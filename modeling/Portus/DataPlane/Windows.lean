import Portus.Lib.Text

/-!
# Budget windows

`portus-dataplane-core/src/ai/budget.rs` `Window` and `portus-ledger/src/budget.rs`
`window_end`: budgets are kept for fixed hours, days and months of UTC. Pod and ledger each
name a window by its end in unix microseconds, the pod from what the ledger last answered,
the ledger from its own clock when a request arrives.
-/

namespace Portus.DataPlane.Budget

inductive Window where
  | hourly
  | daily
  | monthly

def Window.asStr : Window → String
  | .hourly => "HOURLY"
  | .daily => "DAILY"
  | .monthly => "MONTHLY"

/-- Year, month and day of a day since 1970-01-01. The days of a time in 64 bits of microseconds
are fewer than 2^28, so the `i64` and `u32` of the source stay in range. -/
def civilFromDays (z : Int) : Int × Int × Int :=
  let z := z + 719468
  let era := z / 146097
  let doe := z % 146097
  let yoe := (doe - doe / 1460 + doe / 36524 - doe / 146096) / 365
  let y := yoe + era * 400
  let doy := doe - (365 * yoe + yoe / 4 - yoe / 100)
  let mp := (5 * doy + 2) / 153
  let d := doy - (153 * mp + 2) / 5 + 1
  let m := if mp < 10 then mp + 3 else mp - 9
  (if m ≤ 2 then y + 1 else y, m, d)

def daysFromCivil (y m d : Int) : Int :=
  let y := if m ≤ 2 then y - 1 else y
  let era := y / 400
  let yoe := y % 400
  let mp := if m > 2 then m - 3 else m + 9
  let doy := (153 * mp + 2) / 5 + d - 1
  let doe := yoe * 365 + yoe / 4 - yoe / 100 + doy
  era * 146097 + doe - 719468

def microsPerSecond : UInt64 := 1000000

/-- The first day of the month after the day of a time in seconds, in microseconds. -/
def nextMonth (civilFromDays : Int → Int × Int × Int) (daysFromCivil : Int → Int → Int → Int)
    (secs : UInt64) : UInt64 :=
  let (y, m, _) := civilFromDays (secs / 86400).toNat
  let (ny, nm) := if m = 12 then (y + 1, 1) else (y, m + 1)
  UInt64.ofInt (daysFromCivil ny nm 1) * 86400 * microsPerSecond

def Window.endOf (window : Window) (now : UInt64) : UInt64 :=
  let secs := now / microsPerSecond
  match window with
  | .hourly => (secs / 3600 + 1) * 3600 * microsPerSecond
  | .daily => (secs / 86400 + 1) * 86400 * microsPerSecond
  | .monthly => nextMonth civilFromDays daysFromCivil secs

/-- The ledger has copies of the two functions. -/
def ledgerCivilFromDays : Int → Int × Int × Int := civilFromDays

def ledgerDaysFromCivil : Int → Int → Int → Int := daysFromCivil

def windowEnd (window : String) (now : UInt64) : Option UInt64 :=
  let secs := now / microsPerSecond
  match Lib.Text.toAsciiUppercase window with
  | "HOURLY" => some ((secs / 3600 + 1) * 3600 * microsPerSecond)
  | "DAILY" => some ((secs / 86400 + 1) * 86400 * microsPerSecond)
  | "MONTHLY" => some (nextMonth ledgerCivilFromDays ledgerDaysFromCivil secs)
  | _ => none

theorem windowEnd_of_asStr {window : Window} {name : String} {now : UInt64}
    (h : Lib.Text.toAsciiUppercase name = window.asStr) :
    windowEnd name now = some (window.endOf now) := by
  rw [windowEnd, h]
  cases window <;> rfl

@[simp] theorem windowEnd_asStr (window : Window) (now : UInt64) :
    windowEnd window.asStr now = some (window.endOf now) :=
  windowEnd_of_asStr (by cases window <;> rfl)

end Portus.DataPlane.Budget
