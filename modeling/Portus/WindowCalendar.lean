import Mathlib.Order.Bounds.Basic
import Mathlib.Tactic.IntervalCases
import Mathlib.Tactic.SplitIfs
import Portus.DataPlane.Windows

/-!
# Budget windows and the calendar

The windows of budgets are the hours, days and months of UTC, for the pod and for the ledger.
Months go through dates, which `civil_from_days` and `days_from_civil` count in eras of 400 years
that begin in March; `monthStart` adds up the lengths of the months instead.
-/

namespace Portus.DataPlane.Budget

def IsLeap (y : Int) : Prop := 4 ∣ y ∧ (100 ∣ y → 400 ∣ y)

instance : DecidablePred IsLeap := fun _ => inferInstanceAs (Decidable (_ ∧ _))

def daysIn (y m : Int) : Int :=
  if m = 2 then if IsLeap y then 29 else 28
  else if m = 4 ∨ m = 6 ∨ m = 9 ∨ m = 11 then 30 else 31

/-- The day on which a month begins, counted from January 1970. -/
def monthStart : Nat → Int
  | 0 => 0
  | n + 1 => monthStart n + daysIn (1970 + n / 12) (n % 12 + 1)

/-- When a window begins, in unix microseconds. -/
def Window.start (n : Nat) : Window → Int
  | .hourly => n * 3600000000
  | .daily => n * 86400000000
  | .monthly => monthStart n * 86400000000

/-- The day on which a year of an era begins. -/
def yearStart (y : Int) : Int := 365 * y + y / 4 - y / 100 + y / 400

def yearOf (doe : Int) : Int := (doe - doe / 1460 + doe / 36524 - doe / 146096) / 365

variable {a b doe y m d z : Int} {n : Nat}

theorem yearOf_mono (h0 : 0 ≤ a) (h : a ≤ b) (hb : b < 146097) : yearOf a ≤ yearOf b := by
  have h4 : a - a / 1460 ≤ b - b / 1460 := by omega
  have h1 : a / 36524 - a / 146096 ≤ b / 36524 - b / 146096 := by omega
  exact Int.ediv_le_ediv (by decide) (by omega)

theorem yearOf_yearStart : ∀ y < 400, yearOf (yearStart (y : Nat)) = y ∧
    yearOf (yearStart (y + 1 : Nat) - 1) = y := by
  decide +kernel

theorem yearOf_eq (hn : n < 400) (hlo : yearStart n ≤ doe) (hh : doe < yearStart (n + 1)) :
    yearOf doe = n := by
  obtain ⟨hf, hla⟩ := yearOf_yearStart n hn
  unfold yearStart at *
  have h1 := yearOf_mono (by omega) hlo (by omega)
  have h2 := yearOf_mono (by omega) (Int.le_sub_one_of_lt hh) (by omega)
  push_cast at hla
  omega

theorem civilFromDays_daysFromCivil (h1 : 1 ≤ m) (h2 : m ≤ 12) (hd : 1 ≤ d)
    (hd' : d ≤ daysIn y m) : civilFromDays (daysFromCivil y m d) = (y, m, d) := by
  obtain ⟨Y, hY⟩ : ∃ Y, (if m ≤ 2 then y - 1 else y) = Y := ⟨_, rfl⟩
  obtain ⟨yoe, hyo⟩ := Int.eq_ofNat_of_zero_le (Y.emod_nonneg (b := 400) (by decide))
  obtain ⟨mp, hmp⟩ : ∃ mp, (if m > 2 then m - 3 else m + 9) = mp := ⟨_, rfl⟩
  obtain ⟨doy, hdoy⟩ : ∃ doy, (153 * mp + 2) / 5 + d - 1 = doy := ⟨_, rfl⟩
  obtain ⟨doe, hdoe⟩ : ∃ doe, yearStart yoe + doy = doe := ⟨_, rfl⟩
  -- February, the last month of such a year, ends with the year
  have hr : yearStart yoe ≤ doe ∧ doe < yearStart (yoe + 1) ∧ (5 * doy + 2) / 153 = mp := by
    unfold daysIn IsLeap at hd'
    unfold yearStart at *
    interval_cases m <;> simp at * <;> omega
  have hz : daysFromCivil y m d + 719468 = Y / 400 * 146097 + doe ∧ 0 ≤ doe ∧ doe < 146097 ∧
      doe - (365 * (yoe : Int) + yoe / 4 - yoe / 100) = doy := by
    unfold yearStart at hdoe hr
    simp only [daysFromCivil, hY, hyo, hmp, hdoy]
    omega
  have hye := yearOf_eq (by omega) hr.1 hr.2.1
  have he : (daysFromCivil y m d + 719468) / 146097 = Y / 400 := by omega
  have hmo : (daysFromCivil y m d + 719468) % 146097 = doe := by omega
  have hm : (if mp < 10 then mp + 3 else mp - 9) = m := by omega
  unfold yearOf at hye
  simp only [civilFromDays, he, hmo, hye, hz.2.2.2, hr.2.2, hm]
  refine Prod.ext ?_ (Prod.ext rfl ?_) <;> dsimp only <;> omega

theorem monthStart_eq : ∀ n, monthStart n = daysFromCivil (1970 + n / 12) (n % 12 + 1) 1
  | 0 => rfl
  | n + 1 => by
    rw [monthStart, monthStart_eq n]
    obtain ⟨r, hr⟩ : ∃ r, n % 12 = r := ⟨_, rfl⟩
    have hlt : r < 12 := hr ▸ n.mod_lt (by decide)
    unfold daysFromCivil daysIn IsLeap
    dsimp only
    interval_cases r <;> omega

theorem monthStart_lt (n : Nat) : monthStart n < monthStart (n + 1) := by
  rw [monthStart, daysIn]
  split_ifs <;> omega

theorem exists_month (h : 0 ≤ z) : ∃ n, monthStart n ≤ z ∧ z < monthStart (n + 1) := by
  by_contra! hn
  have ha (n : Nat) : n ≤ monthStart n ∧ monthStart n ≤ z := by
    induction n with
    | zero => exact ⟨le_rfl, h⟩
    | succ n ih =>
      have := monthStart_lt n
      exact ⟨by omega, hn n ih.2⟩
  have := ha (z.toNat + 1)
  omega

theorem civilFromDays_month (h : monthStart n ≤ z) (h' : z < monthStart (n + 1)) :
    ∃ d, civilFromDays z = (1970 + (n : Int) / 12, (n : Int) % 12 + 1, d) ∧
      daysFromCivil (1970 + n / 12) (n % 12 + 1) d = z := by
  obtain ⟨d, hd⟩ : ∃ d, z - monthStart n + 1 = d := ⟨_, rfl⟩
  have hz : daysFromCivil (1970 + n / 12) (n % 12 + 1) d = z := by
    rw [← hd, monthStart_eq]
    unfold daysFromCivil
    dsimp only
    omega
  rw [monthStart] at h'
  refine ⟨d, ?_, hz⟩
  rw [← hz]
  exact civilFromDays_daysFromCivil (by omega) (by omega) (by omega) (by omega)

theorem start_lt (w : Window) (n : Nat) : w.start n < w.start (n + 1) := by
  have := monthStart_lt n
  cases w <;> simp only [Window.start] <;> omega

theorem toNat_microsPerSecond : microsPerSecond.toNat = 1000000 := rfl

theorem toNat_windows {x : Nat} {X k : UInt64} (hk : k.toNat = p) (hX : X.toNat = x % 2 ^ 64)
    (h : x * (p * 1000000) < 2 ^ 64) :
    (X * k * microsPerSecond).toNat = x * (p * 1000000) := by
  rw [UInt64.toNat_mul, UInt64.toNat_mul, hX, hk, Nat.mod_mul_mod, Nat.mul_assoc, Nat.mod_mul_mod]
  exact Nat.mod_eq_of_lt h

theorem endOf_fixed {e k : UInt64} (hk : k.toNat = p)
    (he : e = (now / microsPerSecond / k + 1) * k * microsPerSecond) :
    ∃ n, now.toNat / 1000000 / p = n ∧
      ((n + 1) * (p * 1000000) < 2 ^ 64 → e.toNat = (n + 1) * (p * 1000000)) := by
  subst hk he
  refine ⟨_, rfl, toNat_windows rfl ?_⟩
  rw [UInt64.toNat_add, UInt64.toNat_div, UInt64.toNat_div, toNat_microsPerSecond, UInt64.toNat_one]

theorem nextMonth_eq {civil : Int → Int × Int × Int} {days : Int → Int → Int → Int}
    {secs : UInt64} {y m d : Int} (h : civil (secs / 86400).toNat = (y, m, d)) :
    nextMonth civil days secs =
      UInt64.ofInt (days (if m = 12 then y + 1 else y) (if m = 12 then 1 else m + 1) 1) *
        86400 * microsPerSecond := by
  rw [nextMonth, h]
  dsimp only
  split_ifs <;> rfl

theorem endOf_month {n : Nat} (h : monthStart n ≤ now.toNat / 86400000000)
    (h' : now.toNat / 86400000000 < monthStart (n + 1)) : Window.monthly.endOf now =
      UInt64.ofInt (monthStart (n + 1)) * 86400 * microsPerSecond := by
  have hd : (86400 : UInt64).toNat = 86400 := rfl
  obtain ⟨d, hc, -⟩ := civilFromDays_month h h'
  rw [Window.endOf, nextMonth_eq, monthStart_eq]
  rotate_left
  · rw [UInt64.toNat_div, UInt64.toNat_div, hd, toNat_microsPerSecond, ← hc]
    congr 1
    omega
  · congr 4 <;> split_ifs <;> omega

theorem exists_endOf (w : Window) (now : UInt64) : ∃ n, w.start n ≤ now.toNat ∧
    now.toNat < w.start (n + 1) ∧
      (w.start (n + 1) < 2 ^ 64 → (w.endOf now).toNat = w.start (n + 1)) := by
  cases w with
  | hourly =>
    obtain ⟨n, hn, he⟩ := endOf_fixed (e := Window.hourly.endOf now) (p := 3600) rfl rfl
    exact ⟨n, by simp only [Window.start]; omega⟩
  | daily =>
    obtain ⟨n, hn, he⟩ := endOf_fixed (e := Window.daily.endOf now) (p := 86400) rfl rfl
    exact ⟨n, by simp only [Window.start]; omega⟩
  | monthly =>
    obtain ⟨n, h, h'⟩ := exists_month (z := now.toNat / 86400000000) (by omega)
    obtain ⟨x, hx⟩ := Int.eq_ofNat_of_zero_le (show 0 ≤ monthStart (n + 1) by omega)
    have hw : (UInt64.ofInt x).toNat = x % 2 ^ 64 := by
      simp [UInt64.ofInt]
      omega
    have he := toNat_windows (k := 86400) (p := 86400) rfl hw
    rw [← hx, ← endOf_month h h'] at he
    exact ⟨n, by simp only [Window.start]; omega⟩

theorem windows_calendar :
    (∀ (w : Window) (now : UInt64), (∃ n, now.toNat < w.start n ∧ w.start n < 2 ^ 64) →
      IsLeast {b : Int | now.toNat < b ∧ ∃ n, b = w.start n} (w.endOf now).toNat ∧
      (∀ now' : UInt64, (∀ n, w.start n ≤ now'.toNat ↔ w.start n ≤ now.toNat) →
        w.endOf now' = w.endOf now) ∧
      ∀ name, Lib.Text.toAsciiUppercase name = w.asStr → windowEnd name now = some (w.endOf now)) ∧
    (∀ z y m d, 0 ≤ z → civilFromDays z = (y, m, d) → daysFromCivil y m d = z) ∧
    ∀ y m d, 1970 ≤ y → 1 ≤ m → m ≤ 12 → 1 ≤ d → d ≤ daysIn y m →
      civilFromDays (daysFromCivil y m d) = (y, m, d) := by
  refine ⟨fun w now ⟨k, hk, hfit⟩ => ?_, fun z y m d hz hc => ?_, fun y m d _ h1 h2 hd hd' =>
    civilFromDays_daysFromCivil h1 h2 hd hd'⟩
  · have hl (now' : UInt64) (hs : ∀ n, w.start n ≤ now'.toNat ↔ w.start n ≤ now.toNat) :
        IsLeast {b : Int | now.toNat < b ∧ ∃ n, b = w.start n} (w.endOf now').toNat := by
      obtain ⟨n, h, h', he⟩ := exists_endOf w now'
      have hf (k : Nat) (hk : now.toNat < w.start k) : w.start (n + 1) ≤ w.start k := by
        have hm : StrictMono (w.start ·) := strictMono_nat_of_lt_succ (start_lt w)
        refine hm.monotone (hm.lt_iff_lt.1 ?_)
        have := (hs k).not
        omega
      rw [he ((hf k hk).trans_lt hfit)]
      refine ⟨⟨?_, n + 1, rfl⟩, ?_⟩
      · have := (hs (n + 1)).not
        omega
      · rintro _ ⟨hb, j, rfl⟩
        exact hf j hb
    refine ⟨hl now fun _ => .rfl, fun now' hs => ?_, fun name => windowEnd_of_asStr⟩
    have heq := (hl now' hs).unique (hl now fun _ => .rfl)
    exact UInt64.toNat_inj.1 (by omega)
  · obtain ⟨n, h, h'⟩ := exists_month hz
    obtain ⟨d, hd, hba⟩ := civilFromDays_month h h'
    cases hd.symm.trans hc
    exact hba

end Portus.DataPlane.Budget
