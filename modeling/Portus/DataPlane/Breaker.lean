import Mathlib.Data.Nat.Bitwise

/-!
# Circuit breakers

A `CircuitBreaker` (`portus-dataplane-core/src/circuit_breaker.rs`) keeps its state, the second it
changed and two counters in one 64-bit word, so that each operation is a loop around one
compare-and-exchange. An operation takes effect at the exchange that succeeds, which finds the word
as it was read; it is one function of the word here. The clock (`now_secs`, seconds since the
breaker was made) is an argument.
-/

namespace Portus.DataPlane

inductive CircuitState where
  | closed
  | opened
  | halfOpen
deriving DecidableEq

structure BreakerConfig where
  failureThreshold : UInt16 := 5
  successThreshold : UInt16 := 1
  timeoutSecs : UInt32 := 30
deriving DecidableEq

/-! ## The word

State in bits 63 and 62, the second in 61 to 32, failures in 31 to 16, successes in 15 to 0. -/

def CircuitState.code : CircuitState → UInt64
  | .closed => 0
  | .opened => 1
  | .halfOpen => 2

def pack (state : CircuitState) (timestamp : UInt32) (failures successes : UInt16) : UInt64 :=
  state.code <<< 62 ||| (timestamp.toUInt64 &&& 0x3FFFFFFF) <<< 32 ||| failures.toUInt64 <<< 16 |||
    successes.toUInt64

def extractState (packed : UInt64) : CircuitState :=
  if packed >>> 62 = 1 then .opened else if packed >>> 62 = 2 then .halfOpen else .closed

def extractTimestamp (packed : UInt64) : UInt32 := ((packed >>> 32) &&& 0x3FFFFFFF).toUInt32

def extractFailures (packed : UInt64) : UInt16 := ((packed >>> 16) &&& 0xFFFF).toUInt16

def extractSuccesses (packed : UInt64) : UInt16 := (packed &&& 0xFFFF).toUInt16

def countUp (n : UInt16) : UInt16 := if n = 0xFFFF then n else n + 1

structure CircuitBreaker where
  config : BreakerConfig
  state : UInt64 := pack .closed 0 0 0

namespace CircuitBreaker

def currentState (cb : CircuitBreaker) : CircuitState := extractState cb.state

def timedOut (cb : CircuitBreaker) (now : UInt32) : Bool :=
  now - extractTimestamp cb.state ≥ cb.config.timeoutSecs

/-- A closed breaker lets every request through, an open one the first after its timeout, which
makes it half-open, and a half-open one none. -/
def allowRequest (cb : CircuitBreaker) (now : UInt32) : CircuitBreaker × Bool :=
  match cb.currentState with
  | .closed => (cb, true)
  | .opened =>
    if cb.timedOut now then ({ cb with state := pack .halfOpen now 0 0 }, true) else (cb, false)
  | .halfOpen => (cb, false)

def lastSuccess (cb : CircuitBreaker) : Bool :=
  countUp (extractSuccesses cb.state) ≥ cb.config.successThreshold

def recordSuccess (cb : CircuitBreaker) (now : UInt32) : CircuitBreaker :=
  match cb.currentState with
  | .closed =>
    let successes := countUp (extractSuccesses cb.state)
    { cb with state := pack .closed (extractTimestamp cb.state) 0 successes }
  | .halfOpen =>
    let successes := countUp (extractSuccesses cb.state)
    if cb.lastSuccess then { cb with state := pack .closed now 0 0 }
    else { cb with state := pack .halfOpen (extractTimestamp cb.state) 0 successes }
  | .opened => cb

def recordFailure (cb : CircuitBreaker) (now : UInt32) : CircuitBreaker :=
  match cb.currentState with
  | .closed =>
    let failures := countUp (extractFailures cb.state)
    if failures ≥ cb.config.failureThreshold then { cb with state := pack .opened now failures 0 }
    else { cb with state := pack .closed (extractTimestamp cb.state) failures 0 }
  | .halfOpen => { cb with state := pack .opened now 0 0 }
  | .opened => cb

def record (cb : CircuitBreaker) (status : UInt16) (now : UInt32) : CircuitBreaker :=
  if status ≥ 500 then cb.recordFailure now else cb.recordSuccess now

end CircuitBreaker

theorem shiftLeft_or (i : Nat) (ha : a * 2 ^ i < 2 ^ 64) (hb : b < 2 ^ i) :
    a <<< i % 2 ^ 64 ||| b = a * 2 ^ i + b := by
  rw [← Nat.shiftLeft_eq] at ha
  rw [Nat.mod_eq_of_lt ha, ← Nat.shiftLeft_add_eq_or_of_lt hb, Nat.shiftLeft_eq]

theorem toNat_pack : (pack state timestamp failures successes).toNat = state.code.toNat * 2 ^ 62 +
      (timestamp.toNat % 2 ^ 30 * 2 ^ 32 + (failures.toNat * 2 ^ 16 + successes.toNat)) := by
  have hc : state.code.toNat < 4 := by cases state <;> decide
  have hf := failures.toNat_lt
  have hs := successes.toNat_lt
  unfold pack
  simp only [UInt64.toNat_or, UInt64.toNat_shiftLeft, UInt64.toNat_and, UInt32.toNat_toUInt64,
    UInt16.toNat_toUInt64, Nat.or_assoc]
  rw [show UInt64.toNat 62 % 64 = 62 from rfl, show UInt64.toNat 32 % 64 = 32 from rfl,
    show UInt64.toNat 16 % 64 = 16 from rfl, show UInt64.toNat 1073741823 = 2 ^ 30 - 1 from rfl,
    Nat.and_two_pow_sub_one_eq_mod, shiftLeft_or 16 (by omega) hs,
    shiftLeft_or 32 (by omega) (by omega), shiftLeft_or 62 (by omega) (by omega)]

section Fields

variable (state : CircuitState) (timestamp : UInt32) (failures successes : UInt16)

@[simp] theorem extractState_pack :
    extractState (pack state timestamp failures successes) = state := by
  have hf := failures.toNat_lt
  have hs := successes.toNat_lt
  have hc : pack state timestamp failures successes >>> 62 = state.code := by
    apply UInt64.toNat_inj.1
    rw [UInt64.toNat_shiftRight, toNat_pack, show UInt64.toNat 62 % 64 = 62 from rfl]
    omega
  rw [extractState, hc]
  cases state <;> rfl

@[simp] theorem extractSuccesses_pack :
    extractSuccesses (pack state timestamp failures successes) = successes := by
  have hs := successes.toNat_lt
  apply UInt16.toNat_inj.1
  rw [extractSuccesses, UInt64.toNat_toUInt16, UInt64.toNat_and, toNat_pack,
    show UInt64.toNat 65535 = 2 ^ 16 - 1 from rfl, Nat.and_two_pow_sub_one_eq_mod]
  omega

end Fields

namespace CircuitBreaker

@[simp] theorem currentState_mk (config : BreakerConfig) (state : CircuitState)
    (timestamp : UInt32) (failures successes : UInt16) :
    currentState ⟨config, pack state timestamp failures successes⟩ = state :=
  extractState_pack state timestamp failures successes

theorem allowRequest_cases (cb : CircuitBreaker) (now : UInt32) :
    (cb.currentState = .opened ∧ cb.timedOut now = true ∧ (cb.allowRequest now).2 = true ∧
        (cb.allowRequest now).1.currentState = .halfOpen) ∨
      (¬ (cb.currentState = .opened ∧ cb.timedOut now = true) ∧ (cb.allowRequest now).1 = cb) := by
  unfold allowRequest
  cases hs : cb.currentState with
  | closed => simp
  | halfOpen => simp
  | opened => cases ht : cb.timedOut now <;> simp

theorem exists_allowRequest_iff (cb : CircuitBreaker) :
    (∃ now, (cb.allowRequest now).2 = true) ↔ cb.currentState ≠ .halfOpen := by
  unfold allowRequest
  cases hs : cb.currentState with
  | closed => simp
  | halfOpen => simp
  | opened =>
    refine iff_of_true ⟨cb.config.timeoutSecs + extractTimestamp cb.state, ?_⟩ (nomatch ·)
    have ht : cb.timedOut (cb.config.timeoutSecs + extractTimestamp cb.state) = true := by
      simp [timedOut]
    simp [ht]

theorem record_halfOpen_iff (cb : CircuitBreaker) (status : UInt16) (now : UInt32) :
    (cb.record status now).currentState = .halfOpen ↔
      cb.currentState = .halfOpen ∧ ¬ status ≥ 500 ∧ cb.lastSuccess = false := by
  unfold record
  split
  next hf =>
    refine iff_of_false ?_ fun h => h.2.1 hf
    unfold recordFailure
    dsimp only
    split
    · split <;> simp
    · simp
    next hs => simp [hs]
  next hok =>
    unfold recordSuccess
    split
    next hs => simp [hs]
    next hs => cases hl : cb.lastSuccess <;> simp [hs, hok]
    next hs => simp [hs]

end CircuitBreaker

end Portus.DataPlane
