import Mathlib.Logic.Function.Basic
import Portus.Lib.Run

/-!
# The compilation loop and its writers

`store.rs` `notify_change`, `take_dirty` and `compiler.rs` `compilation_loop`: a
reconciler writes a map of the store, sets the dirty flag and calls `notify_one`; the
loop awaits a permit, takes further permits until writes are quiet or its deadline has
passed, clears the flag and compiles if it was set. Permits coalesce (`Notify` stores at
most one) and are taken without a compile, so what guarantees that a write is compiled
is the flag and the permit together.
-/

namespace Portus.CompileLoop

open Portus Lib Nat

/-- How far a writer has come; `moment` is when it wrote its map. -/
inductive Writer where
  | idle
  | wrote (moment : Nat)
  | flagged (moment : Nat)
  | completed (moment : Nat)
deriving DecidableEq

inductive Phase where
  /-- At the outer `notified().await`. -/
  | parked
  /-- In the `while` that awaits further permits for `COMPILE_QUIET` each. -/
  | draining
  /-- Before `take_dirty`. -/
  | taking
  /-- The flag was set; `compile_config` is next. -/
  | taken
  | compiling
  /-- With the fingerprint of the compiled configuration. -/
  | comparing (fp : UInt64)
deriving DecidableEq

structure State where
  clock : Nat
  writers : Nat → Writer
  /-- `change_notify`: whether a permit is stored. -/
  permit : Bool
  dirty : Bool
  phase : Phase
  /-- When the last compile the loop ran started. -/
  startedAt : Option Nat
  version : Nat
  lastFingerprint : UInt64
  /-- What was sent to the data planes, newest first. -/
  published : List (Nat × UInt64)

def initial : State where
  clock := 0
  writers _ := .idle
  permit := false
  dirty := true
  phase := .parked
  startedAt := none
  version := 0
  lastFingerprint := 0
  published := []

inductive Action where
  | write (w : Nat)
  | setDirty (w : Nat)
  | notifyOne (w : Nat)
  | await
  | drain (pastDeadline : Bool)
  | quiet
  | takeDirty
  | startCompile
  /-- `none`: `compile_config` panicked. -/
  | endCompile (fp : Option UInt64)
  | publish

namespace State

variable (s : State)

def setWriter (w : Nat) (writer : Writer) : State :=
  { s with writers := Function.update s.writers w writer }

def act : Action → State
  | .write w =>
    match s.writers w with
    | .idle => s.setWriter w (.wrote s.clock)
    | _ => s
  | .setDirty w =>
    match s.writers w with
    | .wrote moment => { s.setWriter w (.flagged moment) with dirty := true }
    | _ => s
  | .notifyOne w =>
    match s.writers w with
    | .flagged moment => { s.setWriter w (.completed moment) with permit := true }
    | _ => s
  | .await =>
    if s.phase = .parked ∧ s.permit then { s with permit := false, phase := .draining } else s
  | .drain pastDeadline =>
    if s.phase = .draining ∧ s.permit then
      { s with permit := false, phase := if pastDeadline then .taking else .draining }
    else s
  | .quiet =>
    -- `timeout` polls `notified()` before the timer, so a stored permit comes first
    if s.phase = .draining ∧ !s.permit then { s with phase := .taking } else s
  | .takeDirty =>
    if s.phase = .taking then
      { s with dirty := false, phase := if s.dirty then .taken else .parked }
    else s
  | .startCompile =>
    if s.phase = .taken then { s with phase := .compiling, startedAt := some s.clock } else s
  | .endCompile fp =>
    if s.phase = .compiling then { s with phase := (fp.map .comparing).getD .parked } else s
  | .publish =>
    match s.phase with
    | .comparing fp =>
      if fp = s.lastFingerprint ∧ 0 < s.version then { s with phase := .parked }
      else
        { s with
          phase := .parked
          version := s.version + 1
          lastFingerprint := fp
          published := (s.version + 1, fp) :: s.published }
    | _ => s

def step (a : Action) : State := { s.act a with clock := s.clock + 1 }

end State

namespace State

variable {s : State}

def CompiledAfter (s : State) (moment : Nat) : Prop :=
  ∃ start, s.startedAt = some start ∧ moment < start

/-- The flag stands, or the loop has taken it and compiles next. -/
def FlagSeen (s : State) : Prop := s.dirty ∨ s.phase = .taken

/-- The loop is going to look at the flag: it is awake, or a permit waits for it. -/
def Awake (s : State) : Prop :=
  s.permit ∨ s.phase = .draining ∨ s.phase = .taking ∨ s.phase = .taken

/-- What a writer's progress guarantees: a write is in the past; from the flag on it is compiled
or the flag is still there for the loop; from the notification on the loop also comes to look. -/
def Kept (s : State) : Writer → Prop
  | .idle => True
  | .wrote moment => moment < s.clock
  | .flagged moment => moment < s.clock ∧ (s.CompiledAfter moment ∨ s.FlagSeen)
  | .completed moment =>
    moment < s.clock ∧ (s.CompiledAfter moment ∨ s.FlagSeen ∧ s.Awake)

def Inv (s : State) : Prop := ∀ w, s.Kept (s.writers w)

theorem Kept.mono {s' : State} (h : s.Kept writer) (hc : s.clock ≤ s'.clock)
    (hf : s.FlagSeen → (∀ moment < s.clock, s'.CompiledAfter moment) ∨ s'.FlagSeen)
    (hw : s.FlagSeen → s.Awake → (∀ moment < s.clock, s'.CompiledAfter moment) ∨
      s'.FlagSeen ∧ s'.Awake)
    (hst : ∀ moment < s.clock, s.CompiledAfter moment → s'.CompiledAfter moment) :
    s'.Kept writer := by
  cases writer with
  | idle => trivial
  | wrote moment => exact Nat.lt_of_lt_of_le h hc
  | flagged moment =>
    obtain ⟨hp, hd | hse⟩ := h
    · exact ⟨by omega, .inl (hst moment hp hd)⟩
    · exact ⟨by omega, (hf hse).imp_left (· moment hp)⟩
  | completed moment =>
    obtain ⟨hp, hd | ⟨hse, ha⟩⟩ := h
    · exact ⟨by omega, .inl (hst moment hp hd)⟩
    · exact ⟨by omega, (hw hse ha).imp_left (· moment hp)⟩

theorem Kept.of_signal {s' : State} (h : s.Kept writer) (hc : s.clock ≤ s'.clock)
    (hst : s'.startedAt = s.startedAt) (hph : s'.phase = s.phase)
    (hdi : s.dirty → s'.dirty) (hpe : s.permit → s'.permit) : s'.Kept writer := by
  have hse : s.FlagSeen → s'.FlagSeen := by
    rintro (hd | hp)
    · exact .inl (hdi hd)
    · exact .inr (hph.trans hp)
  have haw : s.Awake → s'.Awake := by
    rintro (hp | hp)
    · exact .inl (hpe hp)
    · exact .inr (by rwa [hph])
  exact h.mono hc (fun hs => .inr (hse hs)) (fun hs ha => .inr ⟨hse hs, haw ha⟩)
    (fun _ _ => by simp only [CompiledAfter, hst]; exact id)

section

variable (h : s.Inv)

include h

theorem inv_writer {s' : State}
    (hw : s'.writers = Function.update s.writers w writer) (hc : s.clock ≤ s'.clock)
    (hs : s'.startedAt = s.startedAt) (hph : s'.phase = s.phase)
    (hd : s.dirty → s'.dirty) (hpe : s.permit → s'.permit) (ho : s'.Kept writer) :
    s'.Inv := by
  intro v
  rw [hw, Function.update_apply]
  split
  · exact ho
  · exact (h v).of_signal hc hs hph hd hpe

theorem inv_idle : { s with clock := s.clock + 1 }.Inv :=
  fun w => (h w).of_signal (le_succ _) rfl rfl id id

theorem inv_write : (s.step (.write w)).Inv := by
  cases hw : s.writers w with
  | idle =>
    simp only [step, act, hw]
    exact inv_writer h rfl (le_succ _) rfl rfl id id (lt_succ_self _)
  | wrote | flagged | completed => simpa only [step, act, hw] using inv_idle h

theorem inv_setDirty : (s.step (.setDirty w)).Inv := by
  cases hw : s.writers w with
  | wrote moment =>
    have hp : moment < s.clock := by simpa [hw, Kept] using h w
    simp only [step, act, hw]
    exact inv_writer h rfl (le_succ _) rfl rfl (fun _ => rfl) id ⟨lt_succ_of_lt hp, .inr (.inl rfl)⟩
  | idle | flagged | completed => simpa only [step, act, hw] using inv_idle h

theorem inv_notifyOne : (s.step (.notifyOne w)).Inv := by
  cases hw : s.writers w with
  | flagged moment =>
    have hk := h w
    rw [hw] at hk
    simp only [step, act, hw]
    -- the permit is what the flag alone did not give
    exact inv_writer h rfl (le_succ _) rfl rfl id (fun _ => rfl)
      ⟨lt_succ_of_lt hk.1, hk.2.imp_right fun hs => ⟨hs, .inl rfl⟩⟩
  | idle | wrote | completed => simpa only [step, act, hw] using inv_idle h

/-- A step of the loop: it may drop the flag or fall asleep only if a compile that starts then
has seen everything before. -/
theorem inv_loop {s' : State} (hw : s'.writers = s.writers)
    (hc : s'.clock = s.clock + 1)
    (hstar : s'.startedAt = s.startedAt ∨ s'.startedAt = some s.clock)
    (hke : s'.startedAt = some s.clock ∨
      (s.FlagSeen → s'.FlagSeen ∧ (s.Awake → s'.Awake))) : s'.Inv := by
  have hn (hs : s'.startedAt = some s.clock) : ∀ moment < s.clock, s'.CompiledAfter moment :=
    fun moment hp => ⟨s.clock, hs, hp⟩
  intro w
  rw [hw]
  refine (h w).mono (by omega) (fun hse => ?_) (fun hse ha => ?_) fun moment hp hd => ?_
  · exact hke.imp hn fun hk => (hk hse).1
  · exact hke.imp hn fun hk => ⟨(hk hse).1, (hk hse).2 ha⟩
  · rcases hstar with hs | hs
    · obtain ⟨start, hs', hlt⟩ := hd
      exact ⟨start, hs.trans hs', hlt⟩
    · exact hn hs moment hp

theorem inv_await : (s.step .await).Inv := by
  simp only [step, act]
  split
  · rename_i hd
    refine inv_loop h rfl rfl (.inl rfl) (.inr fun hs => ⟨?_, fun _ => .inr (.inl rfl)⟩)
    exact .inl (hs.resolve_right (by simp [hd.1]))
  · exact inv_idle h

theorem inv_drain : (s.step (.drain pastDeadline)).Inv := by
  simp only [step, act]
  split
  · rename_i hd
    refine inv_loop h rfl rfl (.inl rfl) (.inr fun hs => ⟨?_, fun _ => ?_⟩)
    · exact .inl (hs.resolve_right (by simp [hd.1]))
    · cases pastDeadline
      · exact .inr (.inl rfl)
      · exact .inr (.inr (.inl rfl))
  · exact inv_idle h

theorem inv_quiet : (s.step .quiet).Inv := by
  simp only [step, act]
  split
  · rename_i hd
    refine inv_loop h rfl rfl (.inl rfl) (.inr fun hs => ⟨?_, fun _ => .inr (.inr (.inl rfl))⟩)
    exact .inl (hs.resolve_right (by simp [hd.1]))
  · exact inv_idle h

theorem inv_takeDirty : (s.step .takeDirty).Inv := by
  simp only [step, act]
  split
  · rename_i hdu
    refine inv_loop h rfl rfl (.inl rfl) (.inr fun hs => ?_)
    have hdi : s.dirty := hs.resolve_right (by simp [hdu])
    have ht : (if s.dirty then Phase.taken else Phase.parked) = .taken := if_pos hdi
    exact ⟨.inr ht, fun _ => .inr (.inr (.inr ht))⟩
  · exact inv_idle h

theorem inv_startCompile : (s.step .startCompile).Inv := by
  simp only [step, act]
  split
  · exact inv_loop h rfl rfl (.inr rfl) (.inl rfl)
  · exact inv_idle h

theorem inv_afterStart {s' : State} (hw : s'.writers = s.writers)
    (hc : s'.clock = s.clock + 1) (hst : s'.startedAt = s.startedAt)
    (hd : s'.dirty = s.dirty) (hpe : s'.permit = s.permit)
    (hph : s.phase = .compiling ∨ ∃ fp, s.phase = .comparing fp) : s'.Inv := by
  refine inv_loop h hw hc (.inl hst) (.inr fun hse => ⟨?_, fun ha => ?_⟩)
  · exact .inl (hd ▸ hse.resolve_right (by rcases hph with hp | ⟨fp, hp⟩ <;> simp [hp]))
  · exact .inl (hpe ▸ ha.resolve_right (by rcases hph with hp | ⟨fp, hp⟩ <;> simp [hp]))

theorem inv_endCompile : (s.step (.endCompile fp)).Inv := by
  simp only [step, act]
  split
  · rename_i hd
    exact inv_afterStart h rfl rfl rfl rfl rfl (.inl hd)
  · exact inv_idle h

theorem inv_publish : (s.step .publish).Inv := by
  cases hp : s.phase with
  | comparing fp =>
    simp only [step, act, hp]
    split <;> exact inv_afterStart h rfl rfl rfl rfl rfl (.inr ⟨fp, hp⟩)
  | parked | draining | taking | taken | compiling =>
    simpa only [step, act, hp] using inv_idle h

end

theorem inv_step (s : State) (a : Action) (h : s.Inv) : (s.step a).Inv := by
  cases a with
  | write w => exact inv_write h
  | setDirty w => exact inv_setDirty h
  | notifyOne w => exact inv_notifyOne h
  | await => exact inv_await h
  | drain pastDeadline => exact inv_drain h
  | quiet => exact inv_quiet h
  | takeDirty => exact inv_takeDirty h
  | startCompile => exact inv_startCompile h
  | endCompile fp => exact inv_endCompile h
  | publish => exact inv_publish h

/-- A loop that is parked with no permit has, since every completed writer's map write, started a
compile. -/
def NoLostUpdate (s : State) : Prop :=
  s.phase = .parked → s.permit = false →
    ∀ w moment, s.writers w = .completed moment → s.CompiledAfter moment

end State

/-- However writers and loop interleave, no update is lost. -/
theorem noLostUpdate_run (actions : List Action) :
    (run State.step initial actions).NoLostUpdate := by
  intro hpa hpe w moment hw
  have hk := run_keeps State.inv_step (s := initial) (fun _ => trivial) actions w
  rw [hw] at hk
  obtain ⟨-, hd | ⟨-, ha⟩⟩ := hk
  · exact hd
  · simp [State.Awake, hpa, hpe] at ha

-- Two writers, the second in the middle of the compile of the first: the loop comes to rest
-- after a second compile.
example :
    let s := run State.step initial
      [.write 0, .setDirty 0, .notifyOne 0, .await, .quiet, .takeDirty, .startCompile,
        .write 1, .setDirty 1, .notifyOne 1, .endCompile (some 7), .publish,
        .await, .quiet, .takeDirty, .startCompile, .endCompile (some 7), .publish]
    s.phase = .parked ∧ s.permit = false ∧ s.writers 1 = .completed 7 ∧ s.startedAt = some 15 ∧
      s.published = [(1, 7)] := by
  decide

end Portus.CompileLoop
