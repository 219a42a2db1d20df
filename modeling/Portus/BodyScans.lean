import Mathlib.Data.List.Find
import Portus.DataPlane.ScannedDocuments
import Portus.Lib.Run

/-!
# Scans of a body

Of a JSON object the scanner finds what a parser finds, in whatever chunks the object comes. Of
other bytes it does not always find the same: the bytes of a bare value that is not wanted are
looked at up to the end of the chunk that brings the eighth, so what follows is judged in one
cutting and passed over in another. The scan is the same in every cutting, and so is that of every
beginning of the body, exactly when no such value is a number in its first eight bytes and none as
a whole (a value that ends with a closing bracket is refused in either case).
-/

namespace Portus.BodyScans

open Lib Lib.JsonText DataPlane.Scan FieldScanner List Option

variable {s t : FieldScanner} {b : UInt8}

/-- A key with a backslash is never found. -/
def unheard : String := "\\"

def Unwanted : State → Prop
  | .inString _ wanted => wanted = none
  | .inBare wanted _ => wanted = none
  | _ => True

/-- Without keys the scanner goes the way of one that finds nothing, unless it is done before. -/
inductive Follows : FieldScanner → FieldScanner → Prop
  | done (s t : FieldScanner) (h : t.state = .done .complete) : Follows s t
  | idle (state : State) (token : List UInt8) (captureCompound : Bool) (captureLimit : Nat)
      (h : Unwanted state) :
    Follows { keys := [unheard], state, token, captureCompound, captureLimit }
      { keys := [], state, token, captureCompound, captureLimit }

theorem wantedKey_eq_none (hk : s.keys = [] ∨ s.keys = [unheard]) : s.wantedKey = none := by
  unfold wantedKey
  split
  · rfl
  next hp =>
    have hne : ¬ unheard.toUTF8.data.toList = s.token := fun heq => hp (heq ▸ by decide)
    rcases hk with hk | hk
    · rw [hk]
      rfl
    · rw [hk, find?_singleton, if_neg (by simpa using hne)]
      rfl

theorem follows_step (h : Follows s t) : Follows (s.step b) (t.step b) := by
  cases h with
  | done _ _ hd => exact .done _ _ (by simp only [step, hd])
  | idle state token c n hst =>
    cases state with
    | inKey e =>
      have hkey (keys : List String) (hkeys : keys = [] ∨ keys = [unheard]) : wantedKey
          { keys, state := .inKey e, token, captureCompound := c, captureLimit := n } = none :=
        wantedKey_eq_none hkeys
      cases hp : stringPart e b with
      | closed =>
        simp only [step, hp, hkey [] (.inl rfl), hkey _ (.inr rfl)]
        exact .idle _ _ c n trivial
      | pending e =>
        simp only [step, hp]
        exact .idle _ _ c n trivial
    | inString e w =>
      obtain rfl : w = none := hst
      cases hp : stringPart e b with
      | closed =>
        simp only [step, hp]
        exact .idle _ _ c n trivial
      | pending e =>
        simp only [step, hp]
        exact .idle _ _ c n rfl
    | inNested d i e =>
      cases hsk : skipNestedPart d i e b with
      | some next =>
        simp only [step, hsk, capture]
        exact .idle _ _ c n trivial
      | none =>
        simp only [step, hsk, capture]
        exact .done _ _ rfl
    | inBare w k =>
      obtain rfl : w = none := hst
      simp only [step, endBare, FieldScanner.afterValue]
      cases bareValue token <;> simp only <;> split_ifs <;> exact .idle _ _ c n (by trivial)
    | start | expectKey | expectColon | expectValue | afterValue =>
      simp only [step, beginValue, FieldScanner.afterValue]
      split_ifs <;> exact .idle _ _ c n (by trivial)
    | done p => exact .idle _ _ c n trivial

theorem follows_newChunk (h : Follows s t) : Follows s.newChunk t.newChunk := by
  cases h with
  | done _ _ hd => exact .done _ _ (by simp only [newChunk, hd])
  | idle state token c n hs =>
    cases state with
    | inBare w k | _ => exact .idle _ _ c n hs

theorem follows_foldl (h : Follows s t) (chunks : List (List UInt8)) :
    Follows (chunks.foldl feed s) (chunks.foldl feed t) := by
  have hb (bytes : List UInt8) : ∀ {s t : FieldScanner}, Follows s t →
      Follows (bytes.foldl step s) (bytes.foldl step t) := by
    induction bytes with
    | nil => exact fun h => h
    | cons b bytes ih => exact fun h => ih (follows_step h)
  induction chunks generalizing s t with
  | nil => exact h
  | cons chunk chunks ih => exact ih (hb chunk (follows_newChunk h))

theorem Follows.progress_ne (h : Follows s t) (hs : s.progress ≠ .invalid) :
    t.progress ≠ .invalid := by
  cases h with
  | done _ _ hd =>
    simp only [progress, hd]
    exact Progress.noConfusion
  | idle state token c n _ => exact hs

/-- What a parser finds of a key: the value of its member, or of the first if there are several. -/
def reference (cfg : FieldScanner) (t : Tree) (key : String) : Option Scalar :=
  (t.members.find? fun m => Str.text m.1 = key).map fun m => scalar cfg m.2

theorem get_scanned_eq_reference (hk : key ∈ cfg.keys)
    (t : Tree) (hp : ∀ m ∈ t.members, m.1.all Item.isPlain = true) :
    (scanned cfg t).get key = reference cfg t key := by
  have hn : ∀ m ∈ t.members, decide (Str.plainText m.1 = some key) =
      decide (Str.text m.1 = key) := by
    intro m hm
    rw [decide_eq_decide, Str.plainText, if_pos (hp m hm), some_inj]
  rw [get_scanned hk, firstPlain, Option.map_map, find?_congr hn]
  rfl

/-- However an object is cut, the scanner does not refuse it and finds of each key what a parser
finds. -/
theorem scan_agrees_with_parsing (keys : List String) (captureCompound : Bool) (captureLimit : Nat)
    (d : Document) (hobject : ∃ fields, d.value = .object fields)
    (hplain : ∀ m ∈ d.tree.members, m.1.all Item.isPlain = true)
    (chunks : List (List UInt8)) (hchunks : chunks.flatten = d.bytes) :
    let cfg : FieldScanner := { keys, captureCompound, captureLimit }
    (chunks.foldl feed cfg).progress ≠ .invalid ∧
      ∀ key ∈ keys, (chunks.foldl feed cfg).get key = reference cfg d.tree key := by
  have hs (keys : List String) (hkeys : keys ≠ []) :
      chunks.foldl feed { keys, captureCompound, captureLimit } =
        scanned { keys, captureCompound, captureLimit } d.tree := by
    have hr := @reads_document { keys, captureCompound, captureLimit } hkeys d
    exact hr.feed_foldl ⟨[], rfl⟩ hchunks
  have hc (cfg : FieldScanner) : (scanned cfg d.tree).progress = .complete := by
    obtain ⟨before, tree, after⟩ := d
    obtain ⟨fields, hfi⟩ := hobject
    cases tree with
    | object _ | emptyObject _ => rfl
    | _ => cases hfi
  intro cfg
  by_cases hkeys : keys = []
  · subst hkeys
    have hfo := follows_foldl (.idle .start [] captureCompound captureLimit trivial) chunks
    rw [hs [unheard] (cons_ne_nil _ _)] at hfo
    exact ⟨hfo.progress_ne (by rw [hc]; exact Progress.noConfusion), fun _ hkey => nomatch hkey⟩
  · rw [hs keys hkeys, hc]
    exact ⟨Progress.noConfusion, fun _ hkey => get_scanned_eq_reference hkey d.tree hplain⟩

def oneMember : Document where
  tree := .object (.last { name := [.plain 'a' (by decide) (by decide) (by decide)] }
    (.emptyArray .none) .none)

theorem scan_agrees_with_parsing_oneMember : (oneMember.bytes.map ([·])).flatten = oneMember.bytes ∧
      ((oneMember.bytes.map ([·])).foldl feed
        { keys := ["a"], captureCompound := true, captureLimit := 2 }).get "a" =
        some (.raw (ascii "[]")) := by
  have hc : (oneMember.bytes.map ([·])).flatten = oneMember.bytes := by decide
  have hp : ∀ m ∈ oneMember.tree.members, m.1.all Item.isPlain = true := by
    intro m hm
    obtain rfl := mem_singleton.1 hm
    rfl
  have hs := (scan_agrees_with_parsing ["a"] true 2 oneMember ⟨_, rfl⟩ hp _ hc).2
  exact ⟨hc, (hs "a" (mem_singleton_self _)).trans (by decide)⟩

def Unsplit (cfg : FieldScanner) (body : List UInt8) : Prop :=
  ∀ chunks chunks' : List (List UInt8), chunks.flatten = body → chunks'.flatten = body →
    (chunks.foldl feed cfg).progress = (chunks'.foldl feed cfg).progress ∧
      ∀ key ∈ cfg.keys, (chunks.foldl feed cfg).get key = (chunks'.foldl feed cfg).get key

/-- In the scan of the body in one chunk: a value that is not wanted and ends here is one if its
first eight bytes are. -/
def Judged (s : FieldScanner) (b : UInt8) : Prop :=
  s.state = .inBare none true → isBareEnd b = true → b ≠ ']'.toUInt8 →
    (bareValue (s.token.take 8)).isSome = true → (bareValue s.token).isSome = true

inductive Sim (s : FieldScanner) : FieldScanner → Prop
  | same : Sim s s
  /-- A token may be left over. -/
  | between (token : List UInt8) (h : s.state = .afterValue ∨ s.state = .expectKey) :
    Sim s { s with token }
  | cut (token : List UInt8) (h : s.state = .inBare none true) (hlong : 8 ≤ token.length)
      (hbegins : token <+: s.token) : Sim s { s with state := .inBare none false, token }

def Kept (s : FieldScanner) : Prop := ∀ wanted, s.state ≠ .inBare wanted false

theorem numberLike_of_bareValue (hl : 8 ≤ text.length)
    (h : (bareValue text).isSome = true) : NumberLike text := by
  have hne {literal : List UInt8} (hs : literal.length < 8) : text ≠ literal := by
    rintro rfl
    omega
  unfold bareValue at h
  rw [if_neg (hne (by decide)), if_neg (hne (by decide)), if_neg (hne (by decide))] at h
  cases text with
  | nil => cases h
  | cons first rest =>
    dsimp only at h
    split at h
    next hn =>
      rw [Bool.and_eq_true, Bool.or_eq_true, decide_eq_true_eq, List.all_eq_true] at hn
      exact ⟨first, rest, rfl, hn.1, hn.2⟩
    · cases h

theorem isSome_bareValue_of_prefix {token text : List UInt8} (hl : 8 ≤ token.length)
    (h : token <+: text) (hv : (bareValue text).isSome = true) :
    (bareValue token).isSome = true := by
  obtain ⟨first, rest, ht, hf, ha⟩ :=
    numberLike_of_bareValue (Nat.le_trans hl h.length_le) hv
  have hn : NumberLike token := by
    cases token with
    | nil => cases hl
    | cons b token =>
      obtain rfl : b = first := (List.cons_prefix_cons.1 (ht ▸ h)).1
      exact ⟨b, token, rfl, hf, fun x hx => ha x (h.subset hx)⟩
  rw [bareValue_of_numberLike hn]
  rfl

theorem sim_newChunk (hk : Kept s) (h : Sim s t) : Sim s t.newChunk := by
  cases h with
  | same =>
    cases hst : s.state with
    | inBare wanted kept =>
      obtain rfl : kept = true := Bool.not_eq_false _ ▸ fun hf => hk wanted (hf ▸ hst)
      by_cases hm : (wanted.isSome || decide (s.token.length < 8)) = true
      · have hsa : s.newChunk = s := by
          simp only [newChunk, hst, hm]
          rw [← hst]
        rw [hsa]
        exact .same
      · simp only [newChunk, hst, Bool.eq_false_of_not_eq_true hm]
        rw [Bool.or_eq_true, not_or, not_isSome_iff_eq_none, decide_eq_true_eq] at hm
        obtain ⟨rfl, hl⟩ := hm
        exact .cut s.token hst (Nat.le_of_not_lt hl) (List.prefix_refl _)
    | _ =>
      simp only [newChunk, hst]
      exact .same
  | between token hst =>
    have hsa : newChunk { s with token } = { s with token } := by
      rcases hst with hst | hst <;> simp only [newChunk, hst]
    rw [hsa]
    exact .between token hst
  | cut token hst hl hb =>
    simp only [newChunk, isSome_none, Bool.false_or, decide_eq_false (Nat.not_lt.2 hl)]
    exact .cut token hst hl hb

theorem sim_afterValue (s : FieldScanner) (token : List UInt8) :
    Sim ({ s with state := .afterValue }.afterValue b)
      ({ s with state := .afterValue, token }.afterValue b) := by
  unfold FieldScanner.afterValue
  split_ifs
  · exact .between token (.inl rfl)
  · exact .between token (.inr rfl)
  · exact .same
  · exact .same

theorem sim_step (hj : Judged s b) (h : Sim s t) : Sim (s.step b) (t.step b) := by
  cases h with
  | same => exact .same
  | between token hs =>
    obtain ⟨keys, values, state, text, current, c, n, capturing⟩ := s
    rcases hs with hs | hs
    · obtain rfl : state = .afterValue := hs
      exact sim_afterValue ⟨keys, values, .afterValue, text, current, c, n, capturing⟩ token
    · obtain rfl : state = .expectKey := hs
      simp only [step]
      split_ifs
      · exact .between token (.inr rfl)
      · exact .same
      · exact .same
      · exact .same
  | cut token hs hl hbe =>
    simp only [step, hs]
    by_cases he : isBareEnd b = true
    · rw [if_pos he, if_pos he]
      unfold endBare
      have hstr := isSome_bareValue_of_prefix hl hbe
      cases hv : bareValue s.token with
      | some value =>
        obtain ⟨value', hvalue'⟩ := isSome_iff_exists.1 (hstr (hv ▸ rfl))
        rw [hvalue']
        exact sim_afterValue s token
      | none =>
        cases hvalue' : bareValue token with
        | none => exact .same
        | some value' =>
          -- the first eight bytes pass, so the value ends with a bracket
          have hf : (bareValue (s.token.take 8)).isSome = true := by
            refine isSome_bareValue_of_prefix ?_ ?_ (hvalue' ▸ rfl : (bareValue token).isSome = true)
            · rw [length_take]
              have := hbe.length_le
              omega
            · exact List.prefix_of_prefix_length_le (List.take_prefix 8 _) hbe
                (Nat.le_trans (length_take_le 8 _) hl)
          by_cases hbr : b = ']'.toUInt8
          · subst hbr
            exact .same
          · have hw := hj hs he hbr hf
            rw [hv] at hw
            cases hw
    · rw [if_neg he, if_neg he]
      exact .cut token rfl hl (hbe.trans (List.prefix_append _ _))

theorem step_inBare {wanted : Option String} (h : (s.step b).state = .inBare wanted kept) :
    (s.state = .inBare wanted kept ∧ (s.step b).token = if kept then s.token ++ [b] else s.token) ∨
      (kept = true ∧ (s.step b).token = [b]) := by
  unfold step at h ⊢
  cases hs : s.state with
  | inBare w k =>
    simp only [hs, endBare, settle, FieldScanner.afterValue] at h ⊢
    grind [finish, record]
  | expectValue =>
    simp only [hs, beginValue] at h ⊢
    grind [finish, record]
  | inString e w =>
    grind [finish, settle]
  | inNested d i e =>
    grind [closeNested, finish, settle]
  | start | expectKey | inKey _ | expectColon | afterValue | done _ =>
    simp only [hs, FieldScanner.afterValue] at h
    grind [finish]

theorem kept_step (h : Kept s) : Kept (s.step b) := by
  intro wanted hs
  rcases step_inBare hs with ⟨hb, -⟩ | ⟨hk, -⟩
  · exact h wanted hb
  · cases hk

/-- One byte that comes as a chunk. -/
def stepAlone (s : FieldScanner) (b : UInt8) : FieldScanner := s.newChunk.step b

/-- Of a value that is not wanted no more than eight bytes are kept. -/
def Short (s : FieldScanner) : Prop := ∀ kept, s.state = .inBare none kept → s.token.length ≤ 8

theorem short_stepAlone (h : Short s) : Short (stepAlone s b) := by
  intro kept hst
  unfold stepAlone
  rcases step_inBare hst with ⟨hb, ht⟩ | ⟨-, ht⟩
  · rw [ht]
    cases hs : s.state with
    | inBare wanted k =>
      simp only [newChunk, hs, State.inBare.injEq] at hb ⊢
      obtain ⟨rfl, rfl⟩ := hb
      have hlen := h k hs
      split
      next hl =>
        rw [length_append]
        exact of_decide_eq_true hl
      · exact hlen
    | _ => simp [newChunk, hs] at hb
  · rw [ht, length_singleton]
    omega

theorem progress_of_not_judged (hsi : Sim s t) (hsh : Short t) (h : ¬ Judged s b) :
    (s.step b).progress = .invalid ∧ (stepAlone t b).progress ≠ .invalid := by
  simp only [Judged, Classical.not_imp] at h
  obtain ⟨hst, he, hbr, hf, hn⟩ := h
  rw [Bool.not_eq_true, isSome_eq_false_iff, isNone_iff_eq_none] at hn
  have hw : (s.step b).progress = .invalid := by
    simp only [step, hst, if_pos he, endBare, hn]
    rfl
  refine ⟨hw, ?_⟩
  cases hsi with
  | same =>
    rw [take_of_length_le (hsh true hst), hn] at hf
    cases hf
  | between _ hb' =>
    rw [hst] at hb'
    rcases hb' with h | h <;> cases h
  | cut token _ hl hb =>
    obtain ⟨value, hv⟩ : ∃ value, bareValue token = some value := by
      rwa [← isSome_iff_exists, List.prefix_iff_eq_take.1 hb, Nat.le_antisymm (hsh false rfl) hl]
    simp only [stepAlone, newChunk, step, if_pos he, endBare, hv, FieldScanner.afterValue]
    simp only [isBareEnd, Bool.or_eq_true, decide_eq_true_eq] at he
    split_ifs with h1 h2 h3
    · exact Progress.noConfusion
    · exact Progress.noConfusion
    · exact Progress.noConfusion
    · simp_all

theorem reads_sim (hk : Kept s) (hm : StepsMeet step Judged s l) :
    reader.Reads (Sim s) l (Sim (l.foldl step s)) := by
  induction l generalizing s with
  | nil => exact .nil fun _ h => sim_newChunk hk h
  | cons b l ih =>
    exact .cons (fun _ h => sim_newChunk hk h) (fun _ h => sim_step hm.1 h) (ih (kept_step hk) hm.2)

theorem stepsMeet_of_alone (hk : Kept s) (hsi : Sim s t) (hsh : Short t)
    (h : ∀ p, p <+: body → (p.foldl step s).progress = (p.foldl stepAlone t).progress) :
    StepsMeet step Judged s body := by
  induction body generalizing s t with
  | nil => trivial
  | cons b body ih =>
    have hj : Judged s b := by
      by_contra hnot
      obtain ⟨hw, ha⟩ := progress_of_not_judged hsi hsh hnot
      exact ha ((h [b] (by simp)).symm.trans hw)
    refine ⟨hj, ih (kept_step hk) (sim_step hj (sim_newChunk hk hsi))
      (short_stepAlone hsh) fun p hp => ?_⟩
    exact h (b :: p) (List.cons_prefix_cons.2 ⟨rfl, hp⟩)

theorem Sim.agree (h : Sim s t) : t.progress = s.progress ∧ ∀ key, t.get key = s.get key := by
  cases h with
  | same | between token _ => exact ⟨rfl, fun _ => rfl⟩
  | cut token hs _ _ =>
    refine ⟨?_, fun _ => rfl⟩
    simp only [progress, hs]

/-- Every beginning of a body is scanned the same however it is cut exactly when every value that
is not wanted is judged by all its bytes as by its first eight. -/
theorem unsplit_iff (keys : List String) (captureCompound : Bool) (captureLimit : Nat)
    (body : List UInt8) :
    (∀ p, p <+: body → Unsplit { keys, captureCompound, captureLimit } p) ↔
      StepsMeet step Judged { keys, captureCompound, captureLimit } body := by
  have hk : Kept { keys, captureCompound, captureLimit } := fun _ => State.noConfusion
  constructor
  · intro h
    refine stepsMeet_of_alone hk .same (fun _ => (nomatch ·)) fun p hp => ?_
    have hf : (p.map ([·])).flatten = p := by
      rw [← flatMap_def, flatMap_singleton']
    have ha := (h p hp [p] (p.map ([·])) flatten_singleton hf).1
    rwa [foldl_map] at ha
  · intro hm p hp chunks chunks' hc hchunk
    have hr := reads_sim hk (hm.of_prefix hp)
    obtain ⟨hp', hget⟩ := (hr.feed_foldl .same hc).agree
    obtain ⟨hpr, hget'⟩ := (hr.feed_foldl .same hchunk).agree
    exact ⟨hp'.trans hpr.symm, fun key _ => (hget key).trans (hget' key).symm⟩

def longDigits : List UInt8 := ascii "\x7b\"n\":12345678x,\"model\":\"m\"\x7d"

/-- In one chunk the body is refused; cut behind the eighth digit it has a model. -/
theorem not_unsplit_longDigits : ¬ Unsplit { keys := ["model"] } longDigits := by
  intro h
  have hc := h [longDigits] [longDigits.take 13, longDigits.drop 13] (by decide) (by decide)
  exact absurd hc.1 (by decide)

end Portus.BodyScans
