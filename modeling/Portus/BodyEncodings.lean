import Portus.DataPlane.ScannedBodies

/-!
# Allow lists and the encoding of a body

The allow lists of a key judge what the scanner finds in a body, and the backend reads the body with
a parser of its own, for which the last member of a name counts, a name may be written with escapes,
and an MCP body may be a batch of calls. The lists hold for a request exactly when no document that
its body is asks for something they do not have while its plain reading, which is all the scanner
goes by, asks for something they have or for nothing they judge.
-/

namespace Portus.BodyEncodings

open Lib Lib.JsonText DataPlane DataPlane.Ai DataPlane.Scan DataPlane.Handling

def modelOf (v : Json) : Option String := (v.get "model").bind Json.asStr

def toolCall (v : Json) : Option String :=
  if (v.get "method").bind Json.asStr = some "tools/call" then
    ((v.get "params").bind (Json.get "name")).bind Json.asStr
  else none

def toolCalls : Json → List String
  | .array batch => batch.filterMap toolCall
  | v => (toolCall v).toList

def Allowed (dialect : Dialect) (info : KeyInfo) (v : Json) : Prop :=
  match dialect with
  | .mcp =>
    info.allowedTools ≠ [] → ∀ tool ∈ toolCalls v, toolAllowed info.allowedTools tool = true
  | .anthropic | .openAi =>
    info.allowedModels ≠ [] → ∀ model, modelOf v = some model → model ∈ info.allowedModels

section

variable {Key : Type} (sha : Sha256) (libs : Nat → JwtLibs Key Claims) (toJson : String → String)
  (ai : AiRoute) (ledger : Option (Ledger Key)) (facts : RequestFacts)
  (frames : List (List UInt8)) (now : UInt64) (budget : BudgetOutcome)

/-- A body that is sent on as it came asks for nothing that is not in the caller's lists. -/
def ListsHold : Prop :=
  ∀ caller, handle sha libs toJson ai ledger facts frames now budget = some (caller, frames) →
    ∀ d : Document, d.bytes = frames.flatten → Allowed ai.dialect caller.info d.value

/-- The plain reading of a body asks for something in the lists or, with MCP, for no call. Nothing
is read of a body that the headers do not announce. -/
def PlainlyAllowed (dialect : Dialect) (info : KeyInfo) (announced : Bool) (t : Tree) : Prop :=
  match dialect with
  | .mcp =>
    announced = true → (firstPlain "method" t).bind treeText = some "tools/call" →
      ∃ tool, plainTool t = some tool ∧ toolAllowed info.allowedTools tool = true
  | .anthropic | .openAi =>
    announced = true ∧ ∃ model ∈ info.allowedModels,
      (firstPlain "model" t).bind treeText = some model

/-- The scan of an announced body comes to its end within the limit. -/
def Fits (facts : RequestFacts) (frames : List (List UInt8)) (d : Document) : Prop :=
  facts.hasRequestBody = true → lengthUpTo (settledAt aiBodyKeys d) frames ≤ aiBodyScanLimit

/-- A body of a known caller that is read far enough and plainly asks for something in the lists
asks for nothing else. -/
def AsksPlainly : Prop :=
  ∀ info, (identify sha libs ai ledger facts now).2.2 = .ok info →
    ai.keyRequired = true → budget = .allowed →
    ∀ d : Document, d.bytes = frames.flatten → Fits facts frames d →
      PlainlyAllowed ai.dialect info facts.hasRequestBody d.tree → Allowed ai.dialect info d.value

end

def judged (dialect : Dialect) (announced : Bool) (t : Tree) : Access :=
  if announced then plainAccess dialect t else accessOf dialect none

theorem checkAccess_model (hl : info.allowedModels ≠ []) :
    checkAccess info (.model model) = .ok () ↔ ∃ m ∈ info.allowedModels, model = some m := by
  have he : ¬ info.allowedModels.isEmpty = true := by simpa using hl
  unfold checkAccess
  dsimp only
  rw [if_neg he]
  cases model with
  | none => simp
  | some m =>
    dsimp only
    split
    · next h => exact iff_of_true rfl ⟨m, by simpa using h, rfl⟩
    · next h =>
      refine iff_of_false (fun h => nomatch h) ?_
      rintro ⟨m', hm', heq⟩
      cases heq
      exact h (by simpa using hm')

theorem checkAccess_tool (hl : info.allowedTools ≠ []) :
    checkAccess info (.toolCall tool) = .ok () ↔
      ∃ t, tool = some t ∧ toolAllowed info.allowedTools t = true := by
  have he : ¬ info.allowedTools.isEmpty = true := by simpa using hl
  unfold checkAccess
  dsimp only
  rw [if_neg he]
  cases tool with
  | none => simp
  | some t =>
    dsimp only
    split
    · next h => exact iff_of_true rfl ⟨t, rfl, h⟩
    · next h =>
      refine iff_of_false (fun h => nomatch h) ?_
      rintro ⟨t', heq, ht'⟩
      cases heq
      exact h ht'

/-- Whether the list that counts for a dialect names anything. -/
def Listed (dialect : Dialect) (info : KeyInfo) : Prop :=
  match dialect with
  | .mcp => info.allowedTools ≠ []
  | .anthropic | .openAi => info.allowedModels ≠ []

theorem checkAccess_judged (hl : Listed dialect info) :
    checkAccess info (judged dialect announced t) = .ok () ↔
      PlainlyAllowed dialect info announced t := by
  have hmo (hl : info.allowedModels ≠ []) : checkAccess info
      (if announced then .model ((firstPlain "model" t).bind treeText) else .model none) = .ok () ↔
      announced = true ∧ ∃ model ∈ info.allowedModels,
        (firstPlain "model" t).bind treeText = some model := by
    cases announced with
    | false =>
      refine iff_of_false (fun h => ?_) (fun h => absurd h.1 Bool.false_ne_true)
      obtain ⟨m, -, hm⟩ := (checkAccess_model hl).1 h
      cases hm
    | true => exact (checkAccess_model hl).trans (and_iff_right rfl).symm
  cases dialect with
  | anthropic | openAi => exact hmo hl
  | mcp =>
    cases announced with
    | false => exact iff_of_true rfl fun h => absurd h Bool.false_ne_true
    | true =>
      show checkAccess info (if (firstPlain "method" t).bind treeText = some "tools/call"
        then .toolCall (plainTool t) else .other) = .ok () ↔ _
      split
      · next hc =>
        rw [checkAccess_tool hl]
        exact ⟨fun h _ _ => h, fun h => h rfl hc⟩
      · next hc => exact iff_of_true rfl fun _ h => absurd h hc

theorem allowed_of_not_listed (h : ¬ Listed dialect info) : Allowed dialect info v := by
  cases dialect with
  | mcp | anthropic | openAi => exact fun hl => absurd hl h

section

variable {Key : Type} {sha : Sha256} {libs : Nat → JwtLibs Key Claims} {toJson : String → String}
  {ai : AiRoute} {ledger : Option (Ledger Key)} {facts : RequestFacts}
  {frames : List (List UInt8)} {now : UInt64} {budget : BudgetOutcome} {d : Document}

variable (hd : d.bytes = frames.flatten)

include hd

theorem scanBody_ai : scanBody toJson aiBodyNeed frames =
      if lengthUpTo (settledAt aiBodyKeys d) frames ≤ aiBodyScanLimit
      then .ok (bodyFieldsFrom toJson (scanned (bodyScanner aiBodyNeed) d.tree) aiBodyNeed, frames)
      else .error 413 := by
  rw [scanBody, readFrames_document (by decide) hd]
  exact apply_ite _ _ _ _

theorem exists_requestFields (hf : Fits facts frames d) :
    ∃ fields, requestFields toJson facts frames = .ok (fields, frames) ∧
      accessOf dialect fields = judged dialect facts.hasRequestBody d.tree := by
  unfold requestFields judged
  cases ha : facts.hasRequestBody with
  | false => exact ⟨none, rfl, rfl⟩
  | true =>
    rw [scanBody_ai hd, if_pos (hf ha)]
    exact ⟨_, rfl, accessOf_scanned toJson⟩

theorem requestFields_of_not_fits (h : ¬ Fits facts frames d) :
    requestFields toJson facts frames = .error 413 := by
  obtain ⟨ha, hl⟩ := Classical.not_imp.1 h
  rw [requestFields, if_pos ha, scanBody_ai hd, if_neg hl]
  rfl

omit hd in
theorem admitted_iff (sha : Sha256) (libs : Nat → JwtLibs Key Claims) (ai : AiRoute)
    (ledger : Option (Ledger Key)) (facts : RequestFacts) (now : UInt64) (access : Access)
    (info : KeyInfo) :
    ((admitCaller sha libs ai ledger facts access now).refusal = none ∧
      ∃ caller, (admitCaller sha libs ai ledger facts access now).caller = some caller ∧
        caller.info = info) ↔
    (identify sha libs ai ledger facts now).2.2 = .ok info ∧ ai.keyRequired = true ∧
      checkAccess info access = .ok () := by
  unfold admitCaller
  cases hk : ai.keyRequired with
  | false => simp
  | true =>
    rcases identify sha libs ai ledger facts now with ⟨ledger', viaJwt, refusal | found⟩
    · simp
    · constructor
      · rintro ⟨hr, _, hc, rfl⟩
        cases hc
        refine ⟨rfl, rfl, ?_⟩
        cases ha : checkAccess found access with
        | ok => rfl
        | error refusal => simp [ha] at hr
      · rintro ⟨hf, -, ha⟩
        cases hf
        simp [ha]

theorem exists_handle_iff :
    (∃ caller, handle sha libs toJson ai ledger facts frames now budget = some (caller, frames) ∧
      caller.info = info) ↔
    (identify sha libs ai ledger facts now).2.2 = .ok info ∧ ai.keyRequired = true ∧
      budget = .allowed ∧ Fits facts frames d ∧
      checkAccess info (judged ai.dialect facts.hasRequestBody d.tree) = .ok () := by
  by_cases hfit : Fits facts frames d
  · obtain ⟨fields, hf, hac⟩ :
        ∃ fields, requestFields toJson facts frames = .ok (fields, frames) ∧
          accessOf ai.dialect fields = judged ai.dialect facts.hasRequestBody d.tree :=
      exists_requestFields hd hfit
    rw [handle, hf]
    dsimp only
    rw [hac]
    have had := admitted_iff sha libs ai ledger facts now
      (judged ai.dialect facts.hasRequestBody d.tree) info
    constructor
    · rintro ⟨caller, hh, hi⟩
      split at hh
      · next hl =>
        obtain ⟨_, hc, heq⟩ := Option.map_eq_some_iff.1 hh
        cases heq
        obtain ⟨hk, hreq, hac⟩ := had.1 ⟨hl.1, caller, hc, hi⟩
        exact ⟨hk, hreq, hl.2, hfit, hac⟩
      · cases hh
    · rintro ⟨hk, hreq, hb, -, hac⟩
      obtain ⟨href, caller, hc, hi⟩ := had.2 ⟨hk, hreq, hac⟩
      refine ⟨caller, ?_, hi⟩
      rw [if_pos ⟨href, hb⟩, hc]
      rfl
  · refine iff_of_false ?_ fun h => hfit h.2.2.2.1
    rintro ⟨caller, hh, -⟩
    rw [handle, requestFields_of_not_fits hd hfit] at hh
    cases hh

end

/-- The lists hold exactly for bodies that ask plainly. -/
theorem listsHold_iff {Key : Type} (sha : Sha256) (libs : Nat → JwtLibs Key Claims)
    (toJson : String → String) (ai : AiRoute) (ledger : Option (Ledger Key)) (facts : RequestFacts)
    (frames : List (List UInt8)) (now : UInt64) (budget : BudgetOutcome) :
    ListsHold sha libs toJson ai ledger facts frames now budget ↔
      AsksPlainly sha libs ai ledger facts frames now budget := by
  constructor
  · intro h info hk hr hb d hd hf hp
    by_cases hl : Listed ai.dialect info
    · have ha := (checkAccess_judged hl).2 hp
      obtain ⟨caller, hh, rfl⟩ :=
        (exists_handle_iff hd).2 ⟨hk, hr, hb, hf, ha⟩
      exact h caller hh d hd
    · exact allowed_of_not_listed hl
  · intro h caller hh d hd
    obtain ⟨hk, hr, hb, hf, ha⟩ :=
      (exists_handle_iff hd).1 ⟨caller, hh, rfl⟩
    by_cases hl : Listed ai.dialect caller.info
    · have hp := (checkAccess_judged hl).1 ha
      exact h caller.info hk hr hb d hd hf hp
    · exact allowed_of_not_listed hl

def word : List Char → Str
  | [] => []
  | c :: cs =>
    if h : 0x20 ≤ c.toNat ∧ c ≠ '"' ∧ c ≠ '\\' then .plain c h.1 h.2.1 h.2.2 :: word cs else []

def member (name : Str) (value : Tree) (rest : Option Members) : Members :=
  match rest with
  | none => .last { name } value .none
  | some rest => .cons { name } value .none rest

def twoModels : Document where
  tree := .object <| member (word "model".toList) (.string (word "small".toList)) <| some <|
    member (word "model".toList) (.string (word "large".toList)) none

def batchOfOne : Document where
  tree := .array <| .last .none (.object <|
    member (word "method".toList) (.string (word "tools/call".toList)) <| some <|
    member (word "params".toList)
      (.object (member (word "name".toList) (.string (word "shell".toList)) none)) none) .none

def smallKey : KeyInfo where
  id := 1
  tenant := "eng"
  name := "ci"
  allowedModels := ["small"]
  allowedTools := ["search"]

def oneKeyLedger : Ledger Unit where
  keys :=
    { version := 1
      keys := Table.collect [(Sha256.firstBytes.digest "portus_sk_ci", smallKey)] }
  tokens := { cap := 16 }

def noTokens : JwtLibs Unit Claims := oneToken "https://dex.example.com" "portus" ∅ 600

def route (dialect : Dialect) : AiRoute where
  dialect
  keyRequired := true

def withKey (d : Document) : RequestFacts where
  host := "ai.example.com"
  path := "/v1"
  method := "POST"
  headers :=
    [("x-api-key", "portus_sk_ci".toUTF8), ("content-length", (toString d.bytes.length).toUTF8)]
  localPort := 443

def sent (dialect : Dialect) (d : Document) : Option (Caller × List (List UInt8)) :=
  handle .firstBytes (fun _ => noTokens) id (route dialect) (some oneKeyLedger) (withKey d)
    [d.bytes] 0 .allowed

theorem sent_twoModels : sent .openAi twoModels = some (⟨smallKey, false, none⟩, [twoModels.bytes]) := by
  decide +kernel

theorem sent_batchOfOne : sent .mcp batchOfOne = some (⟨smallKey, false, none⟩, [batchOfOne.bytes]) := by
  decide +kernel

/-- The backend is asked for the model and for the tool that the key does not have. -/
theorem unlisted_passes :
    ¬ ListsHold .firstBytes (fun _ => noTokens) id (route .openAi) (some oneKeyLedger)
      (withKey twoModels) [twoModels.bytes] 0 .allowed ∧
    ¬ ListsHold .firstBytes (fun _ => noTokens) id (route .mcp) (some oneKeyLedger)
      (withKey batchOfOne) [batchOfOne.bytes] 0 .allowed := by
  constructor
  · intro h
    have ha := h _ sent_twoModels twoModels (by simp)
    have hm : modelOf twoModels.value = some "large" := by decide +kernel
    exact absurd (ha (List.cons_ne_nil _ _) "large" hm) (by decide)
  · intro h
    have ha := h _ sent_batchOfOne batchOfOne (by simp)
    have ht : "shell" ∈ toolCalls batchOfOne.value := by decide +kernel
    exact absurd (ha (List.cons_ne_nil _ _) "shell" ht) (by decide +kernel)

end Portus.BodyEncodings
