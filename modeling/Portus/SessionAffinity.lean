import Portus.DataPlane.Planner

/-!
# MCP sessions and the endpoints that hold them

The session id a client holds is the tag of the endpoint that created the session, a dot and the
id of the server (`mcp.rs` `tag_session`, `split_session`, used by `forward` in `proxy.rs`). A
federation keeps the tagged ids of its members in one envelope (`federation.rs`
`encode_sessions`, `decode_sessions`).

On both ways a tag is known by its shape alone, so that an id which has the shape of a tagged one
is not tagged, and comes back without its first half.
-/

namespace Portus.SessionAffinity

open Lib DataPlane List Option Text

def isAsciiHexdigit (c : Char) : Bool :=
  c.isDigit || ('a' ≤ c && c ≤ 'f') || ('A' ≤ c && c ≤ 'F')

/-- Sixteen hexadecimal digits; as bytes or as characters is the same. -/
def isTag (tag : String) : Bool := tag.toList.length == 16 && tag.toList.all isAsciiHexdigit

def tagSession (tag serverId : String) : String := tag ++ (String.singleton '.' ++ serverId)

def splitSession (value : String) : Option String × String :=
  match Text.splitOnce '.' value with
  | some (tag, rest) => if isTag tag && !rest.isEmpty then (some tag, rest) else (none, value)
  | none => (none, value)

/-- SHA-256 of the text of an address, as the libraries compute it. -/
structure AddrDigest where
  digest : SocketAddr → List UInt8
  length_digest : ∀ a, (digest a).length = 32

def hexByte (b : UInt8) : List Char := [(b.toNat / 16).digitChar, (b.toNat % 16).digitChar]

variable (sha : AddrDigest)

def endpointTag (addr : SocketAddr) : String :=
  String.ofList (((sha.digest addr).take 8).flatMap hexByte)

def endpointByTag (pool : LivePool) (tag : String) : Option SocketAddr :=
  (pool.endpoints.find? fun ep => ep.2 && endpointTag sha ep.1 == tag).map (·.1)

def pick (pool : LivePool) (session : Option String) : Option SocketAddr :=
  ((session.bind fun s => (splitSession s).1).bind (endpointByTag sha pool)).or pool.selected

def sentId (session : Option String) : Option String := session.map fun s => (splitSession s).2

def sessionOut (backend : SocketAddr) (id : String) : String :=
  match (splitSession id).1 with
  | some _ => id
  | none => tagSession (endpointTag sha backend) id

def escape : Char → List Char
  | '%' => ['%', '2', '5']
  | ';' => ['%', '3', 'B']
  | '=' => ['%', '3', 'D']
  | c => [c]

/-- `str::replace` of three characters by one. -/
def replace (a b c d : Char) : List Char → List Char
  | x :: y :: z :: rest =>
    if x = a ∧ y = b ∧ z = c then d :: replace a b c d rest else x :: replace a b c d (y :: z :: rest)
  | l => l

def unescape (l : List Char) : List Char :=
  replace '%' '2' '5' '%' (replace '%' '3' 'D' '=' (replace '%' '3' 'B' ';' l))

def encodeSessions (sessions : List (String × String)) : String :=
  "fed." ++ (String.singleton ';').intercalate (sessions.map fun x =>
    x.1 ++ (String.singleton '=' ++ String.ofList (x.2.toList.flatMap escape)))

def decodePair (pair : String) : Option (String × String) := do
  let (member, sid) ← Text.splitOnce '=' pair
  let sid := String.ofList (unescape sid.toList)
  if !member.isEmpty && !sid.isEmpty then some (member, sid) else none

def decodeSessions (value : String) : Option (List (String × String)) := do
  let rest ← Text.stripPrefix "fed." value
  if rest.isEmpty then some [] else (Text.split ';' rest).mapM decodePair

/-- The name of a member, as the controller validates it. -/
structure MemberName where
  text : String
  nonempty : text ≠ ""
  plain : ∀ c ∈ text.toList, c.isAlphanum = true ∨ c = '-' ∨ c = '_'

structure MemberSession where
  name : MemberName
  backend : SocketAddr
  id : String

/-- The sessions of the other members of a federation; names are not used twice. -/
structure Others (name : MemberName) where
  before : List MemberSession
  after : List MemberSession
  fresh : ∀ m ∈ before, m.name.text ≠ name.text

def MemberSession.entry (m : MemberSession) : String × String :=
  (m.name.text, sessionOut sha m.backend m.id)

structure SessionId where
  text : String
  nonempty : text ≠ ""
  visible : ∀ c ∈ text.toList, '!' ≤ c ∧ c ≤ '~'

/-- Who creates a session: the backend of a route, or a member of a federation. -/
inductive Origin where
  | backend
  | member (name : MemberName) (others : Others name)

def Origin.held (created : SocketAddr) (id : String) : Origin → String
  | backend => sessionOut sha created id
  | member name others => encodeSessions <| others.before.map (·.entry sha) ++
      (name.text, sessionOut sha created id) :: others.after.map (·.entry sha)

def Origin.received (value : String) : Origin → Option String
  | backend => some value
  | member name _ => (((decodeSessions value).getD []).find? (·.1 == name.text)).map (·.2)

def TagsDistinct (pool : LivePool) : Prop :=
  ∀ x ∈ pool.endpoints, ∀ y ∈ pool.endpoints, endpointTag sha x.1 = endpointTag sha y.1 → x.1 = y.1

/-- A request with the id the client holds shows the backend its own id, and goes to the endpoint
that created the session while that is ready. -/
structure RoundTrips (origin : Origin) (created : SocketAddr) (id : SessionId) : Prop where
  seen : sentId (origin.received (origin.held sha created id.text)) = some id.text
  pinned : ∀ pool, TagsDistinct sha pool → (created, true) ∈ pool.endpoints →
    pick sha pool (origin.received (origin.held sha created id.text)) = some created

def LooksTagged (id : String) : Prop :=
  ∃ tag rest, id = tagSession tag rest ∧ isTag tag = true ∧ rest ≠ ""

variable {sha}

theorem splitSession_tagSession {id : String} (ht : isTag tag = true) (hid : id ≠ "") :
    splitSession (tagSession tag id) = (some tag, id) := by
  have hd : '.' ∉ tag.toList := by
    intro h
    exact absurd (List.all_eq_true.1 (Bool.and_eq_true_iff.1 ht).2 _ h) (by decide)
  have hs : splitOnce '.' (tagSession tag id) = some (tag, id) :=
    splitOnce_eq_some.2 ⟨rfl, hd⟩
  simp [splitSession, hs, ht, hid]

theorem splitSession_of_not_looksTagged {id : String} (h : ¬ LooksTagged id) :
    splitSession id = (none, id) := by
  unfold splitSession
  split
  next tag rest hs =>
    split
    next ht =>
      simp only [Bool.and_eq_true, Bool.not_eq_true', String.isEmpty_eq_false_iff] at ht
      exact absurd ⟨tag, rest, (splitOnce_eq_some.1 hs).1, ht⟩ h
    next => rfl
  next => rfl

theorem isTag_endpointTag : isTag (endpointTag sha addr) = true := by
  have hd : ∀ n < 16, isAsciiHexdigit n.digitChar = true := by decide
  rw [isTag, endpointTag, String.toList_ofList, Bool.and_eq_true, beq_iff_eq, List.all_eq_true]
  constructor
  · simp [length_flatMap, hexByte, sha.length_digest]
  · intro c hc
    obtain ⟨b, -, hb⟩ := mem_flatMap.1 hc
    have hlt := b.toNat_lt
    rcases mem_pair.1 hb with rfl | rfl
    all_goals exact hd _ (by omega)

theorem sessionOut_ne_empty (id : String) : sessionOut sha backend id ≠ "" := by
  unfold sessionOut
  split
  next ht =>
    rintro rfl
    simp [splitSession, splitOnce] at ht
  next => simp [tagSession]

theorem escape_cases : escape x = [x] ∧ x ≠ '%' ∧ x ≠ ';' ∧ x ≠ '=' ∨
    ∃ y z, escape x = ['%', y, z] ∧ y ∉ ['%', ';', '='] ∧ z ∉ ['%', ';', '='] := by
  unfold escape
  split
  next => exact .inr ⟨_, _, rfl, by decide, by decide⟩
  next => exact .inr ⟨_, _, rfl, by decide, by decide⟩
  next => exact .inr ⟨_, _, rfl, by decide, by decide⟩
  next h1 h2 h3 => exact .inl ⟨rfl, h1, h2, h3⟩

theorem eq_of_escape (hx : escape x = ['%', b, c]) (hd : escape d = ['%', b, c]) : x = d := by
  unfold escape at hx hd
  split at hx <;> split at hd <;> cases hx <;> cases hd <;> rfl

theorem replace_cons (h : x ≠ '%') :
    replace '%' b c d (x :: l) = x :: replace '%' b c d l := by
  match l with
  | [] | [_] => rfl
  | _ :: _ :: _ => rw [replace, if_neg fun h' => h h'.1]

theorem replace_escaped (he : ∀ x, e x = escape x ∨ e x = [x] ∧ x ≠ '%')
    (hd : escape d = ['%', b, c]) (l : List Char) :
    replace '%' b c d (l.flatMap e) = l.flatMap fun x => if x = d then [d] else e x := by
  induction l with
  | nil => rfl
  | cons x l ih =>
    rw [flatMap_cons, flatMap_cons, ← ih]
    by_cases hxd : x = d
    · subst hxd
      rw [if_pos rfl]
      rcases he x with hx | ⟨hx, hne⟩
      · rw [hx, hd]
        exact if_pos ⟨rfl, rfl, rfl⟩
      · rw [hx, singleton_append, replace_cons hne]
        rfl
    · rw [if_neg hxd]
      have hp (hx : e x = [x]) (hne : x ≠ '%') :
          replace '%' b c d (e x ++ l.flatMap e) = e x ++ replace '%' b c d (l.flatMap e) := by
        rw [hx, singleton_append, replace_cons hne]
        rfl
      rcases he x with hx | ⟨hx, hne⟩
      · rcases escape_cases with ⟨hs, hne, -⟩ | ⟨y, z, hyz, hy, hz⟩
        · exact hp (hx.trans hs) hne
        · have ho : ¬ (y = b ∧ z = c) := by
            rintro ⟨rfl, rfl⟩
            exact hxd (eq_of_escape hyz hd)
          rw [hx, hyz]
          show replace '%' b c d ('%' :: y :: z :: l.flatMap e) = _
          rw [replace, if_neg fun h => ho h.2, replace_cons (by simp_all),
            replace_cons (by simp_all)]
          rfl
      · exact hp hx hne

theorem unescape_escape : unescape (l.flatMap escape) = l := by
  rw [unescape, replace_escaped (fun _ => .inl rfl) rfl, replace_escaped ?_ rfl,
    replace_escaped ?_ rfl]
  · have ha (x : Char) : (if x = '%' then ['%'] else if x = '=' then ['='] else
        if x = ';' then [';'] else escape x) = [x] := by
      split_ifs with h1 h2 h3
      · rw [h1]
      · rw [h2]
      · rw [h3]
      · unfold escape
        split <;> first | contradiction | rfl
    simp only [ha]
    exact flatMap_singleton' l
  · intro x
    split_ifs with h1 h2
    · exact .inr ⟨by rw [h1], by rw [h1]; decide⟩
    · exact .inr ⟨by rw [h2], by rw [h2]; decide⟩
    · exact .inl rfl
  · intro x
    split_ifs with h
    · exact .inr ⟨by rw [h], by rw [h]; decide⟩
    · exact .inl rfl

theorem mapM_map_eq_some {l : List α} (h : ∀ x ∈ l, f (g x) = some x) :
    (l.map g).mapM f = some l := by
  induction l with
  | nil => rfl
  | cons x l ih =>
    rw [map_cons, mapM_cons, h x mem_cons_self, ih fun y hy => h y (mem_cons_of_mem x hy)]
    rfl

theorem decodeSessions_encodeSessions
    (h : ∀ x ∈ sessions, x.2 ≠ "" ∧ ∃ name : MemberName, x.1 = name.text) :
    decodeSessions (encodeSessions sessions) = some sessions := by
  let pair (x : String × String) : String :=
    x.1 ++ (String.singleton '=' ++ String.ofList (x.2.toList.flatMap escape))
  have hpl {name : MemberName} {c : Char} (hc : c = ';' ∨ c = '=') : c ∉ name.text.toList := by
    intro hm
    rcases hc with rfl | rfl <;> exact absurd (name.plain _ hm) (by decide)
  have hes (l : List Char) : ';' ∉ l.flatMap escape := by
    intro hm
    obtain ⟨x, -, hx⟩ := mem_flatMap.1 hm
    rcases escape_cases with ⟨hse, -, hne, -⟩ | ⟨y, z, hyz, hy, hz⟩
    · rw [hse] at hx
      exact hne (mem_singleton.1 hx).symm
    · rw [hyz] at hx
      simp only [mem_cons, not_mem_nil, or_false] at hx
      rcases hx with hx | rfl | rfl
      · exact absurd hx (by decide)
      · exact hy (by decide)
      · exact hz (by decide)
  have hpa : ∀ x ∈ sessions, decodePair (pair x) = some x := by
    rintro ⟨_, sid⟩ hx
    obtain ⟨hsi, name, rfl⟩ := h _ hx
    have hsp : splitOnce '=' (pair (name.text, sid)) =
        some (name.text, String.ofList (sid.toList.flatMap escape)) :=
      splitOnce_eq_some.2 ⟨rfl, hpl (.inr rfl)⟩
    simp only [decodePair, hsp, bind_eq_bind, bind_some, String.toList_ofList,
      unescape_escape, String.ofList_toList]
    simp [name.nonempty, hsi]
  have hst : stripPrefix "fed." (encodeSessions sessions) =
      some ((String.singleton ';').intercalate (sessions.map pair)) := stripPrefix_eq_some.2 rfl
  rw [decodeSessions, hst, bind_eq_bind, bind_some]
  cases sessions with
  | nil => rfl
  | cons x rest =>
    have hj := split_intercalate (c := ';') (l := (x :: rest).map pair)
      (cons_ne_nil _ _) fun s hs => by
        obtain ⟨y, hy, rfl⟩ := List.mem_map.1 hs
        obtain ⟨-, name, hn⟩ := h y hy
        simp only [pair, hn, String.toList_append, String.toList_singleton,
          String.toList_ofList, mem_append, not_or]
        exact ⟨hpl (.inl rfl), by decide, hes _⟩
    have hne : ((String.singleton ';').intercalate ((x :: rest).map pair)).isEmpty = false := by
      rw [Bool.eq_false_iff, ne_eq, String.isEmpty_iff]
      intro he
      rw [he] at hj
      have hem : "" = pair x := (List.cons.inj hj).1
      have hl := congrArg String.toList hem
      simp [pair] at hl
    rw [hne, hj]
    exact mapM_map_eq_some hpa

/-- A member of an envelope with its session id. -/
structure Session where
  member : MemberName
  id : String
  nonempty : id ≠ ""

def Session.pair (s : Session) : String × String := (s.member.text, s.id)

theorem Session.pair_injective : Function.Injective Session.pair := by
  rintro ⟨⟨m, _, _⟩, i, _⟩ ⟨⟨m', _, _⟩, i', _⟩ h
  obtain ⟨rfl, rfl⟩ := Prod.mk.inj h
  rfl

theorem envelope_lossless :
    (∀ l : List Session, decodeSessions (encodeSessions (l.map Session.pair)) =
      some (l.map Session.pair)) ∧
    Function.Injective fun l : List Session => encodeSessions (l.map Session.pair) := by
  have hd (l : List Session) : decodeSessions (encodeSessions (l.map Session.pair)) =
      some (l.map Session.pair) := by
    refine decodeSessions_encodeSessions fun x hx => ?_
    obtain ⟨s, -, rfl⟩ := List.mem_map.1 hx
    exact ⟨s.nonempty, s.member, rfl⟩
  refine ⟨hd, fun l l' h => Session.pair_injective.list_map (Option.some.inj ?_)⟩
  rw [← hd l, ← hd l', show encodeSessions _ = _ from h]

theorem received_held (origin : Origin) (id : String) :
    origin.received (origin.held sha created id) = some (sessionOut sha created id) := by
  cases origin with
  | backend => rfl
  | member name others =>
    have he : ∀ x ∈ others.before.map (·.entry sha) ++
        (name.text, sessionOut sha created id) :: others.after.map (·.entry sha),
        x.2 ≠ "" ∧ ∃ name : MemberName, x.1 = name.text := by
      intro x hx
      rcases mem_append.1 hx with hx | hx
      · obtain ⟨m, -, rfl⟩ := List.mem_map.1 hx
        exact ⟨sessionOut_ne_empty _, m.name, rfl⟩
      rcases mem_cons.1 hx with rfl | hx
      · exact ⟨sessionOut_ne_empty _, name, rfl⟩
      · obtain ⟨m, -, rfl⟩ := List.mem_map.1 hx
        exact ⟨sessionOut_ne_empty _, m.name, rfl⟩
    have hb : (others.before.map (·.entry sha)).find? (·.1 == name.text) = none := by
      refine find?_eq_none.2 fun x hx => ?_
      obtain ⟨m, hm, rfl⟩ := List.mem_map.1 hx
      simpa [MemberSession.entry] using others.fresh m hm
    rw [Origin.received, Origin.held, decodeSessions_encodeSessions he, getD_some, find?_append, hb]
    simp

/-- The members `gh` and `wiki` of a federation, with the session of the first. -/
example :
    let wiki : MemberSession := ⟨⟨"wiki", by decide, by simp⟩, .v4 [10, 0, 0, 2] 80, "a=1"⟩
    let gh : Session := ⟨⟨"gh", by decide, by simp⟩, "0000000000000000.s;1", by decide⟩
    let origin := Origin.member gh.member ⟨[wiki], [], by decide⟩
    origin.received (origin.held ⟨fun _ => List.replicate 32 0, fun _ => rfl⟩
      (.v4 [10, 0, 0, 1] 80) "s;1") = some gh.pair.2 := by
  decide

theorem endpointByTag_endpointTag (hd : TagsDistinct sha pool)
    (hr : (addr, true) ∈ pool.endpoints) :
    endpointByTag sha pool (endpointTag sha addr) = some addr := by
  unfold endpointByTag
  cases hfi : pool.endpoints.find? fun ep => ep.2 && endpointTag sha ep.1 == endpointTag sha addr with
  | none => simpa using find?_eq_none.1 hfi _ hr
  | some ep =>
    have hfo := find?_some hfi
    have ht : endpointTag sha ep.1 = endpointTag sha addr := by
      simpa using (Bool.and_eq_true_iff.1 hfo).2
    exact congrArg some (hd _ (mem_of_find?_eq_some hfi) _ hr ht)

/-- Session ids come back as they were assigned, and to where they were, exactly when they do not
look tagged already. -/
theorem roundTrips_iff (sha : AddrDigest) (origin : Origin) (created : SocketAddr) (id : SessionId) :
    RoundTrips sha origin created id ↔ ¬ LooksTagged id.text := by
  constructor
  · rintro ⟨hse, -⟩ ⟨tag, rest, hid, ht, hres⟩
    have hsp : splitSession id.text = (some tag, rest) :=
      hid ▸ splitSession_tagSession ht hres
    rw [received_held, sentId, sessionOut, hsp, map_some, hsp] at hse
    have hl := congrArg String.length (Option.some.inj hse)
    have hdo : (String.singleton '.').length = 1 := rfl
    rw [hid, tagSession, String.length_append, String.length_append, hdo] at hl
    dsimp only at hl
    omega
  · intro h
    have ho : sessionOut sha created id.text = tagSession (endpointTag sha created) id.text := by
      rw [sessionOut, splitSession_of_not_looksTagged h]
    have ht : isTag (endpointTag sha created) = true := isTag_endpointTag
    have hsp := splitSession_tagSession ht id.nonempty
    refine ⟨?_, fun pool hdi hr => ?_⟩
    · rw [received_held, ho, sentId, map_some, hsp]
    · rw [received_held, ho, pick, bind_some, hsp, bind_some,
        endpointByTag_endpointTag hdi hr, some_or]

/-- An id of sixteen digits, a dot and an `x`. -/
def dottedId : SessionId where
  text := "0123456789abcdef.x"
  nonempty := by decide
  visible := by
    have h : ("0123456789abcdef.x".toList.all fun c => decide ('!' ≤ c ∧ c ≤ '~')) = true := by
      decide
    exact fun c hc => of_decide_eq_true (List.all_eq_true.1 h c hc)

/-- The server is asked for the session `x`. -/
theorem dottedId_comes_back_short :
    ¬ RoundTrips ⟨fun _ => List.replicate 32 0, fun _ => rfl⟩ .backend (.v4 [10, 0, 0, 1] 80) dottedId :=
  fun h => absurd h.seen (by decide)

end Portus.SessionAffinity
