import Portus.DataPlane.IpFilter

/-!
# The address a request comes from

Behind trusted proxies the client is the last entry of `X-Forwarded-For` that is not one of them;
what stands before it was sent by the client and must not matter. A proxy may add its entry to the
line it received or on a line of its own; the lines are one list. The data plane reads the first
line only.
-/

namespace Portus.ClientAddresses

open Lib DataPlane List Option String

def xffLines (facts : RequestFacts) : List ByteArray :=
  (facts.headers.filter fun h => Text.eqIgnoreAsciiCase h.1 "x-forwarded-for").map (·.2)

def entriesOf (xff : String) : List String := (Text.split ',' xff).map Text.trim

def entries (lines : List ByteArray) : List String :=
  lines.flatMap fun line => entriesOf ((String.fromUTF8? line).getD "")

/-- The last entry that is not a trusted address is an address. -/
def LastUntrustedValid (trusted : List IpNet) (hops : List String) : Prop :=
  ∃ before hop ip after, hops = before ++ hop :: after ∧ IpAddr.parse hop = some ip ∧
    anyContains trusted ip = false ∧
      ∀ h ∈ after, ∃ proxy, IpAddr.parse h = some proxy ∧ anyContains trusted proxy = true

/-- The lines with more lines, and more entries in the first line, in front. -/
def Prepends (lines lines' : List ByteArray) : Prop :=
  ∃ more, lines' = more ++ lines ∨ ∃ front first rest, lines = first :: rest ∧
      lines' = more ++ (front ++ ",".toUTF8 ++ first) :: rest

/-- What is put in front of the entries of the proxies does not change the address, and a peer that
is not trusted is taken for itself. -/
structure ResistsSpoofing (rules : IpRules) (peer : IpAddr) (facts : RequestFacts) : Prop where
  prepended : LastUntrustedValid rules.trustedProxyCidrs (entries (xffLines facts)) →
    ∀ facts', Prepends (xffLines facts) (xffLines facts') →
      clientIp rules (some peer) facts' = clientIp rules (some peer) facts
  untrusted : anyContains rules.trustedProxyCidrs peer = false →
    clientIp rules (some peer) facts = some peer

/-- The peer is not a trusted proxy, or the proxies name no client. -/
def NothingForwarded (rules : IpRules) (peer : IpAddr) (facts : RequestFacts) : Prop :=
  anyContains rules.trustedProxyCidrs peer = false ∨
    ¬ LastUntrustedValid rules.trustedProxyCidrs (entries (xffLines facts))

theorem parse_empty : IpAddr.parse "" = none := by
  decide

theorem clientIp_eq :
    clientIp rules (some peer) facts =
      some (extractClientIp (((xffLines facts).head?.bind fromUTF8?).getD "") peer
        rules.trustedProxyCidrs) := by
  have hf : facts.headerStr "x-forwarded-for" = (xffLines facts).head?.bind fromUTF8? := by
    rw [RequestFacts.headerStr, RequestFacts.header, xffLines, ← head?_filter, head?_map]
  rw [clientIp, hf]
  split
  next he =>
    rw [List.isEmpty_iff.1 he]
    rfl
  next => rfl

theorem clientIp_untrusted (h : anyContains rules.trustedProxyCidrs peer = false) :
    clientIp rules (some peer) facts = some peer := by
  rw [clientIp_eq, extractClientIp, h]
  rfl

def withLine (line : String) (facts : RequestFacts) : RequestFacts :=
  { facts with headers := ("x-forwarded-for", line.toUTF8) :: facts.headers }

theorem xffLines_withLine :
    xffLines (withLine line facts) = line.toUTF8 :: xffLines facts := by
  have hn : Text.eqIgnoreAsciiCase "x-forwarded-for" "x-forwarded-for" = true := by decide
  rw [xffLines, withLine, filter_cons, if_pos hn]
  rfl

theorem clientIp_withLine (htr : anyContains rules.trustedProxyCidrs peer = true)
    (hen : entriesOf line = [line]) (hp : IpAddr.parse line = some ip) :
    clientIp rules (some peer) (withLine line facts) = some ip := by
  have hte : fromUTF8? line.toUTF8 = some line := by
    simp only [fromUTF8?, toUTF8_eq_toByteArray, dif_pos line.isValidUTF8]
    rfl
  have hem : line ≠ "" := by
    rintro rfl
    cases hp
  rw [clientIp_eq, xffLines_withLine, head?_cons, bind_some, hte, extractClientIp, htr, if_neg (by
    decide), if_neg (by simpa using hem)]
  show some ((firstUntrusted _ _ (entriesOf line).reverse).getD
    (((entriesOf line).head?.bind IpAddr.parse).getD peer)) = some ip
  rw [hen, reverse_singleton, head?_cons, bind_some, firstUntrusted, hp]
  dsimp only
  -- an address that is alone on its line is the client, trusted or not
  split <;> rfl

section WalkFromTheRight

variable {trusted : List IpNet} {peer : IpAddr} {front xff : String}

theorem entriesOf_append : entriesOf (front ++ "," ++ xff) = entriesOf front ++ entriesOf xff := by
  have hs : (front ++ "," ++ xff).toList = front.toList ++ ',' :: xff.toList := by simp
  rw [entriesOf, Text.split, hs, Text.splitChars_append]
  simp [entriesOf, Text.split]

theorem firstUntrusted_append {hop : String} {ip : IpAddr} {after : List String}
    (hp : IpAddr.parse hop = some ip) (hn : anyContains trusted ip = false)
    (ha : ∀ h ∈ after, ∃ proxy, IpAddr.parse h = some proxy ∧ anyContains trusted proxy = true)
    (rest : List String) :
    firstUntrusted trusted peer (after ++ hop :: rest) = some ip := by
  induction after with
  | nil => simp [firstUntrusted, hp, hn]
  | cons h after ih =>
    obtain ⟨proxy, hparse, htr⟩ := ha h mem_cons_self
    have hr := ih fun h' hm => ha h' (mem_cons_of_mem _ hm)
    simp only [cons_append, firstUntrusted, hparse, htr, if_true, hr]

theorem extractClientIp_append (hv : LastUntrustedValid trusted (entriesOf xff)) :
    extractClientIp (front ++ "," ++ xff) peer trusted = extractClientIp xff peer trusted := by
  obtain ⟨before, hop, ip, after, he, hp, hn, ha⟩ := hv
  have hw (more : List String) :
      firstUntrusted trusted peer (more ++ entriesOf xff).reverse = some ip := by
    rw [he, ← List.append_assoc, reverse_append, reverse_cons, List.append_assoc]
    exact firstUntrusted_append hp hn (fun h hm => ha h (mem_reverse.1 hm)) _
  have hx : xff.isEmpty = false := by
    rw [String.isEmpty_eq_false_iff]
    rintro rfl
    have hm : hop ∈ [""] := by
      rw [← (by decide +kernel : entriesOf "" = [""]), he]
      simp
    rw [mem_singleton.1 hm, parse_empty] at hp
    cases hp
  have hf : (front ++ "," ++ xff).isEmpty = false := by simp
  unfold extractClientIp
  rw [hx, hf]
  split
  · rfl
  · show (firstUntrusted _ _ (entriesOf _).reverse).getD _ =
      (firstUntrusted _ _ (entriesOf xff).reverse).getD _
    rw [entriesOf_append, hw, ← nil_append (entriesOf xff), hw]
    rfl

/-- Entries put in front of those of the proxies, on the line that is read, change nothing. -/
theorem clientIp_entries_in_front {rules : IpRules} {facts facts' : RequestFacts}
    (hl : (xffLines facts).head?.bind fromUTF8? = some xff)
    (hl' : (xffLines facts').head?.bind fromUTF8? = some (front ++ "," ++ xff))
    (hv : LastUntrustedValid rules.trustedProxyCidrs (entriesOf xff)) :
    clientIp rules (some peer) facts' = clientIp rules (some peer) facts := by
  rw [clientIp_eq, clientIp_eq, hl, hl', getD_some, getD_some, extractClientIp_append hv]

end WalkFromTheRight

/-- The address resists spoofing exactly where nothing is forwarded. -/
theorem resistsSpoofing_iff (rules : IpRules) (peer : IpAddr) (facts : RequestFacts) :
    ResistsSpoofing rules peer facts ↔ NothingForwarded rules peer facts := by
  constructor
  · intro h
    by_contra hnot
    obtain ⟨htr, hc⟩ := not_or.1 hnot
    rw [Bool.not_eq_false] at htr
    rw [not_not] at hc
    have hs (line : String) : clientIp rules (some peer) (withLine line facts) =
        clientIp rules (some peer) facts :=
      h.prepended hc _ ⟨[line.toUTF8], .inl xffLines_withLine⟩
    have ho : IpAddr.parse "1.1.1.1" = some (.v4 [1, 1, 1, 1]) := by decide +kernel
    have htw : IpAddr.parse "2.2.2.2" = some (.v4 [2, 2, 2, 2]) := by decide +kernel
    have hb := ((clientIp_withLine htr (by decide +kernel) ho).symm.trans
      (hs "1.1.1.1")).trans ((hs "2.2.2.2").symm.trans
        (clientIp_withLine htr (by decide +kernel) htw))
    revert hb
    decide
  · rintro (hu | hn)
    · exact ⟨fun _ facts' _ => (clientIp_untrusted hu).trans
        (clientIp_untrusted hu).symm, fun _ => clientIp_untrusted hu⟩
    · exact ⟨fun hc => absurd hc hn, fun hu => clientIp_untrusted hu⟩

/-- A request that came through the proxy 10.0.0.1 from 203.0.113.7. -/
def forwarded : RequestFacts where
  host := "app.example.com"
  path := "/"
  headers := [("X-Forwarded-For", "203.0.113.7".toUTF8)]
  localPort := 80

def proxyRules : IpRules := ⟨[], [], [⟨(· matches .v4 (10 :: _))⟩]⟩

/-- With a line of its own before that of the proxy the client chooses its address. -/
theorem own_line_spoofs : ¬ ResistsSpoofing proxyRules (.v4 [10, 0, 0, 1]) forwarded := by
  intro h
  have hc : LastUntrustedValid proxyRules.trustedProxyCidrs (entries (xffLines forwarded)) :=
    ⟨[], "203.0.113.7", .v4 [203, 0, 113, 7], [], by decide +kernel, by decide +kernel,
      by decide +kernel, fun _ hh => nomatch hh⟩
  have hs := h.prepended hc (withLine "192.0.2.1" forwarded)
    ⟨["192.0.2.1".toUTF8], .inl xffLines_withLine⟩
  revert hs
  decide +kernel

end Portus.ClientAddresses
