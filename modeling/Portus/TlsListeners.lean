import Portus.ConfigHistory

/-!
# TLS listeners of several ports

The SNI routes of a configuration are gathered by the hostname of their listener alone, and the
certificates of its listeners in one map by hostname. What listeners of one hostname on two ports
are to keep apart is merged.
-/

namespace Portus.TlsListeners

open Lib Lib.Text Proto DataPlane ConfigHistory List Option

variable {Key : Type} (load : String → String → Option Key)

section Routes

def backendOf (r : TlsPassthroughRoute) : Slot := (r.backendService, r.backendPort.toUInt16)

def certOf (r : TlsPassthroughRoute) : Option Key :=
  if r.tlsMode == "Terminate" && !r.certPem.isEmpty && !r.keyPem.isEmpty then
    load r.certPem r.keyPem
  else none

/-- The routes of the port and the hostname of a route. -/
def ownRoutes (c : CompiledConfig) (r : TlsPassthroughRoute) : List TlsPassthroughRoute :=
  c.tlsPassthroughRoutes.filter fun r' =>
    r'.listenerHostname = r.listenerHostname ∧ r'.listenerPort = r.listenerPort

/-- A listener with the routes, the mode and the certificate of some routes; a server name that two
of them have is the last one's. -/
structure Gathers (own : List TlsPassthroughRoute) (l : TlsPassthroughListener Key) : Prop where
  routes : ∀ host, l.routes.lookup host =
    (own.filter (host ∈ ·.sniHostnames)).getLast?.map backendOf
  mode : ∀ r ∈ own, l.terminate = (r.tlsMode == "Terminate")
  cert : l.cert = own.findSome? (certOf load)
  port : ∀ r ∈ own, l.listenerPort.toNat = r.listenerPort.toNat

/-- Listeners are kept by hostname, so a pair has one at most. -/
def Separate (c : CompiledConfig) : Prop :=
  ∀ r ∈ c.tlsPassthroughRoutes, ∃ l,
    (buildL4ConfigFromProto load c).tlsListeners.lookup r.listenerHostname = some l ∧
      Gathers load (ownRoutes c r) l

/-- Routes of listeners of one hostname have one port, which fits in 16 bits, and one mode. -/
def OneListenerEach (c : CompiledConfig) : Prop :=
  ∀ r ∈ c.tlsPassthroughRoutes, r.listenerPort.toNat < 65536 ∧
    ∀ r' ∈ c.tlsPassthroughRoutes, r'.listenerHostname = r.listenerHostname →
      r'.listenerPort = r.listenerPort ∧ (r'.tlsMode == "Terminate") = (r.tlsMode == "Terminate")

/-- What a route makes of the listener it is added to. -/
def merged (o : Option (TlsPassthroughListener Key)) (r : TlsPassthroughRoute) :
    TlsPassthroughListener Key :=
  let entry := o.getD ⟨∅, r.tlsMode == "Terminate", certOf load r, r.listenerPort.toUInt16⟩
  { entry with
    cert := entry.cert.or (certOf load r)
    listenerPort := if entry.listenerPort = 0 then r.listenerPort.toUInt16 else entry.listenerPort
    routes := r.sniHostnames.foldl (fun t host => t.insert host (backendOf r)) entry.routes }

variable {load}

theorem lookup_addTlsRoute (t : Table String (TlsPassthroughListener Key))
    (r : TlsPassthroughRoute) (h : String) : (addTlsRoute load t r).lookup h =
      if r.listenerHostname = h then some (merged load (t.lookup h) r) else t.lookup h := by
  split
  next hr =>
    subst hr
    exact AList.lookup_insert _
  next hr => exact AList.lookup_insert_ne (Ne.symm hr)

theorem lookup_foldl (routes : List TlsPassthroughRoute)
    (t : Table String (TlsPassthroughListener Key)) (h : String) :
    (routes.foldl (addTlsRoute load) t).lookup h =
      (routes.filter (·.listenerHostname = h)).foldl (fun o r => some (merged load o r))
        (t.lookup h) := by
  induction routes generalizing t with
  | nil => rfl
  | cons r routes ih =>
    rw [foldl_cons, ih, lookup_addTlsRoute]
    by_cases hr : r.listenerHostname = h <;> simp [hr]

theorem lookup_hostnames (hostnames : List String) {t : Table String (TlsPassthroughListener Key)}
    {h : String} {l : TlsPassthroughListener Key} (ht : t.lookup h = some l) :
    (hostnames.foldl (fun t host =>
      if (t.lookup host).isSome then t else t.insert host ⟨∅, false, none, 0⟩) t).lookup h =
        some l := by
  induction hostnames generalizing t with
  | nil => exact ht
  | cons host hostnames ih =>
    rw [foldl_cons]
    split
    next => exact ih ht
    next hn =>
      refine ih ((AList.lookup_insert_ne ?_).trans ht)
      rintro rfl
      rw [ht] at hn
      exact hn rfl

theorem lookup_sniHostnames (hosts : List String) (t : Table String Slot) (b : Slot)
    (host : String) :
    (hosts.foldl (fun t host => t.insert host b) t).lookup host =
      if host ∈ hosts then some b else t.lookup host := by
  induction hosts generalizing t with
  | nil => rfl
  | cons x hosts ih =>
    rw [foldl_cons, ih]
    by_cases hx : host = x
    · subst hx
      simp
    · simp [hx, AList.lookup_insert_ne]

theorem getLast?_filter_concat (own : List TlsPassthroughRoute) (r : TlsPassthroughRoute)
    (host : String) : ((own ++ [r]).filter (host ∈ ·.sniHostnames)).getLast? =
      if host ∈ r.sniHostnames then some r
      else (own.filter (host ∈ ·.sniHostnames)).getLast? := by
  split <;> simp_all

theorem exists_gathers {own : List TlsPassthroughRoute} {port : UInt32} {mode : Bool}
    (hne : own ≠ [])
    (h : ∀ r ∈ own, r.listenerPort = port ∧ (r.tlsMode == "Terminate") = mode)
    (hp : port.toNat < 65536) :
    ∃ l, own.foldl (fun o r => some (merged load o r)) none = some l ∧ Gathers load own l := by
  induction own using List.reverseRecOn with
  | nil => exact absurd rfl hne
  | append_singleton own r ih =>
    have hr := h r (mem_append_right _ (mem_singleton_self r))
    have h16 : r.listenerPort.toUInt16.toNat = r.listenerPort.toNat := by
      rw [hr.1, UInt32.toNat_toUInt16, Nat.mod_eq_of_lt hp]
    rw [foldl_concat]
    refine ⟨_, rfl, ?_⟩
    rcases eq_or_ne own [] with rfl | ho
    · refine ⟨fun host => ?_, by simp [merged], by simp [merged], fun r' h' => ?_⟩
      · rw [getLast?_filter_concat, merged, lookup_sniHostnames]
        split <;> rfl
      · rw [mem_singleton.1 h', ← h16]
        exact congrArg UInt16.toNat (ite_self _)
    · obtain ⟨l, hl, hro, hm, hc, hpo⟩ := ih ho fun r' h' => h r' (mem_append_left _ h')
      obtain ⟨r0, h0⟩ := exists_mem_of_ne_nil own ho
      have hr0 := h r0 (mem_append_left _ h0)
      rw [hl]
      refine ⟨fun host => ?_, fun r' h' => ?_, ?_, fun r' h' => ?_⟩
      · rw [getLast?_filter_concat, merged, lookup_sniHostnames]
        split
        · rfl
        · exact hro host
      · exact (hm r0 h0).trans (hr0.2.trans (h r' h').2.symm)
      · simp [merged, hc, findSome?_append]
      · rw [(h r' h').1, ← hr0.1, ← hpo r0 h0]
        dsimp [merged]
        split
        next hz => rw [h16, hr.1, ← hr0.1, ← hpo r0 h0]
        next => rfl

theorem separate_iff (load : String → String → Option Key) (c : CompiledConfig) :
    Separate load c ↔ OneListenerEach c := by
  constructor
  · intro h r hr
    obtain ⟨l, hl, hg⟩ := h r hr
    have hp := hg.port r (mem_filter.2 ⟨hr, by simp⟩)
    refine ⟨hp ▸ l.listenerPort.toNat_lt, fun r' hr' heq => ?_⟩
    obtain ⟨l', hl', hg'⟩ := h r' hr'
    rw [heq, hl] at hl'
    cases hl'
    have hpo : r'.listenerPort = r.listenerPort :=
      UInt32.toNat_inj.1 ((hg'.port r' (mem_filter.2 ⟨hr', by simp⟩)).symm.trans hp)
    refine ⟨hpo, ?_⟩
    rw [← hg.mode r (mem_filter.2 ⟨hr, by simp⟩),
      ← hg.mode r' (mem_filter.2 ⟨hr', by simp [heq, hpo]⟩)]
  · intro h r hr
    obtain ⟨hp, ho⟩ := h r hr
    have hown : ownRoutes c r =
        c.tlsPassthroughRoutes.filter (·.listenerHostname = r.listenerHostname) := by
      refine filter_congr fun r' hr' => ?_
      rw [decide_eq_decide]
      exact and_iff_left_of_imp fun heq => (ho r' hr' heq).1
    have hm : r ∈ ownRoutes c r := mem_filter.2 ⟨hr, by simp⟩
    have he : ∃ l, (ownRoutes c r).foldl (fun o r => some (merged load o r)) none = some l ∧
        Gathers load (ownRoutes c r) l := exists_gathers (ne_nil_of_mem hm) (fun r' h' =>
      ho r' (mem_filter.1 h').1 (of_decide_eq_true (mem_filter.1 h').2).1) hp
    obtain ⟨l, hl, hg⟩ := he
    refine ⟨l, lookup_hostnames _ ?_, hg⟩
    rwa [lookup_foldl, ← hown]

def tlsRoute (port : UInt32) (backend : String) : TlsPassthroughRoute :=
  ⟨["db.example.com"], backend, 5432, "tls", "db.example.com", "Passthrough", "", "", port,
    "infra", "gw"⟩

/-- One hostname on two ports. -/
theorem two_ports_not_separate : ¬ Separate (fun _ _ => (none : Option String))
    { plainConfig with tlsPassthroughRoutes := [tlsRoute 443 "a", tlsRoute 8443 "b"] } := by
  intro h
  obtain ⟨l, hl, hg⟩ := h (tlsRoute 8443 "b") (by simp)
  have hp := hg.port (tlsRoute 8443 "b") (by simp [ownRoutes, tlsRoute])
  cases hl
  revert hp
  decide +kernel

end Routes

section Certificates

/-- The listeners whose certificate loads. -/
def secured (c : CompiledConfig) : List (Listener × Key) :=
  c.listeners.filterMap fun l =>
    (tlsCertEntry l).bind fun e => (load e.certPem e.keyPem).map (l, ·)

def oneLabel (suffix sni : String) : Bool :=
  (stripSuffix suffix sni).any fun label => !label.toList.contains '.' && !label.isEmpty

def resolve (m : CertMap Key) (sni : String) : Option Key :=
  (m.exact.lookup sni).or (((m.wildcard.find? (oneLabel ·.1 sni)).map (·.2)).or m.default)

/-- No hostname covers every name, a wildcard those with one label more, and a name itself. -/
def covers (sni : String) : Fin 3 → Listener × Key → Bool
  | 0, x => x.1.hostname.isEmpty
  | 1, x => startsWith x.1.hostname "*." && oneLabel (.ofList (x.1.hostname.toList.drop 1)) sni
  | 2, x => x.1.hostname = sni && (!x.1.hostname.isEmpty && !startsWith x.1.hostname "*.")

def BestOn (ls : List (Listener × Key)) (sni : String) (x : Listener × Key) : Prop :=
  x ∈ ls ∧ ∃ n, covers sni n x = true ∧ ∀ y ∈ ls, ∀ m, covers sni m y = true → m ≤ n

/-- The last listener of a name or of none decides, and the first wildcard. -/
def decides (ls : List (Listener × Key)) (sni : String) : Option (Listener × Key) :=
  (ls.filter (covers sni 2)).getLast?.or
    ((ls.find? (covers sni 1)).or (ls.filter (covers sni 0)).getLast?)

/-- What a handshake with the server name is presented, on any port. -/
def presented (env : Env Key) (c : CompiledConfig) (sni : String) : Option Key :=
  (tlsCertData c).bind fun data => resolve (serve env data).1 sni

def onPort (c : CompiledConfig) (port : UInt32) : CompiledConfig :=
  { c with listeners := c.listeners.filter (·.port = port) }

def isHttps (x : Listener × Key) : Bool := x.1.protocol = "HTTPS"

/-- The certificate is that of the most specific HTTPS listener of the port, and the listeners of
other ports do not change it. -/
structure PresentsOwn (env : Env Key) (c : CompiledConfig) (port : UInt32) (sni : String) :
    Prop where
  best : ∀ x, BestOn ((secured env.load (onPort c port)).filter isHttps) sni x →
    presented env c sni = some x.2
  frame : presented env c sni = presented env (onPort c port) sni

def OwnCertificates (env : Env Key) (c : CompiledConfig) : Prop :=
  ∀ l ∈ c.listeners, l.protocol = "HTTPS" → ∀ sni, PresentsOwn env c l.port sni

/-- The ports agree on the certificates of their hostnames. -/
structure PortsAgree (c : CompiledConfig) : Prop where
  /-- A hostname has one certificate. -/
  certificate : ∀ x ∈ secured load c, ∀ y ∈ secured load c, x.1.hostname = y.1.hostname → x.2 = y.2
  /-- A port with HTTPS listeners has one of each hostname, or the same certificate throughout. -/
  hostname : ∀ l ∈ c.listeners, l.protocol = "HTTPS" → ∀ x ∈ secured load c,
    ∃ y ∈ (secured load (onPort c l.port)).filter isHttps, y.1.hostname = x.1.hostname ∨
      ∀ z ∈ secured load (onPort c l.port), z.2 = x.2
  /-- A listener has no hostname, or the first one of a port has the certificate of the first. -/
  first : (∃ x ∈ secured load c, x.1.hostname = "") ∨ ∀ l ∈ c.listeners, l.protocol = "HTTPS" →
    (secured load (onPort c l.port)).head?.map (·.2) = (secured load c).head?.map (·.2)

theorem resolve_swapMap (ls : List (Listener × Key)) (sni : String) :
    resolve (swapMap (ls.map fun x => (x.1.hostname, x.2))) sni =
      ((decides ls sni).or ls.head?).map (·.2) := by
  simp only [resolve, swapMap, Table.lookup_collect, decides, List.filter_filter,
    List.filter_map, getLast?_map, find?_map, find?_filter, Option.map_map, Function.comp_def,
    head?_map, map_or, Option.or_assoc, Bool.decide_and, Bool.decide_eq_true]
  rfl

/-- A listener that decides is a most specific one. -/
theorem best_of_decides {ls : List (Listener × Key)} {sni : String} {x : Listener × Key}
    (h : decides ls sni = some x) : BestOn ls sni x := by
  rw [decides, or_eq_some_iff, or_eq_some_iff, getLast?_eq_none_iff, filter_eq_nil_iff,
    find?_eq_none] at h
  rcases h with h | ⟨h2, h | ⟨h1, h⟩⟩
  · obtain ⟨hx, hc⟩ := mem_filter.1 (mem_of_getLast? h)
    exact ⟨hx, 2, hc, fun _ _ m _ => Fin.le_last m⟩
  · refine ⟨mem_of_find?_eq_some h, 1, find?_some h, fun y hy m hm => ?_⟩
    fin_cases m
    · decide
    · decide
    · exact absurd hm (h2 y hy)
  · obtain ⟨hx, hc⟩ := mem_filter.1 (mem_of_getLast? h)
    refine ⟨hx, 0, hc, fun y hy m hm => ?_⟩
    fin_cases m
    · decide
    · exact absurd hm (h1 y hy)
    · exact absurd hm (h2 y hy)

theorem not_covers_of_decides {ls : List (Listener × Key)} {sni : String}
    (h : decides ls sni = none) {x : Listener × Key} (hx : x ∈ ls) (n : Fin 3) :
    covers sni n x = false := by
  simp only [decides, or_eq_none_iff, getLast?_eq_none_iff, filter_eq_nil_iff, find?_eq_none,
    Bool.not_eq_true] at h
  fin_cases n
  · exact h.2.2 x hx
  · exact h.2.1 x hx
  · exact h.1 x hx

/-- A wildcard covers what comes after the first dot of the name. -/
theorem wildcard_of_covers {sni : String} {x : Listener × Key} (h : covers sni 1 x = true) :
    ∃ r, x.1.hostname = "*." ++ r ∧ (splitOnce '.' sni).map (·.2) = some r := by
  obtain ⟨hs, ho⟩ := Bool.and_eq_true_iff.1 h
  obtain ⟨r, hr⟩ := startsWith_iff.1 hs
  have hd : String.ofList (x.1.hostname.toList.drop 1) = String.singleton '.' ++ r := by
    apply String.toList_inj.1
    simp [hr]
  rw [hd, oneLabel, Option.any_eq_true] at ho
  obtain ⟨label, hl, hn⟩ := ho
  have hc : '.' ∉ label.toList := by simpa using (Bool.and_eq_true_iff.1 hn).1
  exact ⟨r, hr, by rw [splitOnce_eq_some.2 ⟨stripSuffix_eq_some.1 hl, hc⟩]; rfl⟩

/-- Two listeners that cover a name equally well have one hostname. -/
theorem hostname_eq_of_covers {sni : String} {n : Fin 3} {x y : Listener × Key}
    (hx : covers sni n x = true) (hy : covers sni n y = true) : x.1.hostname = y.1.hostname := by
  fin_cases n
  · exact (String.isEmpty_iff.1 hx).trans (String.isEmpty_iff.1 hy).symm
  · obtain ⟨r, hr, hs⟩ := wildcard_of_covers hx
    obtain ⟨r', hr', hs'⟩ := wildcard_of_covers hy
    rw [hr, hr', some.inj (hs.symm.trans hs')]
  · exact (of_decide_eq_true (Bool.and_eq_true_iff.1 hx).1).trans
      (of_decide_eq_true (Bool.and_eq_true_iff.1 hy).1).symm

theorem covers_congr {x y : Listener × Key} (h : x.1.hostname = y.1.hostname) (sni : String)
    (n : Fin 3) : covers sni n x = covers sni n y := by
  fin_cases n <;> simp only [covers, h]

theorem secured_onPort (c : CompiledConfig) (port : UInt32) :
    secured load (onPort c port) = (secured load c).filter (·.1.port = port) := by
  rw [secured, secured, filter_filterMap, onPort, filterMap_filter]
  refine filterMap_congr fun l _ => ?_
  cases tlsCertEntry l with
  | none => simp
  | some e => cases hk : load e.certPem e.keyPem <;> simp [hk, Option.filter]

theorem loaded_entries (env : Env Key) (c : CompiledConfig)
    (validation : List PortClientValidation) :
    loaded env ⟨c.listeners.filterMap tlsCertEntry, validation⟩ =
      (secured env.load c).map fun x => (x.1.hostname, x.2) := by
  rw [loaded, secured, filterMap_filterMap, map_filterMap]
  refine filterMap_congr fun l _ => ?_
  cases he : tlsCertEntry l with
  | none => rfl
  | some e =>
    have hh : e.hostname = l.hostname := by
      simp only [tlsCertEntry, bind_eq_some_iff, ite_eq_iff, reduceCtorEq, some.injEq] at he
      grind
    simp [hh, Function.comp_def]

theorem presented_eq (env : Env Key) (c : CompiledConfig) (sni : String) :
    presented env c sni =
      ((decides (secured env.load c) sni).or (secured env.load c).head?).map (·.2) := by
  rw [← resolve_swapMap, ← loaded_entries env c (clientValidationFromListeners c.listeners)]
  unfold presented tlsCertData
  dsimp only
  split
  next h => rw [isEmpty_iff.1 h]; rfl
  next => rfl

section Agree

variable {load} {c : CompiledConfig} (h : PortsAgree load c) {l : Listener}
  (hl : l ∈ c.listeners) (hp : l.protocol = "HTTPS")

include h hl hp

/-- Any listeners of a port, its HTTPS listeners among them. -/
theorem PortsAgree.cert_eq {ls : List (Listener × Key)} {sni : String} {x y : Listener × Key}
    (hsub : ls ⊆ secured load (onPort c l.port))
    (hsup : (secured load (onPort c l.port)).filter isHttps ⊆ ls)
    (hx : BestOn ls sni x) (hy : BestOn (secured load c) sni y) : x.2 = y.2 := by
  obtain ⟨hxm, n, hxn, hxb⟩ := hx
  obtain ⟨hym, m, hyn, hyb⟩ := hy
  have hxc : x ∈ secured load c := (mem_filter.1 (secured_onPort load c l.port ▸ hsub hxm)).1
  obtain ⟨w, hw, heq | hall⟩ := h.hostname l hl hp y hym
  · -- the hostname of `y` is on the port, so its rank is the best one there
    have hwm : m ≤ n := hxb w (hsup hw) m ((covers_congr heq sni m).trans hyn)
    have hmn : n = m := le_antisymm (hyb x hxc n hxn) hwm
    subst hmn
    exact h.certificate x hxc y hym (hostname_eq_of_covers hxn hyn)
  · exact hall x (hsub hxm)

end Agree

def tlsListener (port : UInt32) (hostname cert : String) : Listener :=
  ⟨"https", port, "HTTPS", hostname, some ⟨cert, "key"⟩, "infra", "gw", none⟩

/-- A listener for any name on one port, and one for a name on another. -/
def mixedPorts : CompiledConfig :=
  { plainConfig with listeners := [tlsListener 443 "" "a", tlsListener 8443 "db.example.com" "b"] }

end Certificates

end Portus.TlsListeners
