import Mathlib.Data.List.TakeWhile
import Portus.DataPlane.Paths
import Portus.Reconcilers.RouteMatches

/-!
# Paths by their elements

A PathPrefix stands for the elements between its slashes, and a slash at its end adds none.
`path_matches` compares characters and looks at the one behind the prefix.
-/

namespace Portus.PathElements

open Lib Lib.Text Proto DataPlane Reconcilers List Option

/-- A match of the type PathPrefix, which is the default. -/
structure PrefixMatch extends HTTPPathMatch where
  isPrefix : matchType.getD "PathPrefix" = "PathPrefix"

def PrefixMatch.path (m : PrefixMatch) : String := m.value.getD "/"

def rulesOf (libs : RouterLibs) (m : PrefixMatch) : List PathRoute :=
  pathRoutes libs { paths := ((convertMatch libs.regexBuilds { path := m.toHTTPPathMatch }).path.map
    fun (path, matchType) => ⟨path, matchType⟩).toList }

/-- The first element of an absolute path is empty. -/
abbrev elements (p : List Char) : List (List Char) := splitChars '/' p

def trimmed (p : List Char) : List Char := if p.getLast? = some '/' then p.dropLast else p

def ElementWise (libs : RouterLibs) (m : PrefixMatch) : Prop :=
  ∀ q : List Char, (∃ r ∈ rulesOf libs m, pathMatches libs r (.ofList ('/' :: q)) = true) ↔
    elements (trimmed m.path.toList) <+: elements ('/' :: q)

theorem elements_prefix_iff : elements p <+: elements q ↔ q = p ∨ ∃ rest, q = p ++ '/' :: rest := by
  refine ⟨fun h => ?_, ?_⟩
  · induction p generalizing q with
    | nil =>
      cases q with
      | nil => exact .inl rfl
      | cons y q =>
        obtain ⟨b, bs, hb⟩ := exists_cons_of_ne_nil (splitChars_ne_nil '/' q)
        by_cases hy : y = '/' <;> simp_all [splitChars]
    | cons x p ih =>
      obtain ⟨a, as, ha⟩ := exists_cons_of_ne_nil (splitChars_ne_nil '/' p)
      cases q with
      | nil => by_cases hx : x = '/' <;> simp_all [splitChars]
      | cons y q =>
        obtain ⟨b, bs, hb⟩ := exists_cons_of_ne_nil (splitChars_ne_nil '/' q)
        by_cases hx : x = '/' <;> by_cases hy : y = '/' <;> simp_all [splitChars, cons_prefix_cons]
  · rintro (rfl | ⟨rest, rfl⟩)
    · exact prefix_rfl
    · rw [elements, elements, splitChars_append]
      exact prefix_append _ _

theorem trimmed_concat : trimmed (p ++ ['/']) = p := by simp [trimmed]

theorem matched_iff :
    (∃ r ∈ rulesOf libs m, pathMatches libs r path = true) ↔ Under m.path.toList path.toList := by
  have hs : m.state = (m.path, "Prefix") := by
    rw [HTTPPathMatch.state, m.isPrefix]
    rfl
  have hr : rulesOf libs m = [makeRoute libs { paths := [⟨m.path, "Prefix"⟩] } m.path .pathPrefix] := by
    simp only [rulesOf, convertMatch, map_some, hs]
    rfl
  simp only [hr, mem_singleton, exists_eq_left]
  exact pathMatches_pathPrefix rfl

theorem elementWise_iff (libs : RouterLibs) (m : PrefixMatch) :
    ElementWise libs m ↔ ¬ ∃ p, m.path.toList = '/' :: p ++ ['/'] := by
  simp only [ElementWise, matched_iff, String.toList_ofList, elements_prefix_iff]
  generalize m.path.toList = p
  constructor
  · rintro h ⟨p, rfl⟩
    obtain ⟨rest, hr, -⟩ := (h p).2 (by rw [trimmed_concat]; exact .inl rfl)
    simpa using congrArg length hr
  · intro h q
    by_cases hl : p.getLast? = some '/'
    · obtain ⟨x, rfl⟩ := getLast?_eq_some_iff.1 hl
      rw [trimmed_concat]
      cases x with
      | nil => exact iff_of_true under_root (.inr ⟨q, rfl⟩)
      | cons a x =>
        have ha : '/' ≠ a := fun ha => h ⟨x, by rw [ha]⟩
        simp [Under, ha]
    · rw [trimmed]
      simp only [Under, hl, or_false]
      constructor
      · rintro ⟨rest, hr, rfl | hs⟩
        · exact .inl (by simpa using hr)
        · obtain ⟨rest, rfl⟩ := head?_eq_some_iff.1 hs
          exact .inr ⟨rest, hr⟩
      · rintro (hr | ⟨rest, hr⟩)
        · exact ⟨[], by simpa using hr, .inl rfl⟩
        · exact ⟨_, hr, .inr rfl⟩

theorem trailing_slash_misses : ¬ ∃ libs, ElementWise libs ⟨{ value := "/api/" }, rfl⟩ := by
  rintro ⟨libs, h⟩
  obtain ⟨rest, hr, -⟩ := matched_iff.1 ((h ['a', 'p', 'i']).2 (by decide))
  simpa [PrefixMatch.path] using congrArg length hr

def replacePrefix (newPath suffix : String) : String :=
  let result := if !endsWith newPath "/" && !startsWith suffix "/" && !suffix.isEmpty then
    newPath ++ "/" else newPath
  if endsWith result "/" && startsWith suffix "/" then result ++ .ofList (suffix.toList.drop 1)
  else result ++ suffix

/-- The receiver takes an empty path for none. -/
def rewritePath (pr : PathRoute) (originalPath : String) : Option String :=
  pr.spec.urlRewrite.bind fun rewrite =>
    if rewrite.path.isEmpty then none
    else match rewrite.pathType with
      | "ReplaceFullPath" => some rewrite.path
      | "ReplacePrefixMatch" =>
        some ((stripPrefix pr.path originalPath).elim rewrite.path (replacePrefix rewrite.path))
      | _ => none

/-- The path and the query that the URI parser reads behind an authority. -/
structure UriLib where
  pathChar : Char → Bool
  parse : String → Option (String × Option String)
  segment : ∀ c : Char, c.isAlphanum = true ∨ c = '/' → pathChar c = true
  parse_path : ∀ t : List Char, t.all pathChar = true →
    parse (.ofList ('/' :: t)) = some (.ofList ('/' :: t), none)
  path_parse : ∀ t uri, parse t = some uri →
    uri.1.toList.all pathChar = true ∧ ∀ c ∈ uri.1.toList.head?, c = '/'

/-- `upstream_request`: what does not parse goes with the URI of the request. -/
def upstreamUri (lib : UriLib) (rewritten : Option String) (uri : String × Option String) :
    String × Option String :=
  rewritten.elim uri fun path => (lib.parse path).getD uri

/-- A rule with a path modifier, and a request. -/
structure Rewritten (lib : UriLib) where
  rule : PathRoute
  rewrite : UrlRewriteFilter
  path : List Char
  query : Option String
  isRewrite : rule.spec.urlRewrite = some rewrite
  modifies : rewrite.pathType = "ReplaceFullPath" ∨ rewrite.pathType = "ReplacePrefixMatch"
  pathChars : path.all lib.pathChar = true

variable {lib : UriLib}

def KeepsQuery (x : Rewritten lib) : Prop :=
  ∃ path, rewritePath x.rule (.ofList ('/' :: x.path)) = some path ∧
    upstreamUri lib (some path) (.ofList ('/' :: x.path), x.query) = (path, x.query)

theorem replacePrefix_eq : ∃ rest, replacePrefix p s = p ++ .ofList rest ∧
    ∀ c ∈ rest, c = '/' ∨ c ∈ s.toList := by
  unfold replacePrefix
  dsimp only
  split
  next =>
    split
    next h => simp_all
    next => exact ⟨'/' :: s.toList, by simp [← String.toList_inj], by simp +contextual⟩
  next =>
    split
    next => exact ⟨_, rfl, fun _ hc => .inr (mem_of_mem_drop hc)⟩
    next => exact ⟨s.toList, by simp, fun _ => .inr⟩

theorem exists_rewritten (x : Rewritten lib) (h : x.rewrite.path ≠ "") :
    ∃ rest : List Char, rest.all lib.pathChar = true ∧
      rewritePath x.rule (.ofList ('/' :: x.path)) = some (x.rewrite.path ++ .ofList rest) := by
  rcases x.modifies with hm | hm <;> simp only [rewritePath, x.isRewrite, bind_some, hm,
    String.isEmpty_iff, h, if_false]
  · exact ⟨[], rfl, by simp⟩
  cases hs : stripPrefix x.rule.path (.ofList ('/' :: x.path)) with
  | none => exact ⟨[], rfl, by simp⟩
  | some suffix =>
    obtain ⟨rest, he, hc⟩ := replacePrefix_eq
    refine ⟨rest, all_eq_true.2 fun c hm => ?_, congrArg some he⟩
    have hp := congrArg String.toList (stripPrefix_eq_some.1 hs)
    rw [String.toList_ofList, String.toList_append] at hp
    rcases hc c hm with rfl | hm
    · exact lib.segment _ (.inr rfl)
    · rcases mem_cons.1 (hp ▸ mem_append_right _ hm) with rfl | hm
      · exact lib.segment _ (.inr rfl)
      · exact all_eq_true.1 x.pathChars c hm

/-- A rule that sends `/` to `/new`, and a search for `a`. -/
def searched (lib : UriLib) : Rewritten lib where
  rule := ⟨"/", .pathPrefix, [], none, [], { urlRewrite := some ⟨"", "/new", "ReplaceFullPath"⟩ }⟩
  rewrite := ⟨"", "/new", "ReplaceFullPath"⟩
  path := []
  query := some "q=a"
  isRewrite := rfl
  modifies := .inl rfl
  pathChars := rfl

/-- A parser whose paths are of letters, digits and slashes. -/
def plainUris : UriLib where
  pathChar c := c.isAlphanum || c == '/'
  parse s :=
    let path := s.toList.takeWhile (· ≠ '?')
    if path.head? = some '/' ∧ path.all (fun c => c.isAlphanum || c == '/') then
      some (.ofList path, (s.toList.dropWhile (· ≠ '?')).tail?.map .ofList)
    else none
  segment c h := by simpa using h
  parse_path t h := by
    have hq : ∀ c ∈ '/' :: t, decide (c ≠ '?') = true := by
      rw [forall_mem_cons]
      refine ⟨rfl, fun c hc => decide_eq_true fun heq => ?_⟩
      subst heq
      exact absurd (all_eq_true.1 h _ hc) (by decide)
    rw [String.toList_ofList, takeWhile_eq_self_iff.2 hq, dropWhile_eq_nil_iff.2 hq, if_pos]
    · rfl
    · simpa using h
  path_parse t uri h := by
    dsimp only at h
    split at h
    next hp =>
      cases h
      simp only [String.toList_ofList, hp.1, mem_some_iff]
      exact ⟨hp.2, fun _ => Eq.symm⟩
    next => cases h

example : plainUris.parse "/new?q=a" = some ("/new", some "q=a") := by decide +kernel

end Portus.PathElements
