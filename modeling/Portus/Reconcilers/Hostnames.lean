import Portus.Reconcilers.Routes

/-!
# Hostnames

A hostname names itself or, with `*.` in front, the hosts under a domain. The reconcilers
ask whether a listener's hostname and a route's share a host (`hostnameMatches`); the
compiler takes the more specific of the two (`intersectHostnames`). The two agree on
whether there is one (`isSome_intersectHostnames`).
-/

namespace Portus.Reconcilers

open Portus Lib Option Text List

/-- `host` lies under the domain `suffix`. -/
def UnderDomain (suffix host : String) : Prop := ∃ p, p ≠ "" ∧ host = p ++ "." ++ suffix

theorem endsWith_and_lt_iff :
    (endsWith host ("." ++ suffix) && decide (("." ++ suffix).utf8ByteSize < host.utf8ByteSize))
      = true ↔ UnderDomain suffix host := by
  simp only [Bool.and_eq_true, decide_eq_true_eq, endsWith_iff, UnderDomain]
  constructor
  · rintro ⟨⟨q, rfl⟩, hlt⟩
    refine ⟨q, ?_, String.append_assoc.symm⟩
    rintro rfl
    simp at hlt
  · rintro ⟨p, hp, rfl⟩
    refine ⟨⟨p, String.append_assoc⟩, ?_⟩
    have hpo : p.utf8ByteSize ≠ 0 := mt String.utf8ByteSize_eq_zero_iff.1 hp
    have hs : (p ++ "." ++ suffix).utf8ByteSize =
        p.utf8ByteSize + ("." ++ suffix).utf8ByteSize := by
      rw [String.append_assoc, String.utf8ByteSize_append]
    omega

theorem stripSuffix_under_iff :
    (((stripSuffix suffix host).bind (stripSuffix ".")).map fun p => !p.isEmpty).getD
      false = true ↔ UnderDomain suffix host := by
  constructor
  · intro h
    have hs := (getD_eq_iff.1 h).resolve_right (by simp)
    obtain ⟨p, hp, hne⟩ := map_eq_some_iff.1 hs
    obtain ⟨q, hq, hpq⟩ := bind_eq_some_iff.1 hp
    refine ⟨p, by simpa using hne, ?_⟩
    rw [stripSuffix_eq_some.1 hq, stripSuffix_eq_some.1 hpq]
  · rintro ⟨p, hp, rfl⟩
    rw [stripSuffix_eq_some.2 (rfl : p ++ "." ++ suffix = (p ++ ".") ++ suffix),
      bind_some, stripSuffix_eq_some.2 rfl]
    simpa using hp

theorem hostname_cases (s : String) : (∃ suffix, startsWith s "*." = true ∧
      stripPrefix "*." (toAsciiLowercase s) = some suffix ∧
      toAsciiLowercase s = "*." ++ suffix ∧
      String.ofList ((toAsciiLowercase s).toList.drop 1) = "." ++ suffix) ∨
    (startsWith s "*." = false ∧ stripPrefix "*." (toAsciiLowercase s) = none) := by
  cases h : stripPrefix "*." s with
  | none =>
    refine .inr ⟨?_, by rw [stripStar_toAsciiLowercase, h]; rfl⟩
    rw [← Bool.not_eq_true, startsWith_iff]
    rintro ⟨r, hr⟩
    rw [stripPrefix_eq_some.2 hr] at h
    cases h
  | some r =>
    have hl : toAsciiLowercase s = "*." ++ toAsciiLowercase r := by
      refine stripPrefix_eq_some.1 ?_
      rw [stripStar_toAsciiLowercase, h]
      rfl
    refine .inl ⟨toAsciiLowercase r, ?_, stripPrefix_eq_some.2 hl, hl, ?_⟩
    · exact startsWith_iff.2 ⟨r, stripPrefix_eq_some.1 h⟩
    · rw [hl]
      apply String.toList_inj.1
      simp

theorem endsWith_dot_iff :
    endsWith ("." ++ a) ("." ++ b) = true ↔ a = b ∨ endsWith a ("." ++ b) = true := by
  simp only [endsWith, isSuffixOf_iff_suffix, String.toList_append]
  have hd : ".".toList = ['.'] := rfl
  rw [hd, singleton_append, singleton_append, suffix_cons_iff, cons.injEq, String.toList_inj]
  simp [eq_comm]

theorem isSome_intersect_domains : (if "." ++ ls = "." ++ rs then some x
      else if endsWith ("." ++ rs) ("." ++ ls) = true then some y
      else if endsWith ("." ++ ls) ("." ++ rs) = true then some z
      else none).isSome = true ↔
      (ls = rs ∨ endsWith rs ("." ++ ls) = true) ∨ endsWith ls ("." ++ rs) = true := by
  have hd : "." ++ ls = "." ++ rs ↔ ls = rs := by
    rw [← String.toList_inj, String.toList_append, String.toList_append,
      append_cancel_left_eq, String.toList_inj]
  simp only [hd, endsWith_dot_iff]
  split_ifs with h1 h2 h3
  · simp [h1]
  · exact iff_of_true rfl (.inl (h2.imp Eq.symm id))
  · exact iff_of_true rfl (h3.elim (fun h => .inl (.inl h)) .inr)
  · tauto

theorem isSome_intersectHostnames :
    (intersectHostnames listener route).isSome = hostnameMatches listener route := by
  rw [Bool.eq_iff_iff]
  unfold intersectHostnames hostnameMatches
  obtain ⟨ls, hl, hlS, hlL, hlT⟩ | ⟨hl, hlS⟩ := hostname_cases listener
  · obtain ⟨rs, hr, hrS, hrL, hrT⟩ | ⟨hr, hrS⟩ := hostname_cases route
    · simp only [hl, hr, hlT, hrT, isSome_intersect_domains]
      by_cases hs : toAsciiLowercase listener = toAsciiLowercase route
      · rw [hs, hrS, Option.some.injEq] at hlS
        simp [hs, hlS]
      · rw [if_neg hs, hlS, hrS]
        simp
    · have hne : toAsciiLowercase listener ≠ toAsciiLowercase route := by
        intro heq
        rw [heq, hrS] at hlS
        cases hlS
      simp only [hl, hr, hlT, hlS, hrS, if_neg hne, stripSuffix_under_iff,
        endsWith_and_lt_iff, isSome_ite]
  · obtain ⟨rs, hr, hrS, hrL, hrT⟩ | ⟨hr, hrS⟩ := hostname_cases route
    · have hne : toAsciiLowercase listener ≠ toAsciiLowercase route := by
        intro heq
        rw [← heq, hlS] at hrS
        cases hrS
      simp only [hl, hr, hrT, hlS, hrS, if_neg hne, stripSuffix_under_iff,
        endsWith_and_lt_iff, isSome_ite]
    · simp only [hl, hr, hlS, hrS, isSome_ite]
      simp

end Portus.Reconcilers
