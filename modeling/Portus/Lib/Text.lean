import Mathlib.Data.List.Basic
import Mathlib.Data.UInt

/-!
# Text operations

The string operations of the standard library that the program uses, on lists of
characters: prefix stripping, splitting at a character, ASCII case folding and
Unicode trimming.
-/

namespace Portus.Lib.Text

open List UInt32

def stripPrefix (p s : String) : Option String :=
  if p.toList.isPrefixOf s.toList then some (String.ofList (s.toList.drop p.toList.length)) else none

variable {p s : String} {c : Char}

theorem stripPrefix_eq_some : stripPrefix p s = some r ↔ s = p ++ r := by
  unfold stripPrefix
  split
  next h =>
    obtain ⟨t, ht⟩ := List.isPrefixOf_iff_prefix.1 h
    rw [Option.some.injEq, ← ht, drop_left, ← String.toList_inj, ← String.toList_inj,
      String.toList_ofList, String.toList_append, ← ht]
    exact (append_right_inj _).symm
  next h =>
    refine iff_of_false (Option.some_ne_none _ ∘ Eq.symm) fun hs => h ?_
    rw [hs, String.toList_append]
    exact List.isPrefixOf_iff_prefix.2 (List.prefix_append _ _)

def stripSuffix (p s : String) : Option String :=
  if p.toList.isSuffixOf s.toList then
    some (String.ofList (s.toList.take (s.toList.length - p.toList.length)))
  else none

theorem stripSuffix_eq_some : stripSuffix p s = some r ↔ s = r ++ p := by
  unfold stripSuffix
  split
  next h =>
    obtain ⟨t, ht⟩ := List.isSuffixOf_iff_suffix.1 h
    have hl : s.toList.length - p.toList.length = t.length := by
      rw [← ht, length_append]
      omega
    rw [Option.some.injEq, hl, ← ht, take_left, ← String.toList_inj, ← String.toList_inj,
      String.toList_ofList, String.toList_append, ← ht]
    exact (append_left_inj _).symm
  next h =>
    refine iff_of_false (Option.some_ne_none _ ∘ Eq.symm) fun hs => h ?_
    rw [hs, String.toList_append]
    exact List.isSuffixOf_iff_suffix.2 (List.suffix_append _ _)

def startsWith (s p : String) : Bool := p.toList.isPrefixOf s.toList

def endsWith (s p : String) : Bool := p.toList.isSuffixOf s.toList

theorem startsWith_iff : startsWith s p = true ↔ ∃ r, s = p ++ r := by
  have hs : startsWith s p = (stripPrefix p s).isSome := by
    unfold startsWith stripPrefix
    cases p.toList.isPrefixOf s.toList <;> rfl
  simp only [hs, Option.isSome_iff_exists, stripPrefix_eq_some]

theorem endsWith_iff : endsWith s p = true ↔ ∃ q, s = q ++ p := by
  have hs : endsWith s p = (stripSuffix p s).isSome := by
    unfold endsWith stripSuffix
    cases p.toList.isSuffixOf s.toList <;> rfl
  simp only [hs, Option.isSome_iff_exists, stripSuffix_eq_some]

theorem eq_of_isSuffix (h : s.toList <:+ t.toList) (hs : s.utf8ByteSize = t.utf8ByteSize) :
    s = t := by
  obtain ⟨l, hl⟩ := h
  have ht : t = String.ofList l ++ s := by
    apply String.toList_inj.1
    rw [String.toList_append, String.toList_ofList, hl]
  have hz : (String.ofList l).utf8ByteSize = 0 := by
    rw [ht, String.utf8ByteSize_append] at hs
    omega
  rw [ht, String.utf8ByteSize_eq_zero_iff.1 hz, String.empty_append]

theorem eq_of_endsWith (hs : endsWith u s = true) (ht : endsWith u t = true)
    (hsi : s.utf8ByteSize = t.utf8ByteSize) : s = t := by
  have hs' : s.toList <:+ u.toList := List.isSuffixOf_iff_suffix.1 hs
  have ht' : t.toList <:+ u.toList := List.isSuffixOf_iff_suffix.1 ht
  rcases List.suffix_or_suffix_of_suffix hs' ht' with h | h
  · exact eq_of_isSuffix h hsi
  · exact (eq_of_isSuffix h hsi.symm).symm

def splitOnce (c : Char) (s : String) : Option (String × String) :=
  let before := s.toList.takeWhile (· ≠ c)
  match s.toList.dropWhile (· ≠ c) with
  | [] => none
  | _ :: rest => some (String.ofList before, String.ofList rest)

theorem splitOnce_eq_some :
    splitOnce c s = some (a, b) ↔ s = a ++ (String.singleton c ++ b) ∧ c ∉ a.toList := by
  unfold splitOnce
  constructor
  · intro h
    have hs := takeWhile_append_dropWhile (p := (· ≠ c)) (l := s.toList)
    cases hd : s.toList.dropWhile (· ≠ c) with
    | nil => simp only [hd] at h; cases h
    | cons x rest =>
      have hx := head?_dropWhile_not (· ≠ c) s.toList
      simp only [hd] at h hx
      rw [hd, not_not.1 (of_decide_eq_false hx)] at hs
      cases h
      refine ⟨String.toList_inj.1 ?_, fun hm => ?_⟩
      · simpa using hs.symm
      · rw [String.toList_ofList] at hm
        simpa using all_eq_true.1 all_takeWhile _ hm
  · rintro ⟨rfl, hc⟩
    have ha : ∀ x ∈ a.toList, decide (x ≠ c) = true := fun x hx =>
      decide_eq_true fun h => hc (h ▸ hx)
    rw [String.toList_append, takeWhile_append_of_pos ha, dropWhile_append_of_pos ha]
    simp

def splitChars (c : Char) : List Char → List (List Char)
  | [] => [[]]
  | x :: xs =>
    match splitChars c xs with
    | [] => [[x]]
    | p :: ps => if x = c then [] :: p :: ps else (x :: p) :: ps

def split (c : Char) (s : String) : List String := (splitChars c s.toList).map String.ofList

/-- ASCII letters in lower case, everything else as it is. -/
def toAsciiLowercase (s : String) : String := String.ofList (s.toList.map Char.toLower)

def toAsciiUppercase (s : String) : String := String.ofList (s.toList.map Char.toUpper)

def eqIgnoreAsciiCase (a b : String) : Bool := toAsciiLowercase a == toAsciiLowercase b

/-- The Unicode property `White_Space`. -/
def isWhitespace (c : Char) : Bool :=
  (0x09 ≤ c.toNat && c.toNat ≤ 0x0D) || c.toNat == 0x20 || c.toNat == 0x85 || c.toNat == 0xA0 ||
    c.toNat == 0x1680 || (0x2000 ≤ c.toNat && c.toNat ≤ 0x200A) || c.toNat == 0x2028 ||
    c.toNat == 0x2029 || c.toNat == 0x202F || c.toNat == 0x205F || c.toNat == 0x3000

def trim (s : String) : String :=
  String.ofList (((s.toList.dropWhile isWhitespace).reverse.dropWhile isWhitespace).reverse)

def splitWhitespace (s : String) : List String :=
  ((s.toList.splitOnP isWhitespace).filter (!·.isEmpty)).map String.ofList

theorem toLower_cases (c : Char) :
    c.toLower = c ∨ (65 ≤ c.toNat ∧ c.toNat ≤ 90 ∧ c.toLower.toNat = c.toNat + 32) := by
  unfold Char.toLower
  split
  next h =>
    have h65 : 65 ≤ c.toNat := le_iff_toNat_le.1 h.1
    have h90 : c.toNat ≤ 90 := le_iff_toNat_le.1 h.2
    refine .inr ⟨h65, h90, ?_⟩
    show (c.val + ('a'.val - 'A'.val)).toNat = c.toNat + 32
    show (c.toNat + 32) % 2 ^ 32 = c.toNat + 32
    omega
  next => exact .inl rfl

theorem utf8Size_toLower (c : Char) : c.toLower.utf8Size = c.utf8Size := by
  have hs {d : Char} (h : d.toNat ≤ 127) : d.utf8Size = 1 := by
    have hv : d.val ≤ ofNatLT 127 (by decide) := le_iff_toNat_le.2 h
    exact if_pos hv
  rcases toLower_cases c with h | ⟨-, h90, h⟩
  · rw [h]
  · rw [hs (by omega), hs (by omega)]

theorem toLower_eq_iff (hd : d.toNat < 65) : c.toLower = d ↔ c = d := by
  rcases toLower_cases c with h | ⟨h65, -, h⟩
  · rw [h]
  · constructor
    all_goals
      rintro rfl
      omega

theorem utf8ByteSize_toAsciiLowercase (s : String) :
    (toAsciiLowercase s).utf8ByteSize = s.utf8ByteSize := by
  have hl (l : List Char) : (String.ofList (l.map Char.toLower)).utf8ByteSize =
      (String.ofList l).utf8ByteSize := by
    induction l with
    | nil => rfl
    | cons c l ih =>
      have hc (d : Char) (m : List Char) :
          (String.ofList (d :: m)).utf8ByteSize = d.utf8Size + (String.ofList m).utf8ByteSize := by
        have h : String.ofList (d :: m) = String.singleton d ++ String.ofList m := by
          apply String.toList_inj.1
          simp
        rw [h, String.utf8ByteSize_append, String.utf8ByteSize_singleton]
      rw [map_cons, hc, hc, ih, utf8Size_toLower]
  have := hl s.toList
  rwa [String.ofList_toList] at this

theorem toLower_toLower (c : Char) : c.toLower.toLower = c.toLower := by
  rcases toLower_cases c with h | ⟨h65, -, h⟩
  · rw [h, h]
  · rcases toLower_cases c.toLower with h' | ⟨-, h90, -⟩
    · exact h'
    · omega

theorem toAsciiLowercase_toAsciiLowercase (s : String) :
    toAsciiLowercase (toAsciiLowercase s) = toAsciiLowercase s := by
  unfold toAsciiLowercase
  rw [String.toList_ofList, map_map]
  congr 2
  funext c
  exact toLower_toLower c

theorem toAsciiLowercase_append (s t : String) :
    toAsciiLowercase (s ++ t) = toAsciiLowercase s ++ toAsciiLowercase t := by
  apply String.toList_inj.1
  simp [toAsciiLowercase]

theorem toAsciiLowercase_eq_empty : toAsciiLowercase s = "" ↔ s = "" := by
  simp [toAsciiLowercase]

theorem stripPrefix_toAsciiLowercase (hp : ∀ c ∈ p.toList, c.toNat < 65) (s : String) :
    stripPrefix p (toAsciiLowercase s) = (stripPrefix p s).map toAsciiLowercase := by
  have hb (l m : List Char) (hl : ∀ c ∈ l, c.toNat < 65) :
      l.isPrefixOf (m.map Char.toLower) = l.isPrefixOf m := by
    induction l generalizing m with
    | nil => rfl
    | cons c l ih =>
      cases m with
      | nil => rfl
      | cons d m =>
        have hcd : (c == d.toLower) = (c == d) := by
          rw [Bool.eq_iff_iff, beq_iff_eq, beq_iff_eq, eq_comm,
            toLower_eq_iff (hl c mem_cons_self), eq_comm]
        rw [map_cons, List.isPrefixOf, List.isPrefixOf, hcd,
          ih m fun c hc => hl c (mem_cons_of_mem _ hc)]
  unfold stripPrefix toAsciiLowercase
  rw [String.toList_ofList, hb _ _ hp]
  split
  next => simp [map_drop]
  next => rfl

theorem stripStar_toAsciiLowercase (s : String) :
    stripPrefix "*." (toAsciiLowercase s) = (stripPrefix "*." s).map toAsciiLowercase := by
  refine stripPrefix_toAsciiLowercase ?_ s
  simp

theorem splitChars_ne_nil (c : Char) (l : List Char) : splitChars c l ≠ [] := by
  cases l with
  | nil => exact cons_ne_nil _ _
  | cons x l =>
    unfold splitChars
    split
    next => exact cons_ne_nil _ _
    next => split <;> exact cons_ne_nil _ _

theorem splitChars_append (c : Char) (a b : List Char) :
    splitChars c (a ++ c :: b) = splitChars c a ++ splitChars c b := by
  induction a with
  | nil =>
    obtain ⟨p, ps, hb⟩ := exists_cons_of_ne_nil (splitChars_ne_nil c b)
    simp [splitChars, hb]
  | cons x a ih =>
    obtain ⟨p, ps, ha⟩ := exists_cons_of_ne_nil (splitChars_ne_nil c a)
    rw [cons_append, splitChars, splitChars, ih, ha]
    dsimp
    split <;> rfl

theorem splitChars_of_not_mem (h : c ∉ l) : splitChars c l = [l] := by
  induction l with
  | nil => rfl
  | cons x l ih =>
    have hx : x ≠ c := fun hx => h (hx ▸ mem_cons_self)
    rw [splitChars, ih fun hc => h (mem_cons_of_mem x hc)]
    exact if_neg hx

theorem splitChars_intercalate (ht : t ≠ []) :
    splitChars c ([c].intercalate t) = t.flatMap (splitChars c) := by
  induction t with
  | nil => exact absurd rfl ht
  | cons x t ih =>
    cases t with
    | nil => simp
    | cons y t =>
      rw [intercalate_cons_cons, append_assoc, singleton_append,
        splitChars_append, ih (cons_ne_nil y t)]
      rfl

theorem split_intercalate (hne : l ≠ []) (h : ∀ s ∈ l, c ∉ s.toList) :
    split c ((String.singleton c).intercalate l) = l := by
  have ho : l.flatMap (fun s => splitChars c s.toList) = l.flatMap fun s => [s.toList] :=
    flatMap_congr fun s hs => splitChars_of_not_mem (h s hs)
  rw [split, String.toList_intercalate, String.toList_singleton, splitChars_intercalate (by simpa
    using hne), flatMap_map, ho, ← map_eq_flatMap]
  simp [Function.comp_def]

def pieces (c : Char) (s : String) : List String := (split c s).filter (!·.isEmpty)

theorem pieces_intercalate (c : Char) (l : List String) :
    pieces c ((String.singleton c).intercalate l) = l.flatMap (pieces c) := by
  cases l with
  | nil => rfl
  | cons s l =>
    unfold pieces split
    rw [String.toList_intercalate, String.toList_singleton,
      splitChars_intercalate (t := (s :: l).map String.toList) (cons_ne_nil _ _)]
    simp [flatMap_map, map_flatMap, filter_flatMap]

end Portus.Lib.Text
