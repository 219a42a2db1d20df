import Portus.Lib.Table

/-!
# Tables filled first come

A table in which a key keeps the first value it was given, as a walk with
`entry(..).or_insert_with(..)` leaves it.
-/

namespace Portus.Lib.Table

variable {κ β : Type} [DecidableEq κ]

def insertFirst (t : Table κ β) (e : κ × β) : Table κ β :=
  if (t.lookup e.1).isSome then t else t.insert e.1 e.2

def collectFirst (l : List (κ × β)) : Table κ β := l.foldl insertFirst ∅

theorem lookup_insertFirst (t : Table κ β) (e : κ × β) (k : κ) :
    (t.insertFirst e).lookup k = (t.lookup k).or (if e.1 = k then some e.2 else none) := by
  unfold insertFirst
  by_cases hk : e.1 = k
  · subst hk
    cases ht : t.lookup e.1 with
    | some v => simp [ht]
    | none => simp [AList.lookup_insert]
  · rw [if_neg hk, Option.or_none]
    split
    · rfl
    · exact AList.lookup_insert_ne (Ne.symm hk)

theorem lookup_foldl_insertFirst (l : List (κ × β)) (t : Table κ β) (k : κ) :
    (l.foldl insertFirst t).lookup k =
      (t.lookup k).or (l.findSome? fun e => if e.1 = k then some e.2 else none) := by
  induction l generalizing t with
  | nil => simp
  | cons e l ih =>
    rw [List.foldl_cons, ih, lookup_insertFirst]
    by_cases hk : e.1 = k
    · simp [hk]
    · simp [hk]

theorem lookup_collectFirst (l : List (κ × β)) (k : κ) :
    (collectFirst l).lookup k = l.findSome? fun e => if e.1 = k then some e.2 else none := by
  rw [collectFirst, lookup_foldl_insertFirst, AList.lookup_empty, Option.none_or]

end Portus.Lib.Table
