import Portus.DataPlane.Planner

/-!
# The rate of a token bucket

`try_acquire` fills the bucket at the first call of a second and takes a token, so that in each
second of the clock at most `rps` calls are let through (`acquired_le`). A call takes effect at the
exchange that succeeds.
-/

namespace Portus.RateBounds

open DataPlane List

def tryAcquire (b : TokenBucket) (now : UInt32) : TokenBucket × Bool :=
  if b.available now = 0 then (b, false)
  else
    -- a later second refills, unless the rate is 0
    ({ b with
      secs := if now - b.secs ≥ 1 ∧ 0 < b.rps then now else b.secs
      tokens := .ofNat (b.available now - 1) }, true)

/-- The calls with the second each reads, and what they answer. -/
def answered (b : TokenBucket) : List UInt32 → List (UInt32 × Bool)
  | [] => []
  | now :: later => (now, (tryAcquire b now).2) :: answered (tryAcquire b now).1 later

/-- What is left for the calls that read `t`. -/
def left (b : TokenBucket) (t : UInt32) : Nat :=
  if b.secs < t then b.rps.toNat else if b.secs = t then b.tokens.toNat else 0

variable {b : TokenBucket}

theorem elapsed_iff (hs : b.secs ≤ now) : now - b.secs ≥ 1 ↔ b.secs < now := by
  rw [ge_iff_le, UInt32.le_iff_toNat_le, UInt32.toNat_sub_of_le _ _ hs, UInt32.lt_iff_toNat_lt]
  exact Nat.sub_pos_iff_lt

theorem available_eq (hs : b.secs ≤ now) (ht : b.tokens ≤ b.rps) : b.available now = left b now := by
  rw [UInt32.le_iff_toNat_le] at ht
  simp only [TokenBucket.available, left, elapsed_iff hs]
  split
  next hl =>
    have he := UInt32.le_iff_toNat_le.1 ((elapsed_iff hs).2 hl)
    have hm := Nat.le_mul_of_pos_left b.rps.toNat he
    omega
  next hl =>
    rw [if_pos (UInt32.le_antisymm hs (UInt32.not_lt.1 hl))]
    omega

theorem tryAcquire_cases (hs : b.secs ≤ now) (ht : b.tokens ≤ b.rps) :
    tryAcquire b now = (b, false) ∨
      ∃ t, tryAcquire b now = (⟨now, t, b.rps⟩, true) ∧ t.toNat + 1 = left b now ∧ t ≤ b.rps := by
  have ha := available_eq hs ht
  have hle : left b now ≤ b.rps.toNat := ha ▸ Nat.min_le_right ..
  have hr := b.rps.toNat_lt
  unfold tryAcquire
  split
  next => exact .inl rfl
  next h0 =>
    rw [ha] at h0 ⊢
    have hto : (UInt32.ofNat (left b now - 1)).toNat = left b now - 1 :=
      UInt32.toNat_ofNat_of_lt' (show _ < 4294967296 by omega)
    have hse : (if now - b.secs ≥ 1 ∧ 0 < b.rps then now else b.secs) = now := by
      refine ite_eq_left_iff.2 fun hno => UInt32.le_antisymm hs (UInt32.not_lt.1 fun hl => hno ?_)
      exact ⟨(elapsed_iff hs).2 hl, UInt32.lt_iff_toNat_lt.2 (show 0 < _ by omega)⟩
    rw [hse]
    exact .inr ⟨_, rfl, by omega, UInt32.le_iff_toNat_le.2 (by omega)⟩

theorem count_answered_le (hs : (b.secs :: nows).Pairwise (· ≤ ·)) (ht : b.tokens ≤ b.rps)
    (t : UInt32) : (answered b nows).count (t, true) ≤ left b t := by
  induction nows generalizing b with
  | nil => exact Nat.zero_le _
  | cons now later ih =>
    obtain ⟨hl, hp⟩ := pairwise_cons.1 hs
    have hn := hl now mem_cons_self
    rcases tryAcquire_cases hn ht with he | ⟨u, he, hu, hur⟩
    · rw [answered, he, count_cons_of_ne (by simp)]
      exact ih (pairwise_cons.2 ⟨fun x hx => hl x (mem_cons_of_mem now hx), hp.tail⟩) ht
    · have hc := ih (b := ⟨now, u, b.rps⟩) hp hur
      rw [answered, he, count_cons]
      by_cases h : now = t
      · subst h
        rw [left, if_neg (UInt32.lt_irrefl now), if_pos rfl] at hc
        rw [if_pos (beq_self_eq_true _)]
        exact (Nat.succ_le_succ hc).trans hu.le
      · rw [if_neg (by simp [h])]
        refine hc.trans ?_
        rw [left, if_neg h]
        split
        next hlt => rw [left, if_pos (UInt32.lt_of_le_of_lt hn hlt)]
        next => exact Nat.zero_le _

/-- **The rate is kept**: of the calls that read one second, at most `rps` are let through. -/
theorem acquired_le (rps : UInt32) (nows : List UInt32) (hs : nows.Pairwise (· ≤ ·)) (t : UInt32) :
    (answered (.new rps) nows).count (t, true) ≤ rps.toNat := by
  have hp := pairwise_cons.2 ⟨fun _ _ => UInt32.zero_le, hs⟩
  refine (count_answered_le hp (UInt32.le_refl rps) t).trans ?_
  unfold left
  split_ifs
  exacts [le_rfl, le_rfl, Nat.zero_le _]

theorem acquired_le_reused : ([3, 3, 4] : List UInt32).Pairwise (· ≤ ·) ∧
    (answered (.new 1) [3, 3, 4]).count (3, true) ≤ (1 : UInt32).toNat :=
  ⟨by decide, acquired_le 1 [3, 3, 4] (by decide) 3⟩

end Portus.RateBounds
