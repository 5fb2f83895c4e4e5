import Mathlib.Data.List.Basic

/-!
# Loops with a counter of 32 bits

`forBelow n body i s` is the loop `for ; i < n; i++` over a state `s`. The counter is a
signed word and its increment wraps around, but only a counter below the bound is
increased, so it never does. The loop therefore ends, and visits the numbers from zero
up to the bound; below a bound that is not positive it visits none.
-/

namespace HdfsOperator.Counted

/-- A counter that is below some bound is increased without wrapping around. -/
theorem toInt_add_one {i n : Int32} (h : i < n) : (i + 1).toInt = i.toInt + 1 := by
  have hlt := Int32.lt_iff_toInt_lt.mp h
  have hmin := Int32.le_toInt i
  have hmax := Int32.toInt_lt n
  have hone : (1 : Int32).toInt = 1 := by decide
  rw [Int32.toInt_add, hone]
  apply Int.bmod_eq_of_le
  · omega
  · omega

variable {ε σ : Type}

/-- The loop `for ; i < n; i++`. The first failure of the body ends it. -/
def forBelow (n : Int32) (body : Int32 → σ → Except ε σ) (i : Int32) (s : σ) : Except ε σ :=
  if _ : i < n then
    match body i s with
    | .error e => .error e
    | .ok s' => forBelow n body (i + 1) s'
  else .ok s
termination_by (n.toInt - i.toInt).toNat
decreasing_by
  have hnext := toInt_add_one ‹i < n›
  have hlt := Int32.lt_iff_toInt_lt.mp ‹i < n›
  omega

variable {n i : Int32} {body : Int32 → σ → Except ε σ} {s : σ}

/-- A loop that has reached its bound is over. -/
theorem forBelow_of_not_lt (h : ¬ i < n) : forBelow n body i s = .ok s := by
  rw [forBelow, dif_neg h]

/-- A turn of the body, and then the loop from the next index. -/
theorem forBelow_of_lt (h : i < n) {s' : σ} (hbody : body i s = .ok s') :
    forBelow n body i s = forBelow n body (i + 1) s' := by
  rw [forBelow, dif_pos h, hbody]

/-- The invariant `inv k` holds before the turn of the counter `k`. -/
structure Keeps (n : Int32) (body : Int32 → σ → Except ε σ) (inv : Nat → σ → Prop) : Prop where
  /-- A turn below the bound does not fail and establishes the invariant for the next one. -/
  turn : ∀ i s, 0 ≤ i.toInt → i < n → inv i.toInt.toNat s →
    ∃ s', body i s = .ok s' ∧ inv (i.toInt.toNat + 1) s'

variable {inv : Nat → σ → Prop}

/-- The invariant is carried from any index to the bound. -/
theorem Keeps.forBelow_from (h : Keeps n body inv) (hi : 0 ≤ i.toInt)
    (hle : i.toInt.toNat ≤ n.toInt.toNat) (hs : inv i.toInt.toNat s) :
    ∃ s', forBelow n body i s = .ok s' ∧ inv n.toInt.toNat s' := by
  -- The induction is on the number of turns that are left.
  induction hleft : n.toInt.toNat - i.toInt.toNat generalizing i s with
  | zero =>
    have hend : ¬ i < n := by
      rw [Int32.lt_iff_toInt_lt]
      omega
    have heq : i.toInt.toNat = n.toInt.toNat := by omega
    exact ⟨s, forBelow_of_not_lt hend, heq ▸ hs⟩
  | succ left ih =>
    have hlt : i < n := by
      rw [Int32.lt_iff_toInt_lt]
      omega
    obtain ⟨s', hbody, hs'⟩ := h.turn i s hi hlt hs
    have hnext := toInt_add_one hlt
    have hnat : (i + 1).toInt.toNat = i.toInt.toNat + 1 := by omega
    rw [forBelow_of_lt hlt hbody]
    apply ih
    · omega
    · omega
    · rwa [hnat]
    · omega

/-- A loop whose body keeps an invariant ends without a failure, with the invariant at its
bound. -/
theorem Keeps.forBelow (h : Keeps n body inv) (hs : inv 0 s) :
    ∃ s', forBelow n body 0 s = .ok s' ∧ inv n.toInt.toNat s' :=
  h.forBelow_from (Int.le_refl 0) (Nat.zero_le _) hs

end HdfsOperator.Counted
