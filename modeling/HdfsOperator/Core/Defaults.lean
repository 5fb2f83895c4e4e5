import Mathlib.Data.Prod.Basic
import Mathlib.Logic.Function.Iterate

/-!
# Filling in defaults

A setting that is missing gets its default, and a setting that is zero is removed. A removed
setting looks like one that is missing, so a second round gives it its default after all. Two
settings that are filled in together, as soon as one of them is there, can keep each other
removed: once both are gone, no round brings them back.
-/

namespace HdfsOperator

/-- A setting that is missing gets its default; a setting that is zero is removed. -/
def mergePart {α : Type} (isZero : α → Bool) (default : Option α) : Option α → Option α
  | none => default
  | some part => if isZero part then none else some part

section Part

variable {α : Type} {isZero : α → Bool} {default : Option α}

/-- A part that counts as zero is dropped. -/
theorem mergePart_of_isZero {part : α} (h : isZero part = true) :
    mergePart isZero default (some part) = none := by simp [mergePart, h]

/-- Any other part stays as it is. -/
theorem mergePart_of_not_isZero {part : α} (h : isZero part = false) :
    mergePart isZero default (some part) = some part := by simp [mergePart, h]

theorem all_not_isZero (part : Option α) : part.all (!isZero ·) = !part.any isZero := by
  cases part <;> rfl

/-- Merging twice is merging once exactly when the part is not set to zero, for a default that is
set and not zero. -/
theorem mergePart_mergePart_iff {d : α} (hd : isZero d = false) (part : Option α) :
    mergePart isZero (some d) (mergePart isZero (some d) part) = mergePart isZero (some d) part ↔
      part.all (!isZero ·) := by
  cases part with
  | none => simp [mergePart, hd]
  | some a =>
    cases ha : isZero a with
    | true => simp [mergePart, ha]
    | false => simp [mergePart, ha]

/-- A part that is merged away was set to zero. -/
theorem any_of_mergePart_eq_none {d : α} {part : Option α}
    (h : mergePart isZero (some d) part = none) : part.any isZero = true := by
  cases part with
  | none => cases h
  | some a =>
    cases ha : isZero a with
    | true => exact ha
    | false =>
      rw [mergePart_of_not_isZero ha] at h
      cases h

/-- After a merge no part is zero. -/
theorem any_mergePart {d : α} (hd : isZero d = false) (part : Option α) :
    (mergePart isZero (some d) part).any isZero = false := by
  cases part with
  | none => exact hd
  | some a =>
    cases ha : isZero a with
    | true => simp [mergePart, ha]
    | false => simp [mergePart, ha]

/-- A part that is not zero is there after a merge. -/
theorem exists_mergePart {d : α} (hd : isZero d = false) {part : Option α}
    (h : part.any isZero = false) :
    ∃ x, mergePart isZero (some d) part = some x ∧ isZero x = false := by
  cases part with
  | none => exact ⟨d, rfl, hd⟩
  | some a => exact ⟨a, mergePart_of_not_isZero h, h⟩

end Part

/-- Two settings that are filled in together, as soon as one of them is there. -/
def mergeParts {α β : Type} (za : α → Bool) (zb : β → Bool) (da : α) (db : β) :
    Option α × Option β → Option α × Option β
  | (none, none) => (none, none)
  | (a, b) => (mergePart za (some da) a, mergePart zb (some db) b)

section Parts

variable {α β : Type} {za : α → Bool} {zb : β → Bool} {da : α} {db : β}

/-- Without a part there is nothing to complete. -/
theorem mergeParts_none : mergeParts za zb da db (none, none) = (none, none) := rfl

/-- With the first part given, both are completed. -/
theorem mergeParts_of_fst (x : α) (b : Option β) : mergeParts za zb da db (some x, b) =
    (mergePart za (some da) (some x), mergePart zb (some db) b) := rfl

/-- With the second part given, both are completed. -/
theorem mergeParts_of_snd (a : Option α) (y : β) : mergeParts za zb da db (a, some y) =
    (mergePart za (some da) a, mergePart zb (some db) (some y)) := by
  cases a <;> rfl

/-- The two settings are treated alike. -/
theorem swap_mergeParts (p : Option α × Option β) :
    (mergeParts za zb da db p).swap = mergeParts zb za db da p.swap := by
  rcases p with ⟨_ | a, _ | b⟩ <;> rfl

/-- The two parts play the same role in every round. -/
theorem swap_iterate_mergeParts (k : Nat) (p : Option α × Option β) :
    ((mergeParts za zb da db)^[k] p).swap = (mergeParts zb za db da)^[k] p.swap :=
  (show Function.Semiconj Prod.swap _ _ from swap_mergeParts).iterate_right k p

/-- A setting that is there and not zero stays as it is. -/
theorem iterate_mergeParts_kept {x : α} (hx : za x = false) (b : Option β) (k : Nat) :
    ((mergeParts za zb da db)^[k] (some x, b)).1 = some x := by
  induction k generalizing b with
  | zero => rfl
  | succ k ih =>
    rw [Function.iterate_succ_apply, mergeParts_of_fst, mergePart_of_not_isZero hx]
    exact ih _

/-- Two settings that are both zero stay removed. -/
theorem iterate_mergeParts_removed {x : α} {y : β} (hx : za x = true) (hy : zb y = true)
    (k : Nat) : (mergeParts za zb da db)^[k + 1] (some x, some y) = (none, none) := by
  rw [Function.iterate_succ_apply, mergeParts_of_fst, mergePart_of_isZero hx,
    mergePart_of_isZero hy]
  exact Function.iterate_fixed mergeParts_none k

/-- What rounds of filling in, at least one, make of two settings. -/
structure Drifts (za : α → Bool) (zb : β → Bool) (p p' : Option α × Option β) : Prop where
  fst : ∀ x, p.1 = some x → za x = false → p'.1 = some x
  snd : ∀ y, p.2 = some y → zb y = false → p'.2 = some y
  notZero : p'.1.any za = false ∧ p'.2.any zb = false
  removed : p.1.any za = true → p.2.any zb = true → p' = (none, none)
  sndThere : p.1.any za = true → p.2.any zb = false → p'.2 ≠ none
  fstThere : p.2.any zb = true → p.1.any za = false → p'.1 ≠ none

/-- The two settings drift alike. -/
theorem Drifts.swap {p p' : Option α × Option β} (h : Drifts za zb p p') :
    Drifts zb za p.swap p'.swap where
  fst := h.snd
  snd := h.fst
  notZero := h.notZero.symm
  removed hb ha := by rw [h.removed ha hb]; rfl
  sndThere := h.fstThere
  fstThere := h.sndThere

/-- Settings that are both missing can become anything but zero. -/
theorem drifts_of_none {p : Option α × Option β} (ha : p.1.any za = false)
    (hb : p.2.any zb = false) : Drifts za zb (none, none) p where
  fst := by
    intro x hx
    cases hx
  snd := by
    intro y hy
    cases hy
  notZero := ⟨ha, hb⟩
  removed := by
    intro hx
    cases hx
  sndThere := by
    intro hx
    cases hx
  fstThere := by
    intro hy
    cases hy

/-- From the first round on, the second part is there if it was not dropped. -/
private theorem iterate_mergeParts_there (hdb : zb db = false) {x : α} {b : Option β}
    (hb : b.any zb = false) (k : Nat) :
    ((mergeParts za zb da db)^[k + 1] (some x, b)).2 ≠ none := by
  obtain ⟨y, hy, hzero⟩ := exists_mergePart hdb hb
  have hkept : ((mergeParts zb za db da)^[k] (some y, mergePart za (some da) (some x))).1 =
      some y := iterate_mergeParts_kept hzero _ k
  rw [Function.iterate_succ_apply, mergeParts_of_fst, hy]
  rw [← Prod.swap_prod_mk, ← swap_iterate_mergeParts, Prod.fst_swap] at hkept
  rw [hkept]
  exact Option.some_ne_none y

/-- No part that is left counts as zero, if the default does not. -/
private theorem any_mergeParts (hda : za da = false) (p : Option α × Option β) :
    (mergeParts za zb da db p).1.any za = false := by
  rcases p with ⟨_ | a, _ | b⟩
  · rfl
  · exact any_mergePart hda none
  · exact any_mergePart hda (some a)
  · exact any_mergePart hda (some a)

/-- Rounds of filling in make settings drift. -/
theorem drifts_iterate (hda : za da = false) (hdb : zb db = false) (p : Option α × Option β)
    (k : Nat) : Drifts za zb p ((mergeParts za zb da db)^[k + 1] p) where
  fst := by
    rintro x hx hzero
    obtain ⟨_, b⟩ := p
    cases hx
    exact iterate_mergeParts_kept hzero b (k + 1)
  snd := by
    rintro y hy hzero
    obtain ⟨a, _⟩ := p
    cases hy
    have hkept : ((mergeParts zb za db da)^[k + 1] (some y, a)).1 = some y :=
      iterate_mergeParts_kept hzero a (k + 1)
    rwa [← Prod.swap_prod_mk, ← swap_iterate_mergeParts, Prod.fst_swap] at hkept
  notZero := by
    rw [Function.iterate_succ_apply']
    refine ⟨any_mergeParts hda _, ?_⟩
    rw [← Prod.fst_swap, swap_mergeParts]
    exact any_mergeParts hdb _
  removed := by
    obtain ⟨_ | x, _ | y⟩ := p
    · intro hx
      cases hx
    · intro hx
      cases hx
    · intro _ hy
      cases hy
    · intro hx hy
      exact iterate_mergeParts_removed (x := x) (y := y) hx hy k
  sndThere := by
    obtain ⟨_ | x, b⟩ := p
    · intro hx
      cases hx
    · intro _ hb
      exact iterate_mergeParts_there hdb hb k
  fstThere := by
    obtain ⟨a, _ | y⟩ := p
    · intro hy
      cases hy
    · intro _ ha
      have hthere : ((mergeParts zb za db da)^[k + 1] (some y, a)).2 ≠ none :=
        iterate_mergeParts_there hda ha k
      rwa [← Prod.swap_prod_mk, ← swap_iterate_mergeParts, Prod.snd_swap] at hthere

/-- Both settings are missing after rounds of filling in exactly when both were missing or both were
zero. -/
theorem iterate_mergeParts_eq_none_iff (hda : za da = false) (hdb : zb db = false)
    (p : Option α × Option β) (k : Nat) :
    (mergeParts za zb da db)^[k + 1] p = (none, none) ↔
      p = (none, none) ∨ p.1.any za = true ∧ p.2.any zb = true := by
  have hdrifts := drifts_iterate hda hdb p k
  constructor
  · intro hnone
    rw [hnone] at hdrifts
    by_contra h
    rw [not_or, not_and] at h
    cases ha : p.1.any za with
    | true => exact hdrifts.sndThere ha (Bool.eq_false_iff.mpr (h.2 ha)) rfl
    | false =>
      cases hb : p.2.any zb with
      | true => exact hdrifts.fstThere hb ha rfl
      | false =>
        -- Neither is zero, so one that is there stays.
        obtain ⟨_ | x, _ | y⟩ := p
        · exact h.1 rfl
        · cases hdrifts.snd y rfl hb
        · cases hdrifts.fst x rfl ha
        · cases hdrifts.fst x rfl ha
  · rintro (rfl | ⟨ha, hb⟩)
    · exact Function.iterate_fixed mergeParts_none (k + 1)
    · exact hdrifts.removed ha hb

/-- A result follows a setting that is given: it takes it over, and a zero means that there is
none. -/
def FollowsPart (isZero : α → Bool) (given result : Option α) : Prop :=
  ∀ x, given = some x → result = if isZero x then none else some x

/-- Every merge follows what was given. -/
theorem followsPart_mergePart (default : Option α) (given : Option α) :
    FollowsPart za given (mergePart za default given) := by
  rintro x rfl
  rfl

section Override

variable {p p' : Option α × Option β} {ca : α → α} {cb : β → β} {ga : Option α} {gb : Option β}

/-- Copying a part does not change whether it counts as zero. -/
private theorem any_map (hca : ∀ x, za (ca x) = za x) (a : Option α) :
    (a.map ca).any za = a.any za := by
  cases a with
  | none => rfl
  | some x => exact hca x

/-- A setting whose removal is not forgotten follows what was given. -/
private theorem followsPart_of_drifts (h : Drifts za zb p p') (hca : ∀ x, za (ca x) = za x)
    (hkept : p.1.any za = true ∧ ga = none → p.2.any zb = true ∧ gb = none) :
    FollowsPart za ((ga.or p.1).map ca)
      (mergeParts za zb da db ((ga.or p'.1).map ca, (gb.or p'.2).map cb)).1 := by
  cases ga with
  | some g => exact followsPart_mergePart (some da) (some (ca g))
  | none =>
    intro x hx
    rw [Option.none_or, Option.map_eq_some_iff] at hx
    obtain ⟨a, ha, rfl⟩ := hx
    cases hzero : za a with
    | true =>
      have hany : p.1.any za = true := by rw [ha]; exact hzero
      obtain ⟨hother, rfl⟩ := hkept ⟨hany, rfl⟩
      rw [h.removed hany hother, hca, hzero]
      rfl
    | false =>
      rw [h.fst a ha hzero]
      exact followsPart_mergePart (some da) (some (ca a)) (ca a) rfl

/-- A removal is forgotten when the other setting is there. -/
private theorem not_followsPart_of_drifts (hda : za da = false) (h : Drifts za zb p p')
    (hca : ∀ x, za (ca x) = za x) (hremoved : p.1.any za = true)
    (hother : ¬(p.2.any zb = true ∧ gb = none)) :
    ¬FollowsPart za ((Option.or none p.1).map ca)
      (mergeParts za zb da db ((Option.or none p'.1).map ca, (gb.or p'.2).map cb)).1 := by
  obtain ⟨a, ha, hzero⟩ : ∃ a, p.1 = some a ∧ za a = true := by
    simpa [Option.any_eq_true] using hremoved
  obtain ⟨y, hy⟩ : ∃ y, (gb.or p'.2).map cb = some y := by
    refine Option.ne_none_iff_exists'.mp fun hnone => ?_
    rw [Option.map_eq_none_iff, Option.or_eq_none_iff] at hnone
    refine h.sndThere hremoved ?_ hnone.2
    rw [Bool.eq_false_iff]
    exact fun hb => hother ⟨hb, hnone.1⟩
  intro hfollows
  have hresult := hfollows (ca a) (by rw [Option.none_or, ha]; rfl)
  obtain ⟨x, hx, -⟩ := exists_mergePart hda
    ((any_map hca p'.1).trans h.notZero.1)
  rw [hy, mergeParts_of_snd, Option.none_or, hx, hca, hzero] at hresult
  cases hresult

/-- Settings that drifted are overridden, rewritten without becoming zero, and filled in once more.
The result follows what was given in the beginning exactly when the removals that are not
overridden come together. -/
theorem followsParts_iff_of_drifts (hda : za da = false) (hdb : zb db = false)
    (h : Drifts za zb p p') (hca : ∀ x, za (ca x) = za x) (hcb : ∀ y, zb (cb y) = zb y)
    (ga : Option α) (gb : Option β) :
    FollowsPart za ((ga.or p.1).map ca)
        (mergeParts za zb da db ((ga.or p'.1).map ca, (gb.or p'.2).map cb)).1 ∧
      FollowsPart zb ((gb.or p.2).map cb)
        (mergeParts za zb da db ((ga.or p'.1).map ca, (gb.or p'.2).map cb)).2 ↔
    (p.1.any za = true ∧ ga = none ↔ p.2.any zb = true ∧ gb = none) := by
  have hswap : (mergeParts za zb da db ((ga.or p'.1).map ca, (gb.or p'.2).map cb)).2 =
      (mergeParts zb za db da ((gb.or p'.swap.1).map cb, (ga.or p'.swap.2).map ca)).1 := by
    rw [← Prod.fst_swap, swap_mergeParts]
    rfl
  rw [hswap]
  constructor
  · rintro ⟨hfst, hsnd⟩
    constructor
    · rintro ⟨hremoved, rfl⟩
      by_contra hother
      exact not_followsPart_of_drifts hda h hca hremoved hother hfst
    · rintro ⟨hremoved, rfl⟩
      by_contra hother
      exact not_followsPart_of_drifts hdb h.swap hcb hremoved hother hsnd
  · intro hiff
    exact ⟨followsPart_of_drifts h hca hiff.mp, followsPart_of_drifts h.swap hcb hiff.mpr⟩

end Override

end Parts

end HdfsOperator
