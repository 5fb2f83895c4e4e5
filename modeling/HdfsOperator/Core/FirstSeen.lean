import Mathlib.Data.List.Induction
import Mathlib.Data.List.Nodup
import Mathlib.Data.List.Perm.Subperm

/-!
# First occurrences

The distinct elements of a list in the order of their first occurrence. An element that is
new comes to stand at the end, and its place there is the number of distinct elements before
it. So its place is at most its position in the list, with equality exactly when the elements
before it are distinct.

`WrittenAt` is what becomes of a list that is filled along another one, when an element that
comes back is written at its position in the other list instead of its place. Such a list has
room for the distinct elements only, so it loses one of them as soon as the two differ.
-/

namespace HdfsOperator.FirstSeen

variable {α : Type*} [DecidableEq α] {l m pre post : List α} {a : α}

/-- A repetition at the end changes nothing. -/
theorem eraseDups_concat_of_mem (h : a ∈ l) : (l ++ [a]).eraseDups = l.eraseDups := by
  simp [List.eraseDups_append, List.removeAll, h]

/-- A new value is added at the end. -/
theorem eraseDups_concat_of_notMem (h : a ∉ l) :
    (l ++ [a]).eraseDups = l.eraseDups ++ [a] := by
  simp [List.eraseDups_append, List.removeAll, h, List.eraseDups_cons]

/-- Repetitions at the end change nothing. -/
theorem eraseDups_append_of_subset (h : ∀ b ∈ m, b ∈ l) : (l ++ m).eraseDups = l.eraseDups := by
  have hnil : m.removeAll l = [] := by simpa [List.removeAll] using h
  rw [List.eraseDups_append, hnil, List.eraseDups_nil, List.append_nil]

theorem nodup_eraseDups (l : List α) : l.eraseDups.Nodup := by
  induction l using List.reverseRecOn with
  | nil => simp
  | append_singleton l a ih =>
    by_cases ha : a ∈ l
    · rwa [eraseDups_concat_of_mem ha]
    · rw [eraseDups_concat_of_notMem ha, List.nodup_append]
      refine ⟨ih, List.nodup_singleton a, ?_⟩
      rintro b hb _ hc rfl
      rw [List.mem_singleton] at hc
      exact ha (hc ▸ List.mem_eraseDups.mp hb)

theorem length_eraseDups_le (l : List α) : l.eraseDups.length ≤ l.length :=
  (List.subperm_of_subset (nodup_eraseDups l) fun _ => List.mem_eraseDups.mp).length_le

/-- Without repetitions nothing is dropped. -/
theorem eraseDups_of_nodup (h : l.Nodup) : l.eraseDups = l := by
  induction l using List.reverseRecOn with
  | nil => rfl
  | append_singleton l a ih =>
    have hparts := List.nodup_append.mp h
    have ha : a ∉ l := fun ha => hparts.2.2 a ha a (by simp) rfl
    rw [eraseDups_concat_of_notMem ha, ih hparts.1]

/-- Nothing is left out exactly when the elements are distinct. -/
theorem length_eraseDups_eq_iff : l.eraseDups.length = l.length ↔ l.Nodup := by
  constructor
  · intro h
    have hsub := List.subperm_of_subset (nodup_eraseDups l) fun _ => List.mem_eraseDups.mp
    exact (hsub.perm_of_length_le (Nat.le_of_eq h.symm)).nodup_iff.mp (nodup_eraseDups l)
  · intro h
    rw [eraseDups_of_nodup h]

/-- The place of an element is the number of distinct elements before it. -/
theorem idxOf_eraseDups (h : a ∉ pre) (post : List α) :
    (pre ++ a :: post).eraseDups.idxOf a = pre.eraseDups.length := by
  have htail : ∃ rest, ((a :: post).removeAll pre).eraseDups = a :: rest := by
    simp [List.removeAll, h, List.eraseDups_cons]
  obtain ⟨rest, hrest⟩ := htail
  rw [List.eraseDups_append, hrest,
    List.idxOf_append_of_notMem fun hm => h (List.mem_eraseDups.mp hm), List.idxOf_cons_self,
    Nat.add_zero]

/-- An element stands at its first position in the list, with other elements before it. -/
theorem exists_first (h : a ∈ l) :
    ∃ pre post, l = pre ++ a :: post ∧ a ∉ pre ∧ l.idxOf a = pre.length := by
  obtain ⟨pre, post, rfl, hpre⟩ := List.eq_append_cons_of_mem h
  refine ⟨pre, post, rfl, hpre, ?_⟩
  rw [List.idxOf_append_of_notMem hpre, List.idxOf_cons_self, Nat.add_zero]

/-- Writing a value where it stands changes nothing. -/
theorem set_idxOf (h : a ∈ l) : l.set (l.idxOf a) a = l := by
  apply List.ext_getElem?
  intro i
  rw [List.getElem?_set]
  split
  · next hi =>
    subst hi
    rw [if_pos (List.idxOf_lt_length_of_mem h), List.getElem?_eq_getElem
      (List.idxOf_lt_length_of_mem h), List.getElem_idxOf]
  · rfl

/-- The place of an element is at most its position. -/
theorem idxOf_eraseDups_le (h : a ∈ l) : l.eraseDups.idxOf a ≤ l.idxOf a := by
  obtain ⟨pre, post, rfl, hpre, hidx⟩ := exists_first h
  rw [hidx, idxOf_eraseDups hpre]
  exact length_eraseDups_le pre

/-- An arrangement of distinct elements in which none stands before its own place leaves all of
them where they are. -/
theorem eq_of_perm_of_idxOf_le (hl : l.Nodup) (h : m.Perm l)
    (hle : ∀ i x, m[i]? = some x → l.idxOf x ≤ i) : m = l := by
  induction l generalizing m with
  | nil => exact h.eq_nil
  | cons a l ih =>
    obtain ⟨ha, hl⟩ := List.nodup_cons.mp hl
    cases m with
    | nil => exact h.symm.eq_nil.symm
    | cons b m =>
      -- The first element cannot stand later, and the others do not stand first.
      obtain rfl : a = b := by
        by_contra hne
        have hfirst := hle 0 b rfl
        rw [List.idxOf_cons_ne _ hne] at hfirst
        exact absurd hfirst (by simp)
      have hm : m.Perm l := (List.perm_cons a).mp h
      rw [ih hl hm fun i x hx => ?_]
      have hne : a ≠ x := by
        rintro rfl
        exact ha (hm.mem_iff.mp (List.mem_of_getElem? hx))
      have hnext := hle (i + 1) x hx
      rw [List.idxOf_cons_ne _ hne] at hnext
      exact Nat.le_of_succ_le_succ hnext

/-- `r` is filled along `l`: a new element is added at the end, and one that comes back is written
at its first position in `l`. -/
inductive WrittenAt : List α → List α → Prop
  | nil : WrittenAt [] []
  | new {l r : List α} {a : α} (ha : a ∉ l) (h : WrittenAt l r) : WrittenAt (l ++ [a]) (r ++ [a])
  | again {l r : List α} {a : α} (ha : a ∈ l) (hlt : l.idxOf a < r.length) (h : WrittenAt l r) :
      WrittenAt (l ++ [a]) (r.set (l.idxOf a) a)

namespace WrittenAt

variable {r : List α}

/-- There is one slot for each value that was seen. -/
theorem length_eq (h : WrittenAt l r) : r.length = l.eraseDups.length := by
  induction h with
  | nil => rfl
  | new ha _ ih => rw [eraseDups_concat_of_notMem ha, List.length_append, List.length_append, ih]
  | again ha _ _ ih => rw [eraseDups_concat_of_mem ha, List.length_set, ih]

/-- No element stands before its place. -/
theorem idxOf_le (h : WrittenAt l r) {i : Nat} {b : α} (hi : r[i]? = some b) :
    l.eraseDups.idxOf b ≤ i := by
  induction h with
  | nil => simp at hi
  | @new l r a ha h ih =>
    have hlen := h.length_eq
    rw [eraseDups_concat_of_notMem ha]
    by_cases hlast : i < r.length
    · rw [List.getElem?_append_left hlast] at hi
      have hle := ih hi
      rwa [List.idxOf_append_of_mem (List.idxOf_lt_length_iff.mp (by omega))]
    · rw [List.getElem?_append_right (by omega), List.getElem?_singleton] at hi
      split at hi
      · cases hi
        rw [List.idxOf_append_of_notMem fun hm => ha (List.mem_eraseDups.mp hm),
          List.idxOf_cons_self]
        omega
      · cases hi
  | @again l r a ha hlt h ih =>
    rw [eraseDups_concat_of_mem ha]
    by_cases hat : l.idxOf a = i
    · subst hat
      rw [List.getElem?_set_self hlt] at hi
      cases hi
      exact idxOf_eraseDups_le ha
    · rw [List.getElem?_set_ne hat] at hi
      exact ih hi

/-- An element that came back stands at its first position. -/
theorem getElem?_idxOf (h : WrittenAt l r) {b : α} (hb : 2 ≤ l.count b) :
    r[l.idxOf b]? = some b := by
  induction h with
  | nil => simp at hb
  | @new l r a ha h ih =>
    have hne : a ≠ b := by
      rintro rfl
      rw [List.count_append, List.count_eq_zero.mpr ha, List.count_singleton_self] at hb
      omega
    rw [List.count_append, List.count_singleton, if_neg (by simpa using hne)] at hb
    have hwritten := ih hb
    obtain ⟨hlast, -⟩ := List.getElem?_eq_some_iff.mp hwritten
    rw [List.idxOf_append_of_mem (List.count_pos_iff.mp (by omega)),
      List.getElem?_append_left hlast, hwritten]
  | @again l r a ha hlt h ih =>
    by_cases hne : a = b
    · subst hne
      rw [List.idxOf_append_of_mem ha, List.getElem?_set_self hlt]
    · -- Another element that came back has another first position.
      rw [List.count_append, List.count_singleton, if_neg (by simpa using hne)] at hb
      have hmem : b ∈ l := List.count_pos_iff.mp (by omega)
      rw [List.idxOf_append_of_mem hmem, List.getElem?_set_ne, ih hb]
      exact fun heq => hne ((List.idxOf_inj ha).mp heq)

/-- When no element is lost, every element stands at its place. -/
theorem eq_eraseDups (h : WrittenAt l r) (hkept : ∀ b ∈ l, b ∈ r) : r = l.eraseDups := by
  have hsub : l.eraseDups.Subperm r :=
    List.subperm_of_subset (nodup_eraseDups l) fun b hb => hkept b (List.mem_eraseDups.mp hb)
  have hperm : r.Perm l.eraseDups := (hsub.perm_of_length_le (Nat.le_of_eq h.length_eq)).symm
  exact eq_of_perm_of_idxOf_le (nodup_eraseDups l) hperm fun _ _ => h.idxOf_le

/-- When no element is lost, the elements before one that comes back are distinct. -/
theorem nodup_of_repeat (h : WrittenAt (pre ++ a :: post) r) (hkept : ∀ b ∈ pre ++ a :: post, b ∈ r)
    (hpre : a ∉ pre) (hpost : a ∈ post) : pre.Nodup := by
  have hcount : 2 ≤ (pre ++ a :: post).count a := by
    have hagain := List.count_pos_iff.mpr hpost
    rw [List.count_append, List.count_cons_self]
    omega
  have hwritten := h.getElem?_idxOf hcount
  rw [h.eq_eraseDups hkept, List.idxOf_append_of_notMem hpre, List.idxOf_cons_self,
    Nat.add_zero] at hwritten
  obtain ⟨hlt, hget⟩ := List.getElem?_eq_some_iff.mp hwritten
  have hidx := (nodup_eraseDups (pre ++ a :: post)).idxOf_getElem _ hlt
  rw [hget, idxOf_eraseDups hpre] at hidx
  exact length_eraseDups_eq_iff.mp hidx

end WrittenAt

end HdfsOperator.FirstSeen
