import Mathlib.Data.List.Basic
import Mathlib.Logic.Function.Basic

/-!
# Lists in which the last entry of a name counts

A list of named values stands for a map: the value of a name is that of its last entry.
Replacing the last entries, and appending entries for names that do not occur, updates the
map and leaves the entries that do not count in place.
-/

namespace HdfsOperator.LastWins

/-- A named value. -/
structure Entry (K V : Type) where
  name : K
  value : V
  deriving DecidableEq

variable {K V : Type}

/-- The names of a list. -/
def names (es : List (Entry K V)) : List K := es.map Entry.name

@[simp] theorem names_nil : names ([] : List (Entry K V)) = [] := rfl

@[simp] theorem names_cons (e : Entry K V) (es : List (Entry K V)) :
    names (e :: es) = e.name :: names es := rfl

@[simp] theorem names_append (es es' : List (Entry K V)) :
    names (es ++ es') = names es ++ names es' := List.map_append

/-- The entry with its value changed by a function. -/
def Entry.mapValue (t : V → V) (e : Entry K V) : Entry K V := { e with value := t e.value }

/-- Changing values keeps the names. -/
@[simp] theorem names_map_mapValue (t : V → V) (es : List (Entry K V)) :
    names (es.map (Entry.mapValue t)) = names es := by
  rw [names, List.map_map]
  rfl

variable [DecidableEq K]

/-- The value of a name: that of its last entry. -/
def effective (k : K) : List (Entry K V) → Option V
  | [] => none
  | e :: es => (effective k es).or (if e.name = k then some e.value else none)

/-- The position of the last entry of a name. -/
def lastIndex (k : K) : List (Entry K V) → Option Nat
  | [] => none
  | e :: es => ((lastIndex k es).map (· + 1)).or (if e.name = k then some 0 else none)

/-- An entry with the entries `after` behind it: if it is the last one of its name, it takes the
value that `f` has for the name. -/
def replaced (f : K → Option V) (after : List (Entry K V)) (e : Entry K V) : Entry K V :=
  if e.name ∈ names after then e else { e with value := (f e.name).getD e.value }

/-- The list with the last entry of each name replaced where `f` has a value for it. -/
def replaceLast (f : K → Option V) : List (Entry K V) → List (Entry K V)
  | [] => []
  | e :: es => replaced f es e :: replaceLast f es

variable {f : K → Option V} {e : Entry K V} {es after : List (Entry K V)} {k : K} {v : V}

/-- An entry with a later one of its name stays as it is. -/
theorem replaced_of_mem (h : e.name ∈ names after) : replaced f after e = e := if_pos h

/-- The last entry of a name gets the new value, if there is one. -/
theorem replaced_of_notMem (h : e.name ∉ names after) :
    replaced f after e = { e with value := (f e.name).getD e.value } := if_neg h

@[simp] theorem replaced_name (f : K → Option V) (after : List (Entry K V)) (e : Entry K V) :
    (replaced f after e).name = e.name := by
  unfold replaced
  split <;> rfl

/-- Replacing keeps the names. -/
@[simp] theorem names_replaceLast (f : K → Option V) (es : List (Entry K V)) :
    names (replaceLast f es) = names es := by
  induction es with
  | nil => rfl
  | cons e es ih =>
    rw [replaceLast, names_cons, ih, names_cons, replaced_name]

/-- Replacing keeps the number of entries. -/
@[simp] theorem length_replaceLast (f : K → Option V) (es : List (Entry K V)) :
    (replaceLast f es).length = es.length := by
  have h := congrArg List.length (names_replaceLast f es)
  rwa [names, names, List.length_map, List.length_map] at h

/-- A name has a value exactly when some entry has the name. -/
theorem effective_eq_none_iff : effective k es = none ↔ k ∉ names es := by
  induction es with
  | nil => simp [effective]
  | cons e es ih =>
    rw [effective, Option.or_eq_none_iff, ih, names_cons, List.mem_cons, not_or, and_comm]
    simp [eq_comm]

theorem exists_effective (h : k ∈ names es) : ∃ v, effective k es = some v :=
  Option.ne_none_iff_exists'.mp (mt effective_eq_none_iff.mp (not_not.mpr h))

theorem mem_names_of_effective (h : effective k es = some v) : k ∈ names es := by
  by_contra hk
  rw [effective_eq_none_iff.mpr hk] at h
  cases h

/-- The value of a name is that of an entry. -/
theorem mem_of_effective (h : effective k es = some v) : ⟨k, v⟩ ∈ es := by
  induction es with
  | nil => cases h
  | cons e es ih =>
    rw [effective, Option.or_eq_some_iff] at h
    rcases h with h | ⟨-, h⟩
    · exact List.mem_cons_of_mem _ (ih h)
    · split at h
      · next hk =>
        rw [← hk, ← Option.some.inj h]
        exact List.mem_cons_self
      · cases h

/-- A name has a last entry exactly when some entry has the name. -/
theorem lastIndex_eq_none_iff : lastIndex k es = none ↔ k ∉ names es := by
  induction es with
  | nil => simp [lastIndex]
  | cons e es ih =>
    rw [lastIndex, Option.or_eq_none_iff, Option.map_eq_none_iff, ih, names_cons, List.mem_cons,
      not_or, and_comm]
    simp [eq_comm]

/-- Later entries hide earlier ones. -/
theorem effective_append (k : K) (es es' : List (Entry K V)) :
    effective k (es ++ es') = (effective k es').or (effective k es) := by
  induction es with
  | nil => simp [effective]
  | cons e es ih => rw [List.cons_append, effective, effective, ih, Option.or_assoc]

/-- Changing all values changes the one that counts. -/
theorem effective_map_mapValue (t : V → V) (k : K) (es : List (Entry K V)) :
    effective k (es.map (Entry.mapValue t)) = (effective k es).map t := by
  induction es with
  | nil => rfl
  | cons e es ih =>
    rw [List.map_cons, effective, effective, ih, Option.map_or]
    congr 1
    show (if e.name = k then some (t e.value) else none) = _
    split <;> rfl

/-- A replaced list has the new values, and the old ones where there is no new one. -/
theorem effective_replaceLast (f : K → Option V) (h : k ∈ names es) :
    effective k (replaceLast f es) = (f k).or (effective k es) := by
  induction es with
  | nil => cases h
  | cons e es ih =>
    by_cases hk : k ∈ names es
    · obtain ⟨w, hw⟩ := exists_effective hk
      rw [replaceLast, effective, effective, ih hk, hw]
      cases f k <;> rfl
    · obtain rfl : e.name = k := ((List.mem_cons.mp h).resolve_right hk).symm
      have hrest : effective e.name (replaceLast f es) = none := by
        rwa [effective_eq_none_iff, names_replaceLast]
      rw [replaceLast, effective, effective, hrest, effective_eq_none_iff.mpr hk,
        replaced_of_notMem hk]
      cases f e.name <;> simp

/-- The last entry of a name is one of the entries. -/
theorem lastIndex_lt_length {i : Nat} (h : lastIndex k es = some i) : i < es.length := by
  induction es generalizing i with
  | nil => cases h
  | cons e es ih =>
    rw [List.length_cons]
    rw [lastIndex, Option.or_eq_some_iff] at h
    rcases h with h | ⟨-, h⟩
    · obtain ⟨j, hj, rfl⟩ := Option.map_eq_some_iff.mp h
      exact Nat.succ_lt_succ (ih hj)
    · split at h
      · cases h
        exact Nat.succ_pos _
      · cases h

/-- A change before the end of the first list leaves the second one. -/
theorem modify_append_of_lt {α : Type} {l : List α} {i : Nat} (h : i < l.length) (l' : List α)
    (g : α → α) : (l ++ l').modify i g = l.modify i g ++ l' := by
  induction l generalizing i with
  | nil => cases h
  | cons a l ih =>
    cases i with
    | zero => rfl
    | succ i =>
      rw [List.cons_append, List.modify_succ_cons, List.modify_succ_cons, List.cons_append,
        ih (Nat.lt_of_succ_lt_succ h)]

/-- Without new values nothing is replaced. -/
theorem replaceLast_none (es : List (Entry K V)) : replaceLast (fun _ => none) es = es := by
  induction es with
  | nil => rfl
  | cons e es ih =>
    rw [replaceLast, ih, replaced]
    split <;> rfl

/-- A new value for a name that does not occur changes nothing. -/
theorem replaceLast_update_of_notMem (h : k ∉ names es) (v : V) :
    replaceLast (Function.update f k (some v)) es = replaceLast f es := by
  induction es with
  | nil => rfl
  | cons e es ih =>
    rw [names_cons, List.mem_cons, not_or] at h
    rw [replaceLast, replaceLast, ih h.2, replaced, replaced, Function.update_of_ne (Ne.symm h.1)]

/-- Writing a value at the position of the last entry of a name replaces the value for that
name. -/
theorem modify_replaceLast {i : Nat} (h : lastIndex k es = some i) (v : V) :
    (replaceLast f es).modify i (Entry.mapValue fun _ => v) =
      replaceLast (Function.update f k (some v)) es := by
  induction es generalizing i with
  | nil => cases h
  | cons e es ih =>
    rw [lastIndex, Option.or_eq_some_iff] at h
    rcases h with h | ⟨hnone, h⟩
    · obtain ⟨j, hj, rfl⟩ := Option.map_eq_some_iff.mp h
      have hk : k ∈ names es := by
        by_contra hk
        rw [lastIndex_eq_none_iff.mpr hk] at hj
        cases hj
      rw [replaceLast, replaceLast, List.modify_succ_cons, ih hj]
      congr 1
      by_cases he : e.name ∈ names es
      · rw [replaced_of_mem he, replaced_of_mem he]
      · have hne : e.name ≠ k := fun heq => he (heq ▸ hk)
        rw [replaced_of_notMem he, replaced_of_notMem he, Function.update_of_ne hne]
    · have hk := lastIndex_eq_none_iff.mp (Option.map_eq_none_iff.mp hnone)
      split at h
      · next he =>
        cases h
        subst he
        rw [replaceLast, replaceLast, List.modify_zero_cons, replaceLast_update_of_notMem hk,
          replaced_of_notMem hk, replaced_of_notMem hk, Function.update_self]
        rfl
      · cases h

/-- A list that has the new values of its names already is not changed. -/
theorem replaceLast_eq_self (h : ∀ k v, f k = some v → k ∈ names es → effective k es = some v) :
    replaceLast f es = es := by
  induction es with
  | nil => rfl
  | cons e es ih =>
    have htail : replaceLast f es = es := by
      refine ih fun k v hv hk => ?_
      obtain ⟨w, hw⟩ := exists_effective hk
      have heff := h k v hv (List.mem_cons_of_mem _ hk)
      rwa [effective, hw, Option.some_or, ← hw] at heff
    rw [replaceLast, htail]
    congr 1
    by_cases he : e.name ∈ names es
    · exact replaced_of_mem he
    · rw [replaced_of_notMem he]
      cases hf : f e.name with
      | none => rfl
      | some v =>
        have heff := h e.name v hf List.mem_cons_self
        rw [effective, effective_eq_none_iff.mpr he, if_pos rfl, Option.none_or,
          Option.some.injEq] at heff
        rw [Option.getD_some, ← heff]

/-- Changing values commutes with replacing, if the new values stay the same. -/
theorem replaceLast_map_mapValue {t : V → V} (h : ∀ k v, f k = some v → t v = v)
    (es : List (Entry K V)) :
    replaceLast f (es.map (Entry.mapValue t)) = (replaceLast f es).map (Entry.mapValue t) := by
  induction es with
  | nil => rfl
  | cons e es ih =>
    rw [List.map_cons, replaceLast, replaceLast, List.map_cons, ih, replaced, replaced,
      names_map_mapValue]
    congr 1
    show (if e.name ∈ names es then _ else _) = _
    split
    · rfl
    · cases hf : f e.name with
      | none => simp [Entry.mapValue, hf]
      | some v => simp [Entry.mapValue, hf, h _ _ hf]

/-- What a replaced list holds. -/
theorem mem_replaceLast : e ∈ replaceLast f es ↔
    ∃ before e' after, es = before ++ e' :: after ∧ e = replaced f after e' := by
  induction es with
  | nil => simp [replaceLast]
  | cons a es ih =>
    rw [replaceLast, List.mem_cons, ih]
    constructor
    · rintro (rfl | ⟨before, e', after, rfl, rfl⟩)
      · exact ⟨[], a, es, rfl, rfl⟩
      · exact ⟨a :: before, e', after, rfl, rfl⟩
    · rintro ⟨before, e', after, hes, rfl⟩
      cases before with
      | nil =>
        obtain ⟨rfl, rfl⟩ := List.cons.inj hes
        exact .inl rfl
      | cons b before =>
        exact .inr ⟨before, e', after, (List.cons.inj hes).2, rfl⟩

end HdfsOperator.LastWins
