import Mathlib.Data.List.AList
import Mathlib.Data.List.Nodup

/-!
# Go maps and their iteration orders

A map holds at most one value for each string key. A `range` loop visits every
entry once, in an order that the language leaves open and that may differ from
loop to loop: each loop takes its own `RangeOrder`, and a statement about every
run quantifies over all of them.
-/

namespace HdfsOperator

/-- A Go `map[string]V`. -/
abbrev GoMap (V : Type) := AList fun _ : String => V

/-- One choice of the order in which a `range` loop visits the keys of a map. -/
structure RangeOrder where
  /-- The keys in the order of the visit. -/
  visit : List String → List String
  /-- Every key is visited exactly once. -/
  perm : ∀ keys, (visit keys).Perm keys

namespace RangeOrder

/-- The order that visits the keys as they are stored. -/
def stored : RangeOrder where
  visit := id
  perm keys := List.Perm.refl keys

/-- The order that visits the keys backwards. -/
def reversed : RangeOrder where
  visit := List.reverse
  perm keys := List.reverse_perm keys

/-- The order that visits a given key before the others. -/
def first (k : String) : RangeOrder where
  visit keys := if k ∈ keys then k :: keys.erase k else keys
  perm keys := by
    split
    · next h => exact (List.perm_cons_erase h).symm
    · exact List.Perm.refl keys

end RangeOrder

/-- Short lists have one order only. -/
theorem eq_of_perm_of_length_le_one {α : Type*} {l l' : List α} (h : l.Perm l')
    (hl : l.length ≤ 1) : l = l' := by
  match l, hl with
  | [], _ => exact (List.nil_perm.mp h).symm
  | [_], _ => exact List.singleton_perm.mp h

/-- A list whose elements are all equal has one order only. -/
theorem eq_of_perm_of_forall_eq {α : Type*} {l l' : List α} (h : l.Perm l')
    (hl : ∀ a ∈ l', ∀ b ∈ l', a = b) : l = l' := by
  cases l' with
  | nil => exact h.eq_nil
  | cons a l' =>
    have hreplicate : a :: l' = List.replicate (l'.length + 1) a :=
      List.eq_replicate_iff.mpr ⟨rfl, fun b hb => hl b hb a List.mem_cons_self⟩
    rw [hreplicate] at h ⊢
    exact List.perm_replicate.mp h

/-- A search for an element that is the only one of its kind does not depend on the order. -/
theorem find?_eq_of_perm {α : Type*} {l l' : List α} {p : α → Bool} (h : l.Perm l')
    (hone : ∀ a ∈ l', ∀ b ∈ l', p a → p b → a = b) : l.find? p = l'.find? p := by
  cases hl : l.find? p with
  | none =>
    rw [List.find?_eq_none] at hl
    exact (List.find?_eq_none.mpr fun a ha => hl a (h.mem_iff.mpr ha)).symm
  | some a =>
    have ha := h.mem_iff.mp (List.mem_of_find?_eq_some hl)
    have hpa := List.find?_some hl
    cases hl' : l'.find? p with
    | none => exact absurd hpa (List.find?_eq_none.mp hl' a ha)
    | some b => rw [hone a ha b (List.mem_of_find?_eq_some hl') hpa (List.find?_some hl')]

namespace GoMap

variable {V W : Type}

/-- The entries of `m` in the order in which a loop under `o` visits them. -/
def range (m : GoMap V) (o : RangeOrder) : List (String × V) :=
  (o.visit m.keys).filterMap fun k => (m.lookup k).map fun v => (k, v)

/-- A visit reads exactly the stored entries. -/
theorem mem_range {m : GoMap V} {o : RangeOrder} {k : String} {v : V} :
    (k, v) ∈ m.range o ↔ m.lookup k = some v := by
  simp only [range, List.mem_filterMap, Option.map_eq_some_iff, Prod.mk.injEq]
  constructor
  · rintro ⟨k', _, v', hv, rfl, rfl⟩
    exact hv
  · intro hv
    have hk : k ∈ m.keys := AList.mem_keys.mp (AList.lookup_isSome.mp (by simp [hv]))
    exact ⟨k, (o.perm m.keys).mem_iff.mpr hk, v, hv, rfl, rfl⟩

/-- The keys read by a visit are the keys of the map in the chosen order. -/
theorem range_keys (m : GoMap V) (o : RangeOrder) :
    (m.range o).map Prod.fst = o.visit m.keys := by
  have hmem : ∀ k ∈ o.visit m.keys, k ∈ m.keys := fun k hk => (o.perm m.keys).mem_iff.mp hk
  unfold range
  generalize o.visit m.keys = ks at hmem
  induction ks with
  | nil => rfl
  | cons k ks ih =>
    obtain ⟨v, hv⟩ := Option.isSome_iff_exists.mp
      (AList.lookup_isSome.mpr (AList.mem_keys.mpr (hmem k List.mem_cons_self)))
    simp only [List.filterMap_cons, hv, Option.map_some, List.map_cons]
    rw [ih fun k' hk' => hmem k' (List.mem_cons_of_mem _ hk')]

/-- No key is visited twice. -/
theorem range_keys_nodup (m : GoMap V) (o : RangeOrder) :
    ((m.range o).map Prod.fst).Nodup := by
  rw [range_keys]
  exact (o.perm m.keys).nodup_iff.mpr m.keys_nodup

/-- No entry is visited twice. -/
theorem range_nodup (m : GoMap V) (o : RangeOrder) : (m.range o).Nodup :=
  List.Nodup.of_map _ (range_keys_nodup m o)

/-- Two visits of one map read the same entries, in possibly different orders. -/
theorem range_perm (m : GoMap V) (o o' : RangeOrder) : (m.range o).Perm (m.range o') := by
  rw [List.perm_ext_iff_of_nodup (range_nodup m o) (range_nodup m o')]
  rintro ⟨k, v⟩
  rw [mem_range, mem_range]

/-- A visit reads the stored entries in some order. -/
theorem range_perm_entries (m : GoMap V) (o : RangeOrder) :
    (m.range o).Perm (m.entries.map fun e => (e.1, e.2)) := by
  have hnodup : (m.entries.map fun e => (e.1, e.2)).Nodup := by
    refine List.Nodup.of_map Prod.fst ?_
    rw [List.map_map]
    exact m.keys_nodup
  rw [List.perm_ext_iff_of_nodup (range_nodup m o) hnodup]
  rintro ⟨k, v⟩
  rw [mem_range, List.mem_map]
  constructor
  · intro h
    exact ⟨⟨k, v⟩, AList.mem_lookup_iff.mp h, rfl⟩
  · rintro ⟨e, he, heq⟩
    obtain ⟨rfl, rfl⟩ := Prod.mk.inj heq
    exact AList.mem_lookup_iff.mpr he

/-- Every entry is visited once. -/
@[simp] theorem length_range (m : GoMap V) (o : RangeOrder) :
    (m.range o).length = m.entries.length := by
  have hk := (o.perm m.keys).length_eq
  rw [← range_keys, List.length_map] at hk
  rw [hk, AList.keys, List.keys, List.length_map]

theorem range_empty (o : RangeOrder) : range (∅ : GoMap V) o = [] :=
  List.eq_nil_of_length_eq_zero (length_range _ o)

/-- A map without values is empty. -/
theorem eq_empty_of_lookup {m : GoMap V} (h : ∀ k, m.lookup k = none) : m = ∅ := by
  apply AList.ext
  refine List.eq_nil_iff_forall_not_mem.mpr fun e he => ?_
  have hsome : m.lookup e.1 = some e.2 := AList.mem_lookup_iff.mpr he
  rw [h] at hsome
  cases hsome

/-- Searching the visited entries for a key finds the stored entry, from either end. -/
theorem find?_of_perm_range {m : GoMap V} {o : RangeOrder} {l : List (String × V)}
    (hl : l.Perm (m.range o)) (k : String) :
    l.find? (fun e => e.1 = k) = (m.lookup k).map fun v => (k, v) := by
  cases hf : l.find? (fun e => e.1 = k) with
  | none =>
    cases hk : m.lookup k with
    | none => rfl
    | some v =>
      exact absurd (List.find?_eq_none.mp hf _ (hl.mem_iff.mpr (mem_range.mpr hk))) (by simp)
  | some e =>
    obtain ⟨k', v⟩ := e
    obtain rfl : k' = k := by simpa using List.find?_some hf
    rw [mem_range.mp (hl.mem_iff.mp (List.mem_of_find?_eq_some hf)), Option.map_some]

/-- A search by key in any order finds the entry of the key. -/
theorem range_find? (m : GoMap V) (o : RangeOrder) (k : String) :
    (m.range o).find? (fun e => e.1 = k) = (m.lookup k).map fun v => (k, v) :=
  find?_of_perm_range (List.Perm.refl _) k

/-- Two maps that agree on every key are visited with the same entries. -/
theorem range_perm_of_lookup_eq {m m' : GoMap V} (h : ∀ k, m.lookup k = m'.lookup k)
    (o o' : RangeOrder) : (m.range o).Perm (m'.range o') := by
  rw [List.perm_ext_iff_of_nodup (range_nodup m o) (range_nodup m' o')]
  rintro ⟨k, v⟩
  rw [mem_range, mem_range, h]

/-- A map with at most one entry is visited in one way only. -/
theorem range_eq_of_length_le_one {m m' : GoMap V} (h : ∀ k, m.lookup k = m'.lookup k)
    (hm : m.entries.length ≤ 1) (o o' : RangeOrder) : m.range o = m'.range o' :=
  eq_of_perm_of_length_le_one (range_perm_of_lookup_eq h o o') (by rwa [length_range])

/-- The visit of a map with a single key. -/
theorem range_of_keys_eq_singleton {m : GoMap V} {k : String} {v : V} (hkeys : m.keys = [k])
    (h : m.lookup k = some v) (o : RangeOrder) : m.range o = [(k, v)] := by
  rw [range, hkeys, List.perm_singleton.mp (o.perm [k])]
  simp [h]

/-- The visit that starts with a given key. -/
theorem range_first {m : GoMap V} {k : String} {v : V} (h : m.lookup k = some v) :
    ∃ l, m.range (.first k) = (k, v) :: l := by
  have hk : k ∈ m.keys := AList.mem_keys.mp (AList.lookup_isSome.mp (by rw [h]; rfl))
  refine ⟨(m.keys.erase k).filterMap fun k => (m.lookup k).map fun v => (k, v), ?_⟩
  rw [range, RangeOrder.first]
  simp [hk, h]

/-- A map with the given entries; a later entry replaces an earlier one with the same key. -/
def ofList (l : List (String × V)) : GoMap V := l.foldl (fun m e => m.insert e.1 e.2) ∅

/-- Adding the entries of a list keeps what was stored under other keys. -/
theorem foldl_insert_lookup (l : List (String × V)) (m : GoMap V) (k : String) :
    (l.foldl (fun m e => m.insert e.1 e.2) m).lookup k =
      ((l.reverse.find? fun e => e.1 = k).map Prod.snd).or (m.lookup k) := by
  induction l generalizing m with
  | nil => simp
  | cons e l ih =>
    rw [List.foldl_cons, ih, List.reverse_cons, List.find?_append, Option.map_or, Option.or_assoc]
    by_cases hk : e.1 = k
    · subst hk
      simp
    · simp [hk, AList.lookup_insert_ne (Ne.symm hk)]

/-- Copying a map entry by entry gives the same map. -/
theorem ofList_range_lookup (m : GoMap V) (o : RangeOrder) (k : String) :
    (ofList (m.range o)).lookup k = m.lookup k := by
  have hempty : AList.lookup k (∅ : GoMap V) = none := rfl
  rw [ofList, foldl_insert_lookup, hempty, Option.or_none,
    find?_of_perm_range (List.reverse_perm _), Option.map_map]
  exact Option.map_id'

/-- What is stored in a map with given entries is one of them. -/
theorem mem_of_lookup_ofList {l : List (String × V)} {k : String} {v : V}
    (h : (ofList l).lookup k = some v) : (k, v) ∈ l := by
  have hempty : AList.lookup k (∅ : GoMap V) = none := rfl
  rw [ofList, foldl_insert_lookup, hempty, Option.or_none, Option.map_eq_some_iff] at h
  obtain ⟨e, he, rfl⟩ := h
  have hk : e.1 = k := by simpa using List.find?_some he
  rw [← hk]
  exact List.mem_reverse.mp (List.mem_of_find?_eq_some he)

/-- A map with given entries stores all of them when no key occurs twice. -/
theorem lookup_ofList_of_mem {l : List (String × V)} (hl : (l.map Prod.fst).Nodup) {k : String}
    {v : V} (h : (k, v) ∈ l) : (ofList l).lookup k = some v := by
  have hfound : (l.reverse.find? fun e => e.1 = k) ≠ none := by
    rw [ne_eq, List.find?_eq_none, not_forall]
    exact ⟨(k, v), by simp [h]⟩
  obtain ⟨e, he⟩ := Option.ne_none_iff_exists'.mp hfound
  have hk : e.1 = k := by simpa using List.find?_some he
  have hmem := List.mem_reverse.mp (List.mem_of_find?_eq_some he)
  obtain rfl : e = (k, v) := List.inj_on_of_nodup_map hl hmem h hk
  rw [ofList, foldl_insert_lookup, he]
  rfl

/-- A loop that stores, under each visited key, the value that `f` computes for it.
The first failure of `f` ends the loop. -/
def collectM {ε : Type} (f : String → V → Except ε W) :
    List (String × V) → GoMap W → Except ε (GoMap W)
  | [], m => .ok m
  | (k, v) :: l, m =>
    match f k v with
    | .error x => .error x
    | .ok w => collectM f l (m.insert k w)

/-- A finished loop has stored the computed value of every visited key and kept the others. -/
theorem collectM_lookup {ε : Type} {f : String → V → Except ε W} {l : List (String × V)}
    {m m' : GoMap W} (hn : (l.map Prod.fst).Nodup) (h : collectM f l m = .ok m') :
    (∀ k v, (k, v) ∈ l → ∃ w, f k v = .ok w ∧ m'.lookup k = some w) ∧
      ∀ k, k ∉ l.map Prod.fst → m'.lookup k = m.lookup k := by
  induction l generalizing m with
  | nil =>
    have he : m = m' := Except.ok.inj h
    simp [he]
  | cons e l ih =>
    obtain ⟨k₀, v₀⟩ := e
    rw [List.map_cons, List.nodup_cons] at hn
    simp only [collectM] at h
    cases hf : f k₀ v₀ with
    | error x => simp [hf] at h
    | ok w =>
      rw [hf] at h
      obtain ⟨hvisited, hother⟩ := ih hn.2 h
      refine ⟨?_, ?_⟩
      · intro k v hkv
        rcases List.mem_cons.mp hkv with he | hkv
        · obtain ⟨rfl, rfl⟩ := Prod.mk.inj he
          exact ⟨w, hf, by rw [hother _ hn.1, AList.lookup_insert]⟩
        · exact hvisited k v hkv
      · intro k hk
        simp only [List.map_cons, List.mem_cons, not_or] at hk
        rw [hother k hk.2, AList.lookup_insert_ne hk.1]

/-- The loop finishes when `f` fails on no visited entry. -/
theorem collectM_ok {ε : Type} {f : String → V → Except ε W} {l : List (String × V)}
    (h : ∀ k v, (k, v) ∈ l → ∃ w, f k v = .ok w) (m : GoMap W) :
    ∃ m', collectM f l m = .ok m' := by
  induction l generalizing m with
  | nil => exact ⟨m, rfl⟩
  | cons e l ih =>
    obtain ⟨w, hw⟩ := h e.1 e.2 List.mem_cons_self
    obtain ⟨m', hm'⟩ := ih (fun k v hkv => h k v (List.mem_cons_of_mem _ hkv)) (m.insert e.1 w)
    exact ⟨m', by rw [collectM, hw]; exact hm'⟩

/-- A failure of the loop is a failure of `f` on a visited entry. -/
theorem collectM_error {ε : Type} {f : String → V → Except ε W} {l : List (String × V)}
    {m : GoMap W} {x : ε} (h : collectM f l m = .error x) :
    ∃ k v, (k, v) ∈ l ∧ f k v = .error x := by
  induction l generalizing m with
  | nil => cases h
  | cons e l ih =>
    rw [collectM] at h
    cases hf : f e.1 e.2 with
    | error y =>
      rw [hf] at h
      cases h
      exact ⟨e.1, e.2, List.mem_cons_self, hf⟩
    | ok w =>
      rw [hf] at h
      obtain ⟨k, v, hkv, hx⟩ := ih h
      exact ⟨k, v, List.mem_cons_of_mem _ hkv, hx⟩

end GoMap

end HdfsOperator
