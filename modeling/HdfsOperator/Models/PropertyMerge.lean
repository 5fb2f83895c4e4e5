import HdfsOperator.Models.XmlConfiguration

/-!
# Merging properties by name

`distinctProperties` keeps one property for each name. It remembers, for a name, the
position of its first property in the collected list and writes a later property at that
position of the result. The two lists agree only as long as nothing was merged, so a
later write can hit another property or run out of range. The lemmas here say what is
certain: names that occur once are kept, and a leading part whose names do not come
back is not touched.
-/

namespace HdfsOperator

/-- The state of the merging loop: the position in the collected list, the position at which
each name was first seen, and the result so far. -/
structure Distinct where
  idx : Nat := 0
  distinctKeys : GoMap Nat := ∅
  distinctProperties : List XmlNameValuePair := []

namespace Distinct

/-- One property of the collected list. -/
def step (s : Distinct) (v : XmlNameValuePair) : Go Distinct :=
  match s.distinctKeys.lookup v.name with
  | none => .ok ⟨s.idx + 1, s.distinctKeys.insert v.name s.idx, s.distinctProperties ++ [v]⟩
  | some existIdx =>
    if existIdx < s.distinctProperties.length then
      .ok ⟨s.idx + 1, s.distinctKeys, s.distinctProperties.set existIdx v⟩
    else .error (.panic .indexOutOfRange)

/-- The loop over the collected list. -/
def run : List XmlNameValuePair → Distinct → Go Distinct
  | [], s => .ok s
  | v :: vs, s => s.step v >>= run vs

end Distinct

/-- The names of a list of properties. -/
def propertyNames (ps : List XmlNameValuePair) : List String := ps.map XmlNameValuePair.name

@[simp] theorem propertyNames_append (ps qs : List XmlNameValuePair) :
    propertyNames (ps ++ qs) = propertyNames ps ++ propertyNames qs := List.map_append

@[simp] theorem propertyNames_cons (p : XmlNameValuePair) (ps : List XmlNameValuePair) :
    propertyNames (p :: ps) = p.name :: propertyNames ps := rfl

@[simp] theorem propertyNames_nil : propertyNames [] = [] := rfl

@[simp] theorem length_propertyNames (ps : List XmlNameValuePair) :
    (propertyNames ps).length = ps.length := List.length_map _

theorem propertyNames_set (ps : List XmlNameValuePair) (i : Nat) (p : XmlNameValuePair) :
    propertyNames (ps.set i p) = (propertyNames ps).set i p.name := List.map_set

theorem mem_propertyNames {n : String} {ps : List XmlNameValuePair} :
    n ∈ propertyNames ps ↔ ∃ p ∈ ps, p.name = n := List.mem_map

/-- The names of a list of properties are those that have a value. -/
theorem mem_propertyNames_iff_effectiveValue {n : String} {ps : List XmlNameValuePair} :
    n ∈ propertyNames ps ↔ effectiveValue ps n ≠ none := by
  rw [effectiveValue, ne_eq, Option.map_eq_none_iff, List.find?_eq_none, mem_propertyNames]
  simp

/-- Among distinct names every property gives the value of its name. -/
theorem effectiveValue_of_mem {ps : List XmlNameValuePair} (h : (propertyNames ps).Nodup)
    {p : XmlNameValuePair} (hp : p ∈ ps) : effectiveValue ps p.name = some p.value := by
  obtain ⟨v, hv⟩ := Option.ne_none_iff_exists'.mp
    (mem_propertyNames_iff_effectiveValue.mp (mem_propertyNames.mpr ⟨p, hp, rfl⟩))
  obtain ⟨q, hq, hname, rfl⟩ := mem_of_effectiveValue hv
  rw [hv, List.inj_on_of_nodup_map h hq hp hname]

/-- Names that XML can hold are read back from a document. -/
theorem map_name_replacePair {ps : List XmlNameValuePair}
    (hnames : ∀ n ∈ propertyNames ps, Xml.XmlText n) :
    propertyNames (ps.map replacePair) = propertyNames ps := by
  have hreplaced : ∀ p ∈ ps, (XmlNameValuePair.name ∘ replacePair) p = p.name := fun p hp =>
    Xml.replaceText_of_xmlText (hnames p.name (mem_propertyNames.mpr ⟨p, hp, rfl⟩))
  rw [propertyNames, List.map_map, List.map_congr_left hreplaced]
  rfl

/-- The value of a property that is written to a document. -/
theorem documentValue_of_mem {ps : List XmlNameValuePair} (h : (propertyNames ps).Nodup)
    (hnames : ∀ n ∈ propertyNames ps, Xml.XmlText n) {p : XmlNameValuePair} (hp : p ∈ ps) :
    documentValue (encode ps) p.name = some (Xml.replaceText p.value) := by
  have hname : (replacePair p).name = p.name :=
    Xml.replaceText_of_xmlText (hnames p.name (mem_propertyNames.mpr ⟨p, hp, rfl⟩))
  rw [documentValue_encode, ← hname]
  refine effectiveValue_of_mem ?_ (List.mem_map_of_mem hp)
  rwa [map_name_replacePair hnames]

/-- A name that is not written to a document has no value in it. -/
theorem documentValue_eq_none {ps : List XmlNameValuePair} {name : String}
    (hnames : ∀ n ∈ propertyNames ps, Xml.XmlText n) (h : name ∉ propertyNames ps) :
    documentValue (encode ps) name = none := by
  rw [← map_name_replacePair hnames] at h
  rw [documentValue_encode]
  exact effectiveValue_eq_none fun p hp heq => h (mem_propertyNames.mpr ⟨p, hp, heq⟩)

/-- The entries of a map as properties, in the order in which a loop visits them. -/
def mapProperties (properties : GoMap String) (o : RangeOrder) : List XmlNameValuePair :=
  (properties.range o).map fun e => ⟨e.1, e.2⟩

/-- The names of a map of properties are its keys. -/
theorem propertyNames_mapProperties (m : GoMap String) (o : RangeOrder) :
    propertyNames (mapProperties m o) = (m.range o).map Prod.fst := by
  simp [propertyNames, mapProperties]

/-- The properties of a map are its entries. -/
theorem mem_mapProperties {m : GoMap String} {o : RangeOrder} {p : XmlNameValuePair} :
    p ∈ mapProperties m o ↔ m.lookup p.name = some p.value := by
  rw [← GoMap.mem_range (o := o), mapProperties, List.mem_map]
  constructor
  · rintro ⟨e, he, rfl⟩
    exact he
  · intro he
    exact ⟨_, he, rfl⟩

/-- A map has one value for each name. -/
theorem effectiveValue_mapProperties (m : GoMap String) (o : RangeOrder) (n : String) :
    effectiveValue (mapProperties m o) n = m.lookup n := by
  have hfind := GoMap.find?_of_perm_range (List.reverse_perm (m.range o)) n
  rw [effectiveValue, mapProperties, ← List.map_reverse, List.find?_map]
  simp only [Function.comp_def, hfind, Option.map_map]
  exact Option.map_id'

/-- A configuration document in memory. -/
structure XmlConfiguration where
  properties : List XmlNameValuePair
  deriving DecidableEq

namespace XmlConfiguration

/-- The properties of the document followed by the given ones, merged by name. -/
def distinctProperties (c : XmlConfiguration) (properties : List XmlNameValuePair) :
    Go (List XmlNameValuePair) := do
  let s ← Distinct.run (c.properties ++ properties) {}
  return s.distinctProperties

/-- The document after `String` has been called on it: an empty document takes no properties. -/
def merged (c : XmlConfiguration) (properties : List XmlNameValuePair) : Go XmlConfiguration :=
  if c.properties ≠ [] then do
    let ps ← c.distinctProperties properties
    return ⟨ps⟩
  else return c

/-- The text of the document with the given properties merged in. -/
def string (c : XmlConfiguration) (properties : List XmlNameValuePair) : Go String := do
  let d ← c.merged properties
  return encode d.properties

end XmlConfiguration

/-- A reader of configuration documents: the properties of a text, in order, if it is one. -/
abbrev Unmarshal := String → Option (List XmlNameValuePair)

/-- The document that a reader gets; the code panics on a text that is none. -/
def readDocument (read : Unmarshal) (text : String) : Go XmlConfiguration :=
  match read text with
  | some ps => .ok ⟨ps⟩
  | none => .error (.panic (.raised "xml: cannot read the document"))

/-- A document given as text, with properties merged in. -/
def append (read : Unmarshal) (originXml : String) (properties : List XmlNameValuePair) :
    Go String := do
  let xmlDom ← readDocument read originXml
  xmlDom.string properties

/-- A document given as text, with the entries of a map added at its end. -/
def appendXmlContent (read : Unmarshal) (current : String) (overrideProperties : GoMap String)
    (o : RangeOrder) : Go String := do
  let xmlDom ← readDocument read current
  return encode (xmlDom.properties ++ mapProperties overrideProperties o)

namespace Distinct

variable {s s' : Distinct} {l a b : List XmlNameValuePair}

/-- What one step can do. -/
theorem step_cases {v : XmlNameValuePair} (h : s.step v = .ok s') :
    (s.distinctKeys.lookup v.name = none ∧
      s' = ⟨s.idx + 1, s.distinctKeys.insert v.name s.idx, s.distinctProperties ++ [v]⟩) ∨
    ∃ i, s.distinctKeys.lookup v.name = some i ∧ i < s.distinctProperties.length ∧
      s' = ⟨s.idx + 1, s.distinctKeys, s.distinctProperties.set i v⟩ := by
  unfold step at h
  split at h
  · next hk => exact .inl ⟨hk, (Except.ok.inj h).symm⟩
  · next i hk =>
    split at h
    · next hi => exact .inr ⟨i, hk, hi, (Except.ok.inj h).symm⟩
    · cases h

/-- Merging two lists is merging one after the other. -/
theorem run_append (a b : List XmlNameValuePair) (s : Distinct) :
    run (a ++ b) s = run a s >>= run b := by
  induction a generalizing s with
  | nil => rfl
  | cons v a ih => simp only [List.cons_append, run, bind_assoc, funext ih]

/-- A name is unknown after the loop exactly when it was unknown before and did not occur. -/
theorem run_lookup_eq_none (h : run l s = .ok s') (n : String) :
    s'.distinctKeys.lookup n = none ↔ s.distinctKeys.lookup n = none ∧ n ∉ propertyNames l := by
  induction l generalizing s with
  | nil =>
    cases h
    simp
  | cons v l ih =>
    obtain ⟨s₁, hstep, hrun⟩ := Go.bind_eq_ok.mp h
    rw [ih hrun, propertyNames_cons, List.mem_cons, not_or, ← and_assoc]
    refine and_congr_left fun _ => ?_
    rcases step_cases hstep with ⟨hk, rfl⟩ | ⟨i, hk, -, rfl⟩
    · by_cases hn : n = v.name
      · simp [hn]
      · simp [hn, AList.lookup_insert_ne hn]
    · refine ⟨fun hnone => ⟨hnone, ?_⟩, And.left⟩
      rintro rfl
      rw [hk] at hnone
      cases hnone

/-- Properties with new and distinct names are all added, unchanged. -/
theorem run_fresh (hnew : ∀ n ∈ propertyNames l, s.distinctKeys.lookup n = none)
    (hl : (propertyNames l).Nodup) :
    ∃ s', run l s = .ok s' ∧ s'.distinctProperties = s.distinctProperties ++ l ∧
      s'.idx = s.idx + l.length := by
  induction l generalizing s with
  | nil => exact ⟨s, rfl, by simp⟩
  | cons v l ih =>
    rw [propertyNames_cons, List.nodup_cons] at hl
    rw [propertyNames_cons, List.forall_mem_cons] at hnew
    have hstep : s.step v =
        .ok ⟨s.idx + 1, s.distinctKeys.insert v.name s.idx, s.distinctProperties ++ [v]⟩ := by
      rw [step, hnew.1]
    obtain ⟨s', hrun, hps, hidx⟩ := ih
      (s := ⟨s.idx + 1, s.distinctKeys.insert v.name s.idx, s.distinctProperties ++ [v]⟩)
      (fun n hn => by
        rw [AList.lookup_insert_ne (ne_of_mem_of_not_mem hn hl.1)]
        exact hnew.2 n hn) hl.2
    refine ⟨s', ?_, ?_, ?_⟩
    · rw [run, hstep, Go.ok_bind, hrun]
    · simp [hps]
    · simp only [hidx, List.length_cons]
      omega

/-- A step leaves a leading part of the result as it is, if its name was not seen in it. -/
theorem step_keeps {v : XmlNameValuePair} {kept t : List XmlNameValuePair} (h : s.step v = .ok s')
    (hs : s.distinctProperties = kept ++ t) (hidx : kept.length ≤ s.idx)
    (hkey : ∀ i, s.distinctKeys.lookup v.name = some i → kept.length ≤ i) :
    (∃ t', s'.distinctProperties = kept ++ t' ∧ ∀ p ∈ t', p ∈ t ∨ p = v) ∧
      kept.length ≤ s'.idx ∧ ∀ n i, s'.distinctKeys.lookup n = some i →
        s.distinctKeys.lookup n = some i ∨ kept.length ≤ i := by
  rcases step_cases h with ⟨hk, rfl⟩ | ⟨i, hk, -, rfl⟩
  · -- A new name: its position is the current one, beyond the kept part.
    refine ⟨⟨t ++ [v], by simp [hs], fun p hp => ?_⟩, Nat.le_succ_of_le hidx, fun n i hi => ?_⟩
    · exact (List.mem_append.mp hp).imp_right List.mem_singleton.mp
    · by_cases hnv : n = v.name
      · subst hnv
        rw [AList.lookup_insert] at hi
        cases hi
        exact .inr hidx
      · rw [AList.lookup_insert_ne hnv] at hi
        exact .inl hi
  · -- A known name: the write is at its first position, which the kept part does not reach.
    have hi := hkey i hk
    refine ⟨⟨t.set (i - kept.length) v, ?_, fun p hp => List.mem_or_eq_of_mem_set hp⟩,
      Nat.le_succ_of_le hidx, fun n i hi => .inl hi⟩
    simp [hs, List.set_append, Nat.not_lt.mpr hi]

/-- A leading part of the result stays as it is when the names that follow were not seen in it. -/
theorem run_keeps (kept : List XmlNameValuePair) {t : List XmlNameValuePair} (h : run l s = .ok s')
    (hs : s.distinctProperties = kept ++ t) (hidx : kept.length ≤ s.idx)
    (hkeys : ∀ n ∈ propertyNames l, ∀ i, s.distinctKeys.lookup n = some i → kept.length ≤ i) :
    ∃ t', s'.distinctProperties = kept ++ t' ∧
      ∀ p ∈ t', p ∈ t ∨ p ∈ l := by
  induction l generalizing s t with
  | nil =>
    cases h
    exact ⟨t, hs, fun p hp => .inl hp⟩
  | cons v l ih =>
    obtain ⟨s₁, hstep, hrun⟩ := Go.bind_eq_ok.mp h
    rw [propertyNames_cons, List.forall_mem_cons] at hkeys
    obtain ⟨⟨t₁, hs₁, hmem₁⟩, hidx₁, hkeys₁⟩ := step_keeps hstep hs hidx hkeys.1
    obtain ⟨t', hout, hmem⟩ := ih hrun hs₁ hidx₁ fun n hn i hi =>
      (hkeys₁ n i hi).elim (hkeys.2 n hn i) id
    refine ⟨t', hout, fun p hp => ?_⟩
    rcases hmem p hp with hp | hp
    · rcases hmem₁ p hp with hold | rfl
      · exact .inl hold
      · exact .inr List.mem_cons_self
    · exact .inr (List.mem_cons_of_mem _ hp)

end Distinct

namespace XmlConfiguration

variable {c : XmlConfiguration} {ps last head middle out : List XmlNameValuePair}

/-- Properties whose names are new and distinct come to stand at the end of the merge. -/
theorem distinctProperties_append (hlast : (propertyNames last).Nodup)
    (hnew : ∀ n ∈ propertyNames last, n ∉ propertyNames (c.properties ++ ps)) :
    c.distinctProperties (ps ++ last) = (· ++ last) <$> c.distinctProperties ps := by
  rw [distinctProperties, ← List.append_assoc, Distinct.run_append, distinctProperties]
  cases hrun : Distinct.run (c.properties ++ ps) {} with
  | error e => rfl
  | ok s =>
    obtain ⟨s', hs', hps, -⟩ := Distinct.run_fresh (s := s)
      (fun n hn => (Distinct.run_lookup_eq_none hrun n).mpr ⟨rfl, hnew n hn⟩) hlast
    simp [hs', hps]

/-- The merge of properties with distinct names keeps all of them. -/
theorem distinctProperties_of_nodup (h : (propertyNames (c.properties ++ ps)).Nodup) :
    c.distinctProperties ps = .ok (c.properties ++ ps) := by
  obtain ⟨s', hs', hps, -⟩ := Distinct.run_fresh (s := {}) (fun _ _ => rfl) h
  simp [distinctProperties, hs', hps]

/-- A document that has properties is written with the merged ones. -/
theorem append_of_distinctProperties {read : Unmarshal} {text : String}
    {ps qs : List XmlNameValuePair} (h : read text = some ps) (hps : ps ≠ [])
    (hout : (⟨ps⟩ : XmlConfiguration).distinctProperties qs = .ok out) :
    append read text qs = .ok (encode out) := by
  rw [append, readDocument, h, Go.ok_bind, string, merged, if_pos hps, hout]
  rfl

/-- Properties whose names are all distinct are added to a document that has some. -/
theorem append_of_nodup {read : Unmarshal} {text : String} {ps qs : List XmlNameValuePair}
    (h : read text = some ps) (hps : ps ≠ []) (hnodup : (propertyNames (ps ++ qs)).Nodup) :
    append read text qs = .ok (encode (ps ++ qs)) :=
  append_of_distinctProperties h hps (distinctProperties_of_nodup (c := ⟨ps⟩) hnodup)

/-- The merge takes its properties from the collected list. -/
theorem mem_of_distinctProperties (h : c.distinctProperties ps = .ok out) :
    ∀ p ∈ out, p ∈ c.properties ++ ps := by
  obtain ⟨s, hs, hout⟩ := Go.bind_eq_ok.mp h
  obtain ⟨t, ht, hmem⟩ := Distinct.run_keeps [] (t := []) hs rfl (Nat.zero_le _)
    (fun _ _ _ _ => Nat.zero_le _)
  cases hout
  intro p hp
  rw [ht] at hp
  simpa using hmem p hp

/-- Leading properties with distinct names stay in front when their names do not come back. -/
theorem distinctProperties_keeps (hhead : (propertyNames (c.properties ++ head)).Nodup)
    (hmiddle : ∀ n ∈ propertyNames middle, n ∉ propertyNames (c.properties ++ head))
    (h : c.distinctProperties (head ++ middle) = .ok out) :
    ∃ kept, out = c.properties ++ head ++ kept ∧ ∀ p ∈ kept, p ∈ middle := by
  obtain ⟨s, hs, hps, hidx⟩ := Distinct.run_fresh (s := {}) (fun _ _ => rfl) hhead
  obtain ⟨s', hs', hout⟩ := Go.bind_eq_ok.mp h
  rw [← List.append_assoc, Distinct.run_append, hs, Go.ok_bind] at hs'
  obtain ⟨kept, hkept, hmem⟩ := Distinct.run_keeps _ (t := []) hs' (by simpa using hps)
    (by simp [hidx]) (fun n hn i hi => by
      rw [(Distinct.run_lookup_eq_none hs n).mpr ⟨rfl, hmiddle n hn⟩] at hi
      cases hi)
  exact ⟨kept, (Except.ok.inj hout).symm.trans hkept, fun p hp => by simpa using hmem p hp⟩

end XmlConfiguration

end HdfsOperator
