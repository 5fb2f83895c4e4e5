import HdfsOperator.Models.PropertiesFile

/-!
# Overriding a properties file

The override replaces the last property of each of its names and appends the others, in the
order of the loop. The text that is printed is meant to be read again. The scanner refuses some
of what the printer writes: values with an equals sign and lines that do not fit its buffer. It
also takes a carriage return at the end of a value for a part of the end of the line.
-/

namespace HdfsOperator

open LastWins Lines

section Override

variable {override : GoMap String} {ps : List NameValuePair} {o : RangeOrder} {k v : String}

/-- The index has the last line of every key. -/
theorem indexKeys_lookup (k : String) (ps : List NameValuePair) (i : Nat)
    (currentKeys : GoMap Nat) :
    (indexKeys ps i currentKeys).lookup k =
      ((lastIndex k ps).map (· + i)).or (currentKeys.lookup k) := by
  induction ps generalizing i currentKeys with
  | nil => rfl
  | cons p ps ih =>
    rw [indexKeys, ih, lastIndex, Option.map_or, Option.or_assoc, Option.map_map]
    congr 1
    · refine congrArg (Option.map · _) (funext fun j => ?_)
      show j + (i + 1) = j + 1 + i
      omega
    · by_cases hk : p.name = k
      · subst hk
        simp
      · rw [AList.lookup_insert_ne (Ne.symm hk), if_neg hk]
        rfl

/-- The loop finds the last property of a name. -/
theorem indexKeys_eq_lastIndex (k : String) (ps : List NameValuePair) :
    (indexKeys ps 0 ∅).lookup k = lastIndex k ps := by
  have hempty : AList.lookup k (∅ : GoMap Nat) = none := rfl
  rw [indexKeys_lookup, hempty, Option.or_none]
  exact Option.map_id'

/-- The properties that are appended. -/
def additions (ps : List NameValuePair) (l : List (String × String)) : List NameValuePair :=
  (l.filter fun e => e.1 ∉ names ps).map fun e => ⟨e.1, e.2⟩

theorem lookup_insert_eq_update (m : GoMap String) (k v : String) :
    (fun k' => (m.insert k v).lookup k') = Function.update (fun k' => m.lookup k') k (some v) := by
  funext k'
  by_cases hk : k' = k
  · subst hk
    rw [AList.lookup_insert, Function.update_self]
  · rw [AList.lookup_insert_ne hk, Function.update_of_ne hk]

/-- One entry is written to the last line of its key, or added at the end. -/
theorem overrideEntry_eq (ps new : List NameValuePair) (m : GoMap String) (e : String × String) :
    overrideEntry (indexKeys ps 0 ∅) (replaceLast (fun k => m.lookup k) ps ++ new) e =
      .ok (replaceLast (fun k => (m.insert e.1 e.2).lookup k) ps ++ (new ++ additions ps [e])) := by
  rw [overrideEntry, indexKeys_eq_lastIndex, lookup_insert_eq_update]
  cases hi : lastIndex e.1 ps with
  | none =>
    have hk := lastIndex_eq_none_iff.mp hi
    have hadd : additions ps [e] = [⟨e.1, e.2⟩] := by simp [additions, hk]
    rw [replaceLast_update_of_notMem hk, hadd, ← List.append_assoc]
  | some i =>
    have hk : e.1 ∈ names ps := by
      by_contra hk
      rw [lastIndex_eq_none_iff.mpr hk] at hi
      cases hi
    have hadd : additions ps [e] = [] := by simp [additions, hk]
    have hlt : i < (replaceLast (fun k => m.lookup k) ps).length := by
      rw [length_replaceLast]
      exact lastIndex_lt_length hi
    have hlt' : i < (replaceLast (fun k => m.lookup k) ps ++ new).length := by
      rw [List.length_append]
      omega
    simp only [if_pos hlt', modify_append_of_lt hlt, modify_replaceLast hi, hadd, List.append_nil]

/-- All entries are written one after the other; the induction is on the entries that are left. -/
theorem foldlM_overrideEntry (ps new : List NameValuePair) (m : GoMap String)
    (l : List (String × String)) :
    l.foldlM (overrideEntry (indexKeys ps 0 ∅)) (replaceLast (fun k => m.lookup k) ps ++ new) =
      .ok (replaceLast (fun k => (l.foldl (fun m e => m.insert e.1 e.2) m).lookup k) ps ++
        (new ++ additions ps l)) := by
  induction l generalizing m new with
  | nil => exact congrArg Except.ok (by simp [additions])
  | cons e l ih =>
    have hadd : additions ps (e :: l) = additions ps [e] ++ additions ps l := by
      rw [additions, additions, additions, ← List.map_append, ← List.filter_append]
      rfl
    rw [List.foldlM_cons, overrideEntry_eq, Go.ok_bind, ih, List.foldl_cons, hadd,
      List.append_assoc]

/-- The properties after the override. -/
def overridden (override : GoMap String) (ps : List NameValuePair) (o : RangeOrder) :
    List NameValuePair :=
  replaceLast (fun k => override.lookup k) ps ++ additions ps (override.range o)

/-- The override does not fail. -/
theorem overrideProperties_eq (override : GoMap String) (ps : List NameValuePair)
    (o : RangeOrder) : overrideProperties override ps o = .ok (overridden override ps o) := by
  unfold overrideProperties
  split
  · next hempty =>
    have hrange : override.range o = [] :=
      List.eq_nil_of_length_eq_zero ((override.length_range o).trans hempty)
    have hlookup : (fun k => override.lookup k) = fun _ => none := by
      obtain rfl : override = ∅ := AList.ext (List.eq_nil_of_length_eq_zero hempty)
      rfl
    rw [overridden, hrange, hlookup, replaceLast_none]
    exact congrArg Except.ok (List.append_nil ps).symm
  · have hloop := foldlM_overrideEntry ps [] ∅ (override.range o)
    have hstart : replaceLast (fun k => AList.lookup k (∅ : GoMap String)) ps = ps :=
      replaceLast_none ps
    have hlookup : (fun k => (GoMap.ofList (override.range o)).lookup k) =
        fun k => override.lookup k := funext (override.ofList_range_lookup o)
    rw [List.append_nil, hstart] at hloop
    rw [hloop, overridden, ← hlookup]
    rfl

/-- The entries that are added are those whose key the file does not have. -/
theorem mem_additions {p : NameValuePair} : p ∈ additions ps (override.range o) ↔
    override.lookup p.name = some p.value ∧ p.name ∉ names ps := by
  rw [additions, List.mem_map]
  constructor
  · rintro ⟨e, he, rfl⟩
    rw [List.mem_filter, decide_eq_true_iff] at he
    exact ⟨GoMap.mem_range.mp he.1, he.2⟩
  · rintro ⟨hlookup, hname⟩
    exact ⟨(p.name, p.value),
      List.mem_filter.mpr ⟨GoMap.mem_range.mpr hlookup, decide_eq_true hname⟩, rfl⟩

/-- The properties that are appended have the values of the override. -/
theorem effective_additions (hk : k ∉ names ps) :
    effective k (additions ps (override.range o)) = override.lookup k := by
  cases hlookup : override.lookup k with
  | none =>
    rw [effective_eq_none_iff]
    intro hmem
    obtain ⟨p, hp, rfl⟩ := List.mem_map.mp hmem
    rw [(mem_additions.mp hp).1] at hlookup
    cases hlookup
  | some v =>
    have hadded : (⟨k, v⟩ : NameValuePair) ∈ additions ps (override.range o) :=
      mem_additions.mpr ⟨hlookup, hk⟩
    obtain ⟨w, hw⟩ := exists_effective (List.mem_map_of_mem hadded)
    have hlast := (mem_additions.mp (mem_of_effective hw)).1
    rw [hlookup] at hlast
    exact hw.trans hlast.symm

/-- The override is what counts, and the properties before it where it has none. -/
theorem effective_overridden (override : GoMap String) (ps : List NameValuePair) (o : RangeOrder)
    (k : String) :
    effective k (overridden override ps o) = (override.lookup k).or (effective k ps) := by
  rw [overridden, effective_append]
  by_cases hk : k ∈ names ps
  · have hadded : effective k (additions ps (override.range o)) = none := by
      rw [effective_eq_none_iff]
      intro hmem
      obtain ⟨p, hp, rfl⟩ := List.mem_map.mp hmem
      exact (mem_additions.mp hp).2 hk
    rw [hadded, Option.none_or, effective_replaceLast _ hk]
  · have hreplaced : effective k (replaceLast (fun k => override.lookup k) ps) = none := by
      rwa [effective_eq_none_iff, names_replaceLast]
    rw [effective_additions hk, hreplaced, effective_eq_none_iff.mpr hk]

/-- An entry of the override is in force. -/
theorem effective_overridden_of_lookup (h : override.lookup k = some v) :
    effective k (overridden override ps o) = some v := by
  rw [effective_overridden, h, Option.some_or]

/-- Nothing is appended to properties that have all names of the override. -/
theorem overridden_eq_replaceLast (h : ∀ k v, override.lookup k = some v → k ∈ names ps)
    (o : RangeOrder) :
    overridden override ps o = replaceLast (fun k => override.lookup k) ps := by
  have hnone : additions ps (override.range o) = [] := by
    refine List.eq_nil_iff_forall_not_mem.mpr fun p hp => ?_
    obtain ⟨hlookup, hname⟩ := mem_additions.mp hp
    exact hname (h _ _ hlookup)
  rw [overridden, hnone, List.append_nil]

/-- Changing the values afterwards leaves nothing to override, if it leaves the values of the
override as they are. -/
theorem overridden_map_mapValue {t : String → String}
    (ht : ∀ k v, override.lookup k = some v → t v = v) (ps : List NameValuePair)
    (o o' : RangeOrder) :
    overridden override ((overridden override ps o).map (Entry.mapValue t)) o' =
      (overridden override ps o).map (Entry.mapValue t) := by
  have hnames (k v : String) (h : override.lookup k = some v) :
      k ∈ names ((overridden override ps o).map (Entry.mapValue t)) := by
    rw [names_map_mapValue]
    exact mem_names_of_effective (effective_overridden_of_lookup h)
  rw [overridden_eq_replaceLast hnames, replaceLast_map_mapValue ht,
    replaceLast_eq_self fun k v h _ => effective_overridden_of_lookup h]

/-- A second override changes nothing. -/
theorem overridden_overridden (override : GoMap String) (ps : List NameValuePair)
    (o o' : RangeOrder) :
    overridden override (overridden override ps o) o' = overridden override ps o := by
  have hid : (overridden override ps o).map (Entry.mapValue id) = overridden override ps o :=
    List.map_id _
  have hsecond := overridden_map_mapValue (t := id) (fun _ _ (_ : override.lookup _ = _) => rfl)
    ps o o'
  rwa [hid] at hsecond

end Override

/-- A property whose line starts with its name and ends with its value. -/
structure Writable (p : NameValuePair) : Prop where
  name_newline : '\n' ∉ p.name.toList
  name_separator : '=' ∉ p.name.toList
  name_comment : p.name.toList.head? ≠ some '#'
  value_newline : '\n' ∉ p.value.toList

/-- A property whose line the scanner accepts. -/
structure Readable (p : NameValuePair) : Prop where
  value_separator : '=' ∉ p.value.toList
  fits : (propertyLine p).utf8ByteSize < maxScanTokenSize

/-- A value as it is read at the end of a line. -/
def readValue (value : String) : String := .ofList (dropCR value.toList)

theorem propertyLine_toList (p : NameValuePair) :
    (propertyLine p).toList = p.name.toList ++ '=' :: p.value.toList := by
  simp [propertyLine]

theorem printProperties_toList (ps : List NameValuePair) :
    (printProperties ps).toList = unlines (ps.map fun p => (propertyLine p).toList) := by
  have hloop (text : String) :
      (ps.foldl (fun res v => res ++ (propertyLine v ++ "\n")) text).toList =
        text.toList ++ unlines (ps.map fun p => (propertyLine p).toList) := by
    induction ps generalizing text with
    | nil => exact (List.append_nil _).symm
    | cons p ps ih =>
      rw [List.foldl_cons, ih, List.map_cons, unlines_cons]
      simp
  exact hloop ""

section Scan

variable {p : NameValuePair} {ps qs acc : List NameValuePair}

/-- A line is skipped, or has one equals sign. -/
theorem scanLine_eq_ok {line : List Char} :
    scanLine line acc = .ok qs ↔
      (line.head? = some '#' ∨ line.length = 0) ∧ qs = acc ∨
      ¬ (line.head? = some '#' ∨ line.length = 0) ∧ ∃ name value, line = name ++ '=' :: value ∧
        '=' ∉ name ∧ '=' ∉ value ∧ qs = acc ++ [⟨.ofList name, .ofList value⟩] := by
  unfold scanLine
  by_cases hskip : line.head? = some '#' ∨ line.length = 0
  · rw [if_pos hskip, Except.ok.injEq]
    simp only [hskip, true_and, not_true_eq_false, false_and, or_false]
    exact eq_comm
  · rw [if_neg hskip]
    simp only [hskip, false_and, not_false_eq_true, true_and, false_or]
    constructor
    · intro h
      split at h
      · next name value hsplit =>
        obtain ⟨hline, hname, hvalue⟩ := splitOn_eq_pair_iff.mp hsplit
        exact ⟨name, value, hline, hname, hvalue, (Except.ok.inj h).symm⟩
      · cases h
    · rintro ⟨name, value, hline, hname, hvalue, rfl⟩
      rw [splitOn_eq_pair_iff.mpr ⟨hline, hname, hvalue⟩]

/-- A line of a property is neither empty nor a comment. -/
theorem Writable.not_skipped (hw : Writable p) (value : List Char) :
    ¬ ((p.name.toList ++ '=' :: value).head? = some '#' ∨
      (p.name.toList ++ '=' :: value).length = 0) := by
  have hcomment := hw.name_comment
  rw [List.head?_append, List.length_append, List.length_cons]
  rintro (hhead | hlength)
  · cases hname : p.name.toList.head? with
    | none =>
      rw [hname, Option.none_or, List.head?_cons, Option.some.injEq] at hhead
      revert hhead
      decide
    | some ch =>
      rw [hname] at hhead hcomment
      exact hcomment hhead
  · omega

/-- A line that was printed is read back exactly when its value has no separator. -/
theorem scanLine_propertyLine (hw : Writable p) :
    scanLine (dropCR (propertyLine p).toList) acc = .ok qs ↔
      '=' ∉ p.value.toList ∧ qs = acc ++ [p.mapValue readValue] := by
  have hskip := hw.not_skipped (dropCR p.value.toList)
  rw [propertyLine_toList, dropCR_append_cons (by decide), scanLine_eq_ok]
  simp only [hskip, false_and, not_false_eq_true, true_and, false_or]
  constructor
  · rintro ⟨name, value, hline, hname, hvalue, rfl⟩
    -- The line has one equals sign, so there is none in the value.
    have hcount := congrArg (List.count '=') hline
    rw [List.count_append, List.count_append, List.count_cons_self, List.count_cons_self,
      List.count_eq_zero.mpr hname, List.count_eq_zero.mpr hvalue,
      List.count_eq_zero.mpr hw.name_separator, Nat.zero_add, Nat.zero_add,
      Nat.add_right_cancel_iff, List.count_eq_zero] at hcount
    obtain ⟨rfl, rfl⟩ := append_cons_inj_of_notMem hcount hvalue hline
    refine ⟨mt (mem_dropCR_iff (by decide)).mpr hcount, ?_⟩
    rw [String.ofList_toList]
    rfl
  · rintro ⟨hvalue, rfl⟩
    refine ⟨p.name.toList, dropCR p.value.toList, rfl, hw.name_separator,
      mt (mem_dropCR_iff (by decide)).mp hvalue, ?_⟩
    rw [String.ofList_toList]
    rfl

/-- The lines that were printed are read back exactly when all values can be read. -/
theorem scanLines_propertyLines (hw : ∀ p ∈ ps, Writable p) :
    scanLines (ps.map fun p => (propertyLine p).toList) acc = .ok qs ↔
      (∀ p ∈ ps, Readable p) ∧ qs = acc ++ ps.map (Entry.mapValue readValue) := by
  induction ps generalizing acc with
  | nil => simp [scanLines, eq_comm]
  | cons p ps ih =>
    have hhead := hw p List.mem_cons_self
    have hrest (acc : List NameValuePair) :=
      @ih acc fun q hq => hw q (List.mem_cons_of_mem _ hq)
    rw [List.map_cons, scanLines, String.ofList_toList, List.forall_mem_cons, List.map_cons]
    by_cases hfits : (propertyLine p).utf8ByteSize < maxScanTokenSize
    · rw [if_pos hfits, Go.bind_eq_ok]
      simp only [scanLine_propertyLine hhead, hrest]
      constructor
      · rintro ⟨_, ⟨hvalue, rfl⟩, hall, rfl⟩
        exact ⟨⟨⟨hvalue, hfits⟩, hall⟩, by rw [List.append_assoc]; rfl⟩
      · rintro ⟨⟨hp, hall⟩, rfl⟩
        exact ⟨_, ⟨hp.value_separator, rfl⟩, hall, by rw [List.append_assoc]; rfl⟩
    · rw [if_neg hfits]
      constructor
      · intro h
        cases h
      · rintro ⟨⟨hp, -⟩, -⟩
        exact absurd hp.fits hfits

theorem newline_notMem_propertyLine (hw : Writable p) : '\n' ∉ (propertyLine p).toList := by
  rw [propertyLine_toList, List.mem_append, List.mem_cons]
  rintro (h | h | h)
  · exact hw.name_newline h
  · cases h
  · exact hw.value_newline h

/-- What was printed has one line for each property. -/
theorem lines_printProperties (hw : ∀ p ∈ ps, Writable p) :
    lines (printProperties ps).toList = ps.map fun p => (propertyLine p).toList := by
  rw [printProperties_toList]
  refine lines_unlines fun l hl => ?_
  obtain ⟨p, hp, rfl⟩ := List.mem_map.mp hl
  exact newline_notMem_propertyLine (hw p hp)

/-- A printed text is accepted exactly when all its properties are readable, and is then read
back but for the carriage returns at the end of the values. -/
theorem scanProperties_printProperties (hw : ∀ p ∈ ps, Writable p) :
    scanProperties (printProperties ps) [] = .ok qs ↔
      (∀ p ∈ ps, Readable p) ∧ qs = ps.map (Entry.mapValue readValue) := by
  rw [scanProperties, lines_printProperties hw]
  exact scanLines_propertyLines hw

/-- A part of a line is not longer than the line. -/
theorem utf8ByteSize_ofList_le {l l' : List Char} (h : l <+: l') :
    (String.ofList l).utf8ByteSize ≤ (String.ofList l').utf8ByteSize := by
  obtain ⟨t, rfl⟩ := h
  rw [String.ofList_append, String.utf8ByteSize_append]
  exact Nat.le_add_right _ _

/-- The property of a line that was read can be written and read again. -/
theorem writable_of_line {l name value : List Char} (hl : '\n' ∉ l)
    (hfits : (String.ofList l).utf8ByteSize < maxScanTokenSize)
    (hline : dropCR l = name ++ '=' :: value)
    (hskip : ¬ ((dropCR l).head? = some '#' ∨ (dropCR l).length = 0))
    (hname : '=' ∉ name) (hvalue : '=' ∉ value) :
    Writable ⟨.ofList name, .ofList value⟩ ∧ Readable ⟨.ofList name, .ofList value⟩ := by
  have hsub : ∀ ch ∈ name ++ '=' :: value, ch ∈ l :=
    fun ch hch => (dropCR_isInitial l).subset (hline ▸ hch)
  have hsize : propertyLine ⟨.ofList name, .ofList value⟩ = String.ofList (dropCR l) := by
    apply String.toList_inj.mp
    rw [propertyLine_toList, hline]
    simp only [String.toList_ofList]
  refine ⟨⟨?_, ?_, ?_, ?_⟩, ?_, ?_⟩
  · rw [String.toList_ofList]
    exact fun h => hl (hsub _ (List.mem_append_left _ h))
  · rwa [String.toList_ofList]
  · rw [String.toList_ofList]
    intro h
    refine hskip (.inl ?_)
    rw [hline, List.head?_append, h, Option.some_or]
  · rw [String.toList_ofList]
    exact fun h => hl (hsub _ (List.mem_append_right _ (List.mem_cons_of_mem _ h)))
  · rwa [String.toList_ofList]
  · rw [hsize]
    exact Nat.lt_of_le_of_lt (utf8ByteSize_ofList_le (dropCR_isInitial l)) hfits

/-- What was read can be written and read. -/
theorem scanLines_writable {ls : List (List Char)} (hls : ∀ l ∈ ls, '\n' ∉ l)
    (hacc : ∀ p ∈ acc, Writable p ∧ Readable p) (h : scanLines ls acc = .ok ps) :
    ∀ p ∈ ps, Writable p ∧ Readable p := by
  induction ls generalizing acc with
  | nil =>
    rw [← Except.ok.inj h]
    exact hacc
  | cons l ls ih =>
    rw [scanLines] at h
    split at h
    · next hfits =>
      obtain ⟨acc', hline, hrest⟩ := Go.bind_eq_ok.mp h
      refine ih (fun l' hl' => hls l' (List.mem_cons_of_mem _ hl')) ?_ hrest
      rcases scanLine_eq_ok.mp hline with ⟨-, rfl⟩ | ⟨hskip, name, value, hl, hname, hvalue, rfl⟩
      · exact hacc
      · intro p hp
        rcases List.mem_append.mp hp with hp | hp
        · exact hacc p hp
        · rw [List.mem_singleton.mp hp]
          exact writable_of_line (hls l List.mem_cons_self) hfits hl hskip hname hvalue
    · cases h

/-- What the scanner accepts can be written and read again. -/
theorem writable_of_scanProperties {current : String} (h : scanProperties current [] = .ok ps) :
    ∀ p ∈ ps, Writable p ∧ Readable p :=
  scanLines_writable (fun _ => newline_notMem_of_mem_lines)
    (fun _ hp => absurd hp List.not_mem_nil) h

end Scan

/-- An override whose names and values stand on one line each. -/
structure OnLines (override : GoMap String) : Prop where
  name : ∀ k v, override.lookup k = some v →
    k ≠ "" ∧ '=' ∉ k.toList ∧ '\n' ∉ k.toList ∧ k.toList.head? ≠ some '#'
  value : ∀ k v, override.lookup k = some v → '\n' ∉ v.toList

/-- The override of a text succeeds, its result is accepted again and stands for the properties of
the text with those of the override replaced or added, and the same override leaves the result
as it is. -/
def OverrideRoundTrips (current : String) (override : GoMap String) (o : RangeOrder) : Prop :=
  ∃ ps text qs, scanProperties current [] = .ok ps ∧
    overridePropertiesFileContent current override o = .ok text ∧
    scanProperties text [] = .ok qs ∧
    (∀ k, effective k qs = (override.lookup k).or (effective k ps)) ∧
    ∀ o', overridePropertiesFileContent text override o' = .ok text

/-- The values of the override can be read again, and no property that stays has a value that
ends in a carriage return. -/
structure ReadAgain (override : GoMap String) (ps : List NameValuePair) : Prop where
  values : ∀ k v, override.lookup k = some v → '=' ∉ v.toList ∧ v.toList.getLast? ≠ some '\r' ∧
    (k ++ "=" ++ v).utf8ByteSize < maxScanTokenSize
  kept : ∀ before p after, ps = before ++ p :: after → p.value.toList.getLast? = some '\r' →
    p.name ∈ override ∧ p.name ∉ names after

section RoundTrip

variable {current : String} {override : GoMap String} {ps : List NameValuePair} {o : RangeOrder}
  {p : NameValuePair}

/-- The override of a file that can be read. -/
theorem overridePropertiesFileContent_eq (h : scanProperties current [] = .ok ps)
    (override : GoMap String) (o : RangeOrder) :
    overridePropertiesFileContent current override o =
      .ok (printProperties (overridden override ps o)) := by
  rw [overridePropertiesFileContent, h, Go.ok_bind, overrideProperties_eq]
  rfl

theorem mem_overridden_of_lookup {k v : String} (h : override.lookup k = some v) :
    ⟨k, v⟩ ∈ overridden override ps o :=
  mem_of_effective (effective_overridden_of_lookup h)

/-- A property after the override is one of the override, or one from before that is not
replaced. -/
theorem mem_overridden : p ∈ overridden override ps o ↔
    override.lookup p.name = some p.value ∨ ∃ before after, ps = before ++ p :: after ∧
      (p.name ∈ names after ∨ override.lookup p.name = none) := by
  constructor
  · intro hp
    rcases List.mem_append.mp hp with hp | hp
    · obtain ⟨before, p', after, rfl, rfl⟩ := mem_replaceLast.mp hp
      by_cases hname : p'.name ∈ names after
      · rw [replaced_of_mem hname]
        exact .inr ⟨before, after, rfl, .inl hname⟩
      · rw [replaced_of_notMem hname]
        cases override.lookup p'.name with
        | none => exact .inr ⟨before, after, rfl, .inr rfl⟩
        | some v => exact .inl rfl
    · exact .inl (mem_additions.mp hp).1
  · rintro (hlookup | ⟨before, after, hps, hkept⟩)
    · exact mem_overridden_of_lookup hlookup
    · refine List.mem_append_left _ (mem_replaceLast.mpr ⟨before, p, after, hps, ?_⟩)
      by_cases hname : p.name ∈ names after
      · exact (replaced_of_mem hname).symm
      · rw [replaced_of_notMem hname, hkept.resolve_left hname]
        rfl

/-- What is written has one line for each property. -/
theorem writable_overridden (hps : ∀ p ∈ ps, Writable p ∧ Readable p) (h : OnLines override) :
    ∀ p ∈ overridden override ps o, Writable p := by
  intro p hp
  rcases mem_overridden.mp hp with hlookup | ⟨before, after, rfl, -⟩
  · obtain ⟨-, hseparator, hnewline, hcomment⟩ := h.name _ _ hlookup
    exact ⟨hnewline, hseparator, hcomment, h.value _ _ hlookup⟩
  · exact (hps p (by simp)).1

/-- The condition on the input is one on the properties after the override. -/
theorem readAgain_iff (hps : ∀ p ∈ ps, Writable p ∧ Readable p) (o : RangeOrder) :
    ReadAgain override ps ↔ ∀ p ∈ overridden override ps o,
      Readable p ∧ p.value.toList.getLast? ≠ some '\r' := by
  constructor
  · intro h p hp
    rcases mem_overridden.mp hp with hlookup | ⟨before, after, rfl, hkept⟩
    · obtain ⟨hseparator, hlast, hfits⟩ := h.values _ _ hlookup
      exact ⟨⟨hseparator, hfits⟩, hlast⟩
    · refine ⟨(hps p (by simp)).2, fun hlast => ?_⟩
      obtain ⟨hmem, hname⟩ := h.kept before p after rfl hlast
      have hnone := hkept.resolve_left hname
      exact absurd hmem (AList.lookup_eq_none.mp hnone)
  · intro h
    refine ⟨fun k v hlookup => ?_, fun before p after hps hlast => ?_⟩
    · obtain ⟨hreadable, hlast⟩ := h _ (mem_overridden_of_lookup hlookup)
      exact ⟨hreadable.value_separator, hlast, hreadable.fits⟩
    · by_contra hstays
      refine (h p (mem_overridden.mpr (.inr ⟨before, after, hps, ?_⟩))).2 hlast
      by_cases hname : p.name ∈ names after
      · exact .inl hname
      · exact .inr (AList.lookup_eq_none.mpr fun hmem => hstays ⟨hmem, hname⟩)

/-- A value is read back as it was, unless it ends with a carriage return. -/
theorem readValue_eq_self_iff {v : String} : readValue v = v ↔ v.toList.getLast? ≠ some '\r' := by
  rw [← dropCR_eq_self_iff, readValue, ← String.toList_inj, String.toList_ofList]

theorem Writable.mapValue_readValue (h : Writable p) : Writable (p.mapValue readValue) := by
  refine ⟨h.name_newline, h.name_separator, h.name_comment, fun hmem => h.value_newline ?_⟩
  rw [Entry.mapValue, readValue, String.toList_ofList] at hmem
  exact (dropCR_isInitial _).subset hmem

/-- Values that are printed as they are read leave the text as it is only if they are read as they
are. -/
theorem readValue_eq_self_of_print (hw : ∀ p ∈ ps, Writable p)
    (h : printProperties (ps.map (Entry.mapValue readValue)) = printProperties ps) :
    ∀ p ∈ ps, readValue p.value = p.value := by
  have hread : ∀ p ∈ ps.map (Entry.mapValue readValue), Writable p := by
    intro p hp
    obtain ⟨q, hq, rfl⟩ := List.mem_map.mp hp
    exact (hw q hq).mapValue_readValue
  have hsame := congrArg (fun text => lines text.toList) h
  simp only [lines_printProperties hread, lines_printProperties hw, List.map_map] at hsame
  intro p hp
  have hline := List.map_inj_left.mp hsame p hp
  simp only [Function.comp_apply, propertyLine_toList] at hline
  exact String.toList_inj.mp (List.cons.inj (List.append_cancel_left hline)).2

/-- If all values are read back, so is the override. -/
theorem overrideRoundTrips_of_readAgain (hscan : scanProperties current [] = .ok ps)
    (hlines : OnLines override) (h : ReadAgain override ps) (o : RangeOrder) :
    OverrideRoundTrips current override o := by
  have hps := writable_of_scanProperties hscan
  have hread := (readAgain_iff hps o).mp h
  have hsame : (overridden override ps o).map (Entry.mapValue readValue) =
      overridden override ps o := by
    refine (List.map_congr_left fun p hp => ?_).trans (List.map_id _)
    exact congrArg (Entry.mk p.name) (readValue_eq_self_iff.mpr (hread p hp).2)
  have hagain : scanProperties (printProperties (overridden override ps o)) [] =
      .ok (overridden override ps o) :=
    (scanProperties_printProperties (writable_overridden hps hlines)).mpr
      ⟨fun p hp => (hread p hp).1, hsame.symm⟩
  refine ⟨ps, _, _, hscan, overridePropertiesFileContent_eq hscan override o, hagain,
    effective_overridden override ps o, fun o' => ?_⟩
  rw [overridePropertiesFileContent_eq hagain, overridden_overridden]

/-- If the override is read back, so are all values. -/
theorem readAgain_of_overrideRoundTrips (hscan : scanProperties current [] = .ok ps)
    (hlines : OnLines override) (h : OverrideRoundTrips current override o) :
    ReadAgain override ps := by
  have hps := writable_of_scanProperties hscan
  have hwritable : ∀ p ∈ overridden override ps o, Writable p := writable_overridden hps hlines
  obtain ⟨ps', text, qs, hscan', htext, hqs, heffective, hagain⟩ := h
  rw [overridePropertiesFileContent_eq hscan, Except.ok.injEq] at htext
  subst htext
  obtain ⟨hreadable, rfl⟩ := (scanProperties_printProperties hwritable).mp hqs
  -- The values of the override are read as they are.
  have hvalues (k v : String) (hlookup : override.lookup k = some v) : readValue v = v := by
    have heff := heffective k
    rw [effective_map_mapValue, effective_overridden_of_lookup hlookup, hlookup, Option.some_or,
      Option.map_some, Option.some.injEq] at heff
    exact heff
  -- So the second override prints the values as they are read, which has to be the same text.
  have hprint := hagain o
  rw [overridePropertiesFileContent_eq hqs, overridden_map_mapValue hvalues,
    Except.ok.injEq] at hprint
  refine (readAgain_iff hps o).mpr fun p hp => ⟨hreadable p hp, readValue_eq_self_iff.mp ?_⟩
  exact readValue_eq_self_of_print hwritable hprint p hp

/-- An override round-trips exactly when its values can be read again and no property that stays
has a value that ends in a carriage return. -/
theorem overrideRoundTrips_iff (hscan : scanProperties current [] = .ok ps)
    (hlines : OnLines override) (o : RangeOrder) :
    OverrideRoundTrips current override o ↔ ReadAgain override ps :=
  ⟨readAgain_of_overrideRoundTrips hscan hlines,
    fun h => overrideRoundTrips_of_readAgain hscan hlines h o⟩

end RoundTrip

-- Each reading takes one carriage return from the end of a line.
example : overridePropertiesFileContent "a=1\r\r\n" ∅ .stored = .ok "a=1\r\n" := rfl
example : overridePropertiesFileContent "a=1\r\n" ∅ .stored = .ok "a=1\n" := rfl

theorem onLines_ofList {l : List (String × String)}
    (h : ∀ e ∈ l, (e.1 ≠ "" ∧ '=' ∉ e.1.toList ∧ '\n' ∉ e.1.toList ∧ e.1.toList.head? ≠ some '#') ∧
      '\n' ∉ e.2.toList) : OnLines (.ofList l) :=
  ⟨fun _ _ hlookup => (h _ (GoMap.mem_of_lookup_ofList hlookup)).1,
    fun _ _ hlookup => (h _ (GoMap.mem_of_lookup_ofList hlookup)).2⟩

/-- A text with a comment and a name that occurs twice, and an override that replaces one name and
adds another. -/
theorem overrideRoundTrips_repeatedName :
    OverrideRoundTrips "# comment\na=1\nb=2\r\na=3" (.ofList [("a", "9"), ("c", "7")])
      .reversed := by
  have hscan : scanProperties "# comment\na=1\nb=2\r\na=3" [] =
      .ok [⟨"a", "1"⟩, ⟨"b", "2"⟩, ⟨"a", "3"⟩] := rfl
  refine (overrideRoundTrips_iff hscan (onLines_ofList (by decide)) .reversed).mpr ⟨?_, ?_⟩
  · intro k v hlookup
    have hvalues : ∀ e ∈ [("a", "9"), ("c", "7")], '=' ∉ e.2.toList ∧
        e.2.toList.getLast? ≠ some '\r' ∧ (e.1 ++ "=" ++ e.2).utf8ByteSize < maxScanTokenSize := by
      decide
    exact hvalues _ (GoMap.mem_of_lookup_ofList hlookup)
  · intro before p after hps hlast
    have hnone : ∀ q ∈ ([⟨"a", "1"⟩, ⟨"b", "2"⟩, ⟨"a", "3"⟩] : List NameValuePair),
        q.value.toList.getLast? ≠ some '\r' := by decide
    exact absurd hlast (hnone p (hps ▸ by simp))

/-- A value with an equals sign is printed, and refused when it is read again. -/
theorem overrideRoundTrips_equalsSign :
    OnLines (.ofList [("a", "b=c")]) ∧ scanProperties "" [] = .ok [] ∧
    overridePropertiesFileContent "" (.ofList [("a", "b=c")]) .stored = .ok "a=b=c\n" ∧
    scanProperties "a=b=c\n" [] = .error (.error "invalid property line: a=b=c") ∧
    ¬ OverrideRoundTrips "" (.ofList [("a", "b=c")]) .stored := by
  have htext : overridePropertiesFileContent "" (.ofList [("a", "b=c")]) .stored =
      .ok "a=b=c\n" := rfl
  have hrefused : scanProperties "a=b=c\n" [] =
      .error (.error "invalid property line: a=b=c") := rfl
  refine ⟨onLines_ofList (by decide), rfl, htext, hrefused, ?_⟩
  rintro ⟨ps, text, qs, -, htext', hqs, -, -⟩
  rw [htext, Except.ok.injEq] at htext'
  rw [← htext', hrefused] at hqs
  cases hqs

end HdfsOperator
