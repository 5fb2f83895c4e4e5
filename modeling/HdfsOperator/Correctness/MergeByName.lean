import HdfsOperator.Core.FirstSeen
import HdfsOperator.Models.SiteGenerator

/-!
# What the merge by name keeps

A merge by name has one property for each name, in the order of the first occurrences and with
the last values. The loop of `distinctProperties` does this exactly when no name comes back that
was first seen after a repetition: the position it remembers for such a name is one of the
collected list, and the result is shorter than that. Otherwise the write goes to another
property or out of range, and in each case some name is lost.
-/

namespace HdfsOperator

open FirstSeen Xml

/-- `out` has the distinct names of `ps` in the order of their first occurrence, each with the
value of its last occurrence. -/
structure MergedByName (ps out : List XmlNameValuePair) : Prop where
  names : propertyNames out = (propertyNames ps).eraseDups
  values : ∀ p ∈ out, effectiveValue ps p.name = some p.value

/-- A name that comes back was first seen after pairwise distinct names. -/
def RepeatsAfterDistinct (ps : List XmlNameValuePair) : Prop :=
  ∀ pre v post, ps = pre ++ v :: post → v.name ∉ propertyNames pre →
    v.name ∈ propertyNames post → (propertyNames pre).Nodup

theorem effectiveValue_concat_self (ps : List XmlNameValuePair) (v : XmlNameValuePair) :
    effectiveValue (ps ++ [v]) v.name = some v.value :=
  effectiveValue_of_last ps v (by simp)

theorem effectiveValue_concat_of_ne (ps : List XmlNameValuePair) {v : XmlNameValuePair}
    {n : String} (h : v.name ≠ n) : effectiveValue (ps ++ [v]) n = effectiveValue ps n := by
  rw [effectiveValue_append, effectiveValue_eq_none (by simpa using h), Option.none_or]

namespace MergedByName

variable {ps out : List XmlNameValuePair}

/-- No name is left twice. -/
theorem names_nodup (h : MergedByName ps out) : (propertyNames out).Nodup :=
  h.names ▸ nodup_eraseDups _

/-- No name is lost. -/
theorem mem_names (h : MergedByName ps out) {n : String} :
    n ∈ propertyNames out ↔ n ∈ propertyNames ps := by
  rw [h.names, List.mem_eraseDups]

/-- A merge by name has the values of what was merged. -/
theorem effectiveValue_eq (h : MergedByName ps out) (n : String) :
    effectiveValue out n = effectiveValue ps n := by
  cases hn : effectiveValue out n with
  | none =>
    have hnot := mem_propertyNames_iff_effectiveValue.not.mp
      (h.mem_names.not.mp (mem_propertyNames_iff_effectiveValue.not.mpr (not_not.mpr hn)))
    exact (not_not.mp hnot).symm
  | some v =>
    obtain ⟨p, hp, rfl, rfl⟩ := mem_of_effectiveValue hn
    exact (h.values p hp).symm

/-- There is one merge by name only. -/
theorem unique {out' : List XmlNameValuePair} (h : MergedByName ps out)
    (h' : MergedByName ps out') : out = out' := by
  apply List.ext_getElem?
  intro i
  have hname := congrArg (·[i]?) (h.names.trans h'.names.symm)
  simp only [propertyNames, List.getElem?_map] at hname
  cases hi : out[i]? with
  | none =>
    rw [hi, Option.map_none, eq_comm, Option.map_eq_none_iff] at hname
    rw [hname]
  | some p =>
    rw [hi, Option.map_some, eq_comm, Option.map_eq_some_iff] at hname
    obtain ⟨q, hq, hname⟩ := hname
    have hp := h.values p (List.mem_of_getElem? hi)
    have hq' := h'.values q (List.mem_of_getElem? hq)
    rw [hname, hp, Option.some.injEq] at hq'
    obtain ⟨_, _⟩ := p
    obtain ⟨_, _⟩ := q
    simp only at hname hq'
    rw [hq, hname, hq']

/-- A new name comes at the end. -/
theorem concat_new {v : XmlNameValuePair} (h : MergedByName ps out)
    (hv : v.name ∉ propertyNames ps) : MergedByName (ps ++ [v]) (out ++ [v]) := by
  refine ⟨?_, fun q hq => ?_⟩
  · simp [h.names, eraseDups_concat_of_notMem hv]
  · rcases List.mem_append.mp hq with hq | hq
    · have hne : v.name ≠ q.name := by
        intro hne
        exact hv (hne ▸ h.mem_names.mp (mem_propertyNames.mpr ⟨q, hq, rfl⟩))
      rw [effectiveValue_concat_of_ne ps hne, h.values q hq]
    · rw [List.mem_singleton.mp hq]
      exact effectiveValue_concat_self ps v

/-- A known name gets its new value where it stands, and the names stay as they are. -/
theorem concat_known {v : XmlNameValuePair} (h : MergedByName ps out)
    (hv : v.name ∈ propertyNames ps) :
    MergedByName (ps ++ [v]) (out.set ((propertyNames out).idxOf v.name) v) := by
  have hv' : v.name ∈ propertyNames out := h.mem_names.mpr hv
  have hnames : propertyNames (out.set ((propertyNames out).idxOf v.name) v) =
      propertyNames out := by
    rw [propertyNames_set]
    exact set_idxOf hv'
  refine ⟨?_, fun q hq => ?_⟩
  · rw [hnames, h.names, propertyNames_append]
    exact (eraseDups_concat_of_mem hv).symm
  · by_cases hne : v.name = q.name
    · have hlt : (propertyNames out).idxOf v.name < out.length := by
        rw [← length_propertyNames]
        exact List.idxOf_lt_length_of_mem hv'
      have hnodup : (propertyNames (out.set ((propertyNames out).idxOf v.name) v)).Nodup := by
        rw [hnames]
        exact h.names_nodup
      obtain rfl : v = q := List.inj_on_of_nodup_map hnodup (List.mem_set hlt v) hq hne
      exact effectiveValue_concat_self ps v
    · rcases List.mem_or_eq_of_mem_set hq with hold | rfl
      · rw [effectiveValue_concat_of_ne ps hne, h.values q hold]
      · exact absurd rfl hne

end MergedByName

/-- Properties that come after distinct names and bring no new ones are repetitions only. -/
theorem repeatsAfterDistinct_of_subset {ps qs : List XmlNameValuePair}
    (hps : (propertyNames ps).Nodup) (hqs : ∀ n ∈ propertyNames qs, n ∈ propertyNames ps) :
    RepeatsAfterDistinct (ps ++ qs) := by
  intro pre v post heq hpre _
  rcases List.append_eq_append_iff.mp heq with ⟨front, rfl, hback⟩ | ⟨back, rfl, -⟩
  · have hv : v.name ∈ propertyNames ps := hqs v.name (by simp [hback])
    rw [propertyNames_append, List.mem_append, not_or] at hpre
    exact absurd hv hpre.1
  · rw [propertyNames_append] at hps
    exact (List.nodup_append.mp hps).1

namespace Distinct

variable {s s' : Distinct} {p l : List XmlNameValuePair} {v : XmlNameValuePair}

/-- The loop has gone over `p`: it knows the names of `p`, each with its first position. -/
structure Seen (p : List XmlNameValuePair) (s : Distinct) : Prop where
  idx : s.idx = p.length
  keys : ∀ n, s.distinctKeys.lookup n =
    if n ∈ propertyNames p then some ((propertyNames p).idxOf n) else none

theorem seen_nil : Seen [] {} := ⟨rfl, fun _ => rfl⟩

/-- A name without an index was not seen. -/
theorem Seen.notMem_of_lookup (h : Seen p s) {n : String}
    (hn : s.distinctKeys.lookup n = none) : n ∉ propertyNames p := by
  intro hp
  rw [h.keys, if_pos hp] at hn
  cases hn

/-- The index of a name is where it was seen first. -/
theorem Seen.mem_of_lookup (h : Seen p s) {n : String} {i : Nat}
    (hn : s.distinctKeys.lookup n = some i) :
    n ∈ propertyNames p ∧ i = (propertyNames p).idxOf n := by
  rw [h.keys] at hn
  by_cases hp : n ∈ propertyNames p
  · rw [if_pos hp] at hn
    exact ⟨hp, (Option.some.inj hn).symm⟩
  · rw [if_neg hp] at hn
    cases hn

/-- A step either adds a new name at the end or writes at the first position of a known one. -/
theorem Seen.step_cases (h : Seen p s) (hstep : s.step v = .ok s') :
    (v.name ∉ propertyNames p ∧ s'.distinctProperties = s.distinctProperties ++ [v]) ∨
      (v.name ∈ propertyNames p ∧
        (propertyNames p).idxOf v.name < s.distinctProperties.length ∧
        s'.distinctProperties = s.distinctProperties.set ((propertyNames p).idxOf v.name) v) := by
  rcases Distinct.step_cases hstep with ⟨hk, rfl⟩ | ⟨i, hk, hi, rfl⟩
  · exact .inl ⟨h.notMem_of_lookup hk, rfl⟩
  · obtain ⟨hv, rfl⟩ := h.mem_of_lookup hk
    exact .inr ⟨hv, hi, rfl⟩

/-- One more property is seen. -/
theorem Seen.step (h : Seen p s) (hstep : s.step v = .ok s') : Seen (p ++ [v]) s' := by
  rcases Distinct.step_cases hstep with ⟨hk, rfl⟩ | ⟨i, hk, -, rfl⟩
  · have hv := h.notMem_of_lookup hk
    refine ⟨by simp [h.idx], fun n => ?_⟩
    by_cases hn : n = v.name
    · subst hn
      simp [List.idxOf_append_of_notMem hv, h.idx]
    · rw [AList.lookup_insert_ne hn, h.keys]
      by_cases hp : n ∈ propertyNames p
      · simp [hp, List.idxOf_append_of_mem hp]
      · simp [hp, hn]
  · have hv := (h.mem_of_lookup hk).1
    refine ⟨by simp [h.idx], fun n => ?_⟩
    rw [h.keys]
    by_cases hp : n ∈ propertyNames p
    · simp [hp, List.idxOf_append_of_mem hp]
    · have hn : n ≠ v.name := fun hn => hp (hn ▸ hv)
      simp [hp, hn]

/-- A step fails only on a known name whose first position is beyond the result. -/
theorem Seen.exists_step (h : Seen p s)
    (hv : v.name ∈ propertyNames p →
      (propertyNames p).idxOf v.name < s.distinctProperties.length) :
    ∃ s', s.step v = .ok s' := by
  have hkey := h.keys v.name
  unfold Distinct.step
  by_cases hp : v.name ∈ propertyNames p
  · rw [hkey, if_pos hp]
    exact ⟨_, if_pos (hv hp)⟩
  · rw [hkey, if_neg hp]
    exact ⟨_, rfl⟩

/-- The result so far is the merge of `p`. -/
structure Merged (p : List XmlNameValuePair) (s : Distinct) : Prop extends Seen p s where
  merged : MergedByName p s.distinctProperties

/-- In a list whose names come back as they should, a known name has its place in the merge at its
first position. -/
theorem idxOf_eraseDups_of_repeats {post : List XmlNameValuePair}
    (h : RepeatsAfterDistinct (p ++ v :: post)) (hv : v.name ∈ propertyNames p) :
    (propertyNames p).eraseDups.idxOf v.name = (propertyNames p).idxOf v.name := by
  obtain ⟨front, w, back, rfl, hw, hname⟩ :
      ∃ front w back, p = front ++ w :: back ∧ v.name ∉ propertyNames front ∧
        w.name = v.name := by
    obtain ⟨a, b, hp, ha, -⟩ := exists_first hv
    obtain ⟨front, rest, rfl, hfront, hrest⟩ := List.map_eq_append_iff.mp hp
    obtain ⟨w, back, rfl, hw, -⟩ := List.map_eq_cons_iff.mp hrest
    exact ⟨front, w, back, rfl, by rwa [propertyNames, hfront], hw⟩
  have hnodup : (propertyNames front).Nodup :=
    h front w (back ++ v :: post) (by simp) (hname ▸ hw) (by simp [hname])
  rw [propertyNames_append, propertyNames_cons, hname, idxOf_eraseDups hw,
    List.idxOf_append_of_notMem hw, List.idxOf_cons_self, Nat.add_zero,
    eraseDups_of_nodup hnodup]

/-- A merge can go on, since a repetition is written where its name stands. -/
theorem Merged.step {post : List XmlNameValuePair} (h : Merged p s)
    (hrep : RepeatsAfterDistinct (p ++ v :: post)) :
    ∃ s', s.step v = .ok s' ∧ Merged (p ++ [v]) s' := by
  have hplace (hv : v.name ∈ propertyNames p) :
      (propertyNames s.distinctProperties).idxOf v.name = (propertyNames p).idxOf v.name := by
    rw [h.merged.names, idxOf_eraseDups_of_repeats hrep hv]
  have hlt (hv : v.name ∈ propertyNames p) :
      (propertyNames p).idxOf v.name < s.distinctProperties.length := by
    have hmem := List.idxOf_lt_length_of_mem (h.merged.mem_names.mpr hv)
    rwa [hplace hv, length_propertyNames] at hmem
  obtain ⟨s', hs'⟩ := h.toSeen.exists_step hlt
  refine ⟨s', hs', h.toSeen.step hs', ?_⟩
  rcases h.toSeen.step_cases hs' with ⟨hv, hps⟩ | ⟨hv, -, hps⟩
  · rw [hps]
    exact h.merged.concat_new hv
  · rw [hps, ← hplace hv]
    exact h.merged.concat_known hv

/-- A merge can go on to the end. -/
theorem Merged.run (h : Merged p s) (hrep : RepeatsAfterDistinct (p ++ l)) :
    ∃ s', run l s = .ok s' ∧ Merged (p ++ l) s' := by
  induction l generalizing p s with
  | nil => exact ⟨s, rfl, by rwa [List.append_nil]⟩
  | cons v l ih =>
    obtain ⟨s₁, hstep, h₁⟩ := h.step hrep
    rw [List.append_cons] at hrep ⊢
    obtain ⟨s', hrun, h'⟩ := ih h₁ hrep
    exact ⟨s', by rw [Distinct.run, hstep, Go.ok_bind, hrun], h'⟩

/-- The names of the result are written at the positions of the collected names. -/
structure Placed (p : List XmlNameValuePair) (s : Distinct) : Prop extends Seen p s where
  written : WrittenAt (propertyNames p) (propertyNames s.distinctProperties)

/-- One more property is placed. -/
theorem Placed.step (h : Placed p s) (hstep : s.step v = .ok s') : Placed (p ++ [v]) s' := by
  refine ⟨h.toSeen.step hstep, ?_⟩
  rw [propertyNames_append, propertyNames_cons, propertyNames_nil]
  rcases h.toSeen.step_cases hstep with ⟨hv, hps⟩ | ⟨hv, hlt, hps⟩
  · have hnew := h.written.new hv
    rwa [hps, propertyNames_append]
  · have hagain := h.written.again hv (by rwa [length_propertyNames])
    rwa [hps, propertyNames_set]

/-- All properties are placed. -/
theorem Placed.run (h : Placed p s) (hrun : run l s = .ok s') : Placed (p ++ l) s' := by
  induction l generalizing p s with
  | nil =>
    cases hrun
    rwa [List.append_nil]
  | cons v l ih =>
    obtain ⟨s₁, hstep, hrun⟩ := Go.bind_eq_ok.mp hrun
    rw [List.append_cons]
    exact ih (h.step hstep) hrun

end Distinct

section Copies

variable {base last : List XmlNameValuePair} {copies : List (List XmlNameValuePair)}

/-- Copies have no names but those of the last one. -/
theorem mem_propertyNames_last (hcopies : ∀ copy ∈ copies, propertyNames copy = propertyNames last)
    {n : String} (hn : n ∈ propertyNames (copies.flatten ++ last)) : n ∈ propertyNames last := by
  rw [propertyNames_append, List.mem_append] at hn
  rcases hn with hn | hn
  · obtain ⟨p, hp, rfl⟩ := mem_propertyNames.mp hn
    obtain ⟨copy, hcopy, hp⟩ := List.mem_flatten.mp hp
    rw [← hcopies copy hcopy]
    exact mem_propertyNames.mpr ⟨p, hp, rfl⟩
  · exact hn

/-- The first copy has all the names, and what follows it brings no new ones. -/
theorem exists_first_copy
    (hcopies : ∀ copy ∈ copies, propertyNames copy = propertyNames last) :
    ∃ first more, copies.flatten ++ last = first ++ more ∧
      propertyNames first = propertyNames last ∧
        ∀ n ∈ propertyNames more, n ∈ propertyNames last := by
  cases copies with
  | nil => exact ⟨last, [], by simp, rfl, by simp⟩
  | cons first copies =>
    refine ⟨first, copies.flatten ++ last, by simp, hcopies first List.mem_cons_self, ?_⟩
    intro n hn
    exact mem_propertyNames_last (fun copy hcopy => hcopies copy (List.mem_cons_of_mem _ hcopy)) hn

/-- After a list with other names, the first copy takes its place. -/
theorem exists_first_copy_after (base : List XmlNameValuePair)
    (hcopies : ∀ copy ∈ copies, propertyNames copy = propertyNames last) :
    ∃ ps more, base ++ (copies.flatten ++ last) = ps ++ more ∧
      propertyNames ps = propertyNames (base ++ last) ∧
        ∀ n ∈ propertyNames more, n ∈ propertyNames ps := by
  obtain ⟨first, more, hsplit, hfirst, hmore⟩ := exists_first_copy hcopies
  have hnames : propertyNames (base ++ first) = propertyNames (base ++ last) := by
    rw [propertyNames_append, hfirst, propertyNames_append]
  refine ⟨base ++ first, more, by rw [hsplit, List.append_assoc], hnames, fun n hn => ?_⟩
  rw [hnames, propertyNames_append]
  exact List.mem_append_right _ (hmore n hn)

/-- Copies of one list of names repeat only names that the first copy has added. -/
theorem repeatsAfterDistinct_copies (hnodup : (propertyNames (base ++ last)).Nodup)
    (hcopies : ∀ copy ∈ copies, propertyNames copy = propertyNames last) :
    RepeatsAfterDistinct (base ++ (copies.flatten ++ last)) := by
  obtain ⟨ps, more, hall, hnames, hmore⟩ := exists_first_copy_after base hcopies
  rw [hall]
  exact repeatsAfterDistinct_of_subset (hnames ▸ hnodup) hmore

/-- The merge by name of copies is the last one. -/
theorem mergedByName_copies (hnodup : (propertyNames (base ++ last)).Nodup)
    (hcopies : ∀ copy ∈ copies, propertyNames copy = propertyNames last) :
    MergedByName (base ++ (copies.flatten ++ last)) (base ++ last) := by
  refine ⟨?_, fun p hp => ?_⟩
  · obtain ⟨ps, more, hall, hnames, hmore⟩ := exists_first_copy_after base hcopies
    rw [hall, propertyNames_append ps, eraseDups_append_of_subset hmore, hnames,
      eraseDups_of_nodup hnodup]
  · have hvalue := effectiveValue_of_mem hnodup hp
    rw [effectiveValue_append] at hvalue
    rw [effectiveValue_append, effectiveValue_append]
    by_cases hn : p.name ∈ propertyNames copies.flatten
    · -- A name of the copies has its value from the last one.
      have hlast : p.name ∈ propertyNames last := by
        apply mem_propertyNames_last hcopies
        rw [propertyNames_append]
        exact List.mem_append_left _ hn
      obtain ⟨v, hv⟩ :=
        Option.ne_none_iff_exists'.mp (mem_propertyNames_iff_effectiveValue.mp hlast)
      rw [hv] at hvalue ⊢
      exact hvalue
    · rw [mem_propertyNames_iff_effectiveValue, not_not] at hn
      rw [hn, Option.or_none, hvalue]

end Copies

namespace XmlConfiguration

variable {c : XmlConfiguration} {ps out : List XmlNameValuePair}

/-- Where names come back after distinct names, the merge succeeds and is the merge by name. -/
theorem distinctProperties_of_repeats (h : RepeatsAfterDistinct (c.properties ++ ps)) :
    ∃ out, c.distinctProperties ps = .ok out ∧ MergedByName (c.properties ++ ps) out := by
  have hnil : Distinct.Merged [] {} := ⟨Distinct.seen_nil, rfl, by simp⟩
  obtain ⟨s, hs, hmerged⟩ := hnil.run (l := c.properties ++ ps) h
  exact ⟨s.distinctProperties, by rw [distinctProperties, hs]; rfl, hmerged.merged⟩

/-- A merge that loses no name has met no other list. -/
theorem repeats_of_distinctProperties (h : c.distinctProperties ps = .ok out)
    (hkept : ∀ n ∈ propertyNames (c.properties ++ ps), n ∈ propertyNames out) :
    RepeatsAfterDistinct (c.properties ++ ps) := by
  obtain ⟨s, hs, hout⟩ := Go.bind_eq_ok.mp h
  cases hout
  have hnil : Distinct.Placed [] {} := ⟨Distinct.seen_nil, .nil⟩
  have hwritten := (hnil.run hs).written
  rw [List.nil_append] at hwritten
  intro pre v post heq hpre hpost
  rw [heq, propertyNames_append, propertyNames_cons] at hwritten hkept
  exact hwritten.nodup_of_repeat hkept hpre hpost

/-- Copies of properties with the same distinct names leave the last copy. -/
theorem distinctProperties_copies {base last : List XmlNameValuePair}
    {copies : List (List XmlNameValuePair)}
    (hall : c.properties ++ ps = base ++ (copies.flatten ++ last))
    (hnodup : (propertyNames (base ++ last)).Nodup)
    (hcopies : ∀ copy ∈ copies, propertyNames copy = propertyNames last) :
    c.distinctProperties ps = .ok (base ++ last) := by
  have hrepeats : RepeatsAfterDistinct (c.properties ++ ps) := by
    rw [hall]
    exact repeatsAfterDistinct_copies hnodup hcopies
  obtain ⟨out, hout, hmerged⟩ := distinctProperties_of_repeats hrepeats
  rw [hall] at hmerged
  rw [hout, hmerged.unique (mergedByName_copies hnodup hcopies)]

/-- The merge is the merge by name exactly when a name that comes back was first seen after
pairwise distinct names. -/
theorem distinctProperties_mergedByName_iff (c : XmlConfiguration)
    (properties : List XmlNameValuePair) :
    (∃ out, c.distinctProperties properties = .ok out ∧
      MergedByName (c.properties ++ properties) out) ↔
    RepeatsAfterDistinct (c.properties ++ properties) := by
  constructor
  · rintro ⟨out, hout, hmerged⟩
    exact repeats_of_distinctProperties hout fun n hn => hmerged.mem_names.mpr hn
  · exact distinctProperties_of_repeats

/-- After one repetition the next name that comes back is written beyond the result. -/
theorem distinctProperties_out_of_range :
    ¬ ∃ out, (⟨[⟨"a", "1"⟩]⟩ : XmlConfiguration).distinctProperties
        [⟨"a", "2"⟩, ⟨"b", "1"⟩, ⟨"b", "2"⟩] = .ok out ∧
      MergedByName [⟨"a", "1"⟩, ⟨"a", "2"⟩, ⟨"b", "1"⟩, ⟨"b", "2"⟩] out := by
  have hpanic : (⟨[⟨"a", "1"⟩]⟩ : XmlConfiguration).distinctProperties
      [⟨"a", "2"⟩, ⟨"b", "1"⟩, ⟨"b", "2"⟩] = .error (.panic .indexOutOfRange) := rfl
  rintro ⟨out, hout, -⟩
  rw [hpanic] at hout
  cases hout

end XmlConfiguration

/-- What is assumed of a reader: it reads back what is written, and what it reads is text that XML
can hold. -/
structure Unmarshal.Lawful (read : Unmarshal) : Prop where
  encode : ∀ ps, (∀ p ∈ ps, XmlPair p) → read (encode ps) = some ps
  xmlPair : ∀ text ps, read text = some ps → ∀ p ∈ ps, XmlPair p

/-- The reader of the model is one of them. -/
theorem unmarshal_lawful : Unmarshal.Lawful unmarshal where
  encode := fun ps hps => by rw [unmarshal_encode, map_replacePair hps]
  xmlPair := fun _ _ => xmlPair_of_unmarshal

/-- The text is a document in which the values of the map override the properties. -/
def ReadsOverridden (read : Unmarshal) (ps : List XmlNameValuePair) (overrides : GoMap String)
    (text : String) : Prop :=
  ∃ qs, read text = some qs ∧
    ∀ n, effectiveValue qs n = (overrides.lookup n).or (effectiveValue ps n)

/-- Merging the entries of a map into a document and adding them at its end both succeed, and
both texts have the values of the document with those of the map overriding. -/
structure ExtensionsAgree (read : Unmarshal) (text : String) (ps : List XmlNameValuePair)
    (overrides : GoMap String) (o o' : RangeOrder) : Prop where
  merged : ∃ out, append read text (mapProperties overrides o) = .ok out ∧
    ReadsOverridden read ps overrides out
  appended : ∃ out, appendXmlContent read text overrides o' = .ok out ∧
    ReadsOverridden read ps overrides out

/-- The document has a property or there is nothing to add, and a name that comes back in the
document or in the map was first seen after pairwise distinct names. -/
structure Extensible (ps : List XmlNameValuePair) (overrides : GoMap String) : Prop where
  taken : ps ≠ [] ∨ overrides = ∅
  repeats : ∀ pre v post, ps = pre ++ v :: post → v.name ∉ propertyNames pre →
    v.name ∈ propertyNames post ∨ v.name ∈ overrides → (propertyNames pre).Nodup

section Extensions

variable {read : Unmarshal} {text : String} {ps qs : List XmlNameValuePair} {m : GoMap String}
  {o o' : RangeOrder}

theorem mem_propertyNames_mapProperties {n : String} :
    n ∈ propertyNames (mapProperties m o) ↔ n ∈ m := by
  rw [propertyNames_mapProperties, GoMap.range_keys, (o.perm _).mem_iff, AList.mem_keys]

/-- The keys of a map do not come back, so only the names of the document count. -/
theorem repeatsAfterDistinct_append_iff :
    RepeatsAfterDistinct (ps ++ mapProperties m o) ↔
      ∀ pre v post, ps = pre ++ v :: post → v.name ∉ propertyNames pre →
        v.name ∈ propertyNames post ∨ v.name ∈ m → (propertyNames pre).Nodup := by
  constructor
  · rintro h pre v post rfl hpre hpost
    refine h pre v (post ++ mapProperties m o) (by simp) hpre ?_
    rw [propertyNames_append, List.mem_append, mem_propertyNames_mapProperties]
    exact hpost
  · intro h pre v post heq hpre hpost
    -- A name that is first seen among the entries of the map does not come back.
    have hmap (front : List XmlNameValuePair) : mapProperties m o ≠ front ++ v :: post := by
      intro hm
      have hnodup : (propertyNames (mapProperties m o)).Nodup := by
        rw [propertyNames_mapProperties]
        exact GoMap.range_keys_nodup m o
      rw [hm, propertyNames_append, propertyNames_cons, List.nodup_append,
        List.nodup_cons] at hnodup
      exact hnodup.2.1.1 hpost
    rcases List.append_eq_append_iff.mp heq with ⟨front, rfl, hm⟩ | ⟨back, rfl, hback⟩
    · exact absurd hm (hmap front)
    · cases back with
      | nil => exact absurd hback.symm (hmap [])
      | cons w back =>
        rw [List.cons_append, List.cons.injEq] at hback
        obtain ⟨rfl, rfl⟩ := hback
        refine h pre v back rfl hpre ?_
        rwa [propertyNames_append, List.mem_append, mem_propertyNames_mapProperties] at hpost

/-- A document with properties that XML can hold is read back. -/
theorem readsOverridden_encode (hread : read.Lawful) (hqs : ∀ p ∈ qs, XmlPair p) :
    ReadsOverridden read ps m (encode qs) ↔
      ∀ n, effectiveValue qs n = (m.lookup n).or (effectiveValue ps n) := by
  simp [ReadsOverridden, hread.encode qs hqs]

/-- The value of a name that a map may override. -/
theorem effectiveValue_extended (ps : List XmlNameValuePair) (m : GoMap String) (o : RangeOrder)
    (n : String) : effectiveValue (ps ++ mapProperties m o) n =
      (m.lookup n).or (effectiveValue ps n) := by
  rw [effectiveValue_append, effectiveValue_mapProperties]

variable (hread : read.Lawful) (hdoc : read text = some ps)
  (hm : ∀ n v, m.lookup n = some v → XmlText n ∧ XmlText v)

include hread hdoc hm

/-- The properties of a document and those of a map can be written. -/
theorem xmlPair_extended (o : RangeOrder) : ∀ p ∈ ps ++ mapProperties m o, XmlPair p := by
  intro p hp
  rcases List.mem_append.mp hp with hp | hp
  · exact hread.xmlPair text ps hdoc p hp
  · exact hm p.name p.value (mem_mapProperties.mp hp)

/-- Adding at the end always gives the values of the map. -/
theorem appendXmlContent_reads (o : RangeOrder) :
    ∃ out, appendXmlContent read text m o = .ok out ∧ ReadsOverridden read ps m out := by
  refine ⟨encode (ps ++ mapProperties m o), ?_, ?_⟩
  · rw [appendXmlContent, readDocument, hdoc]
    rfl
  · exact (readsOverridden_encode hread (xmlPair_extended hread hdoc hm o)).mpr
      (effectiveValue_extended ps m o)

/-- An empty document takes no properties, so nothing may be asked of it. -/
theorem append_reads_iff_of_empty (hps : ps = []) (o : RangeOrder) :
    (∃ out, append read text (mapProperties m o) = .ok out ∧ ReadsOverridden read ps m out) ↔
      m = ∅ := by
  subst hps
  have hempty : append read text (mapProperties m o) = .ok (encode []) := by
    rw [append, readDocument, hdoc]
    rfl
  constructor
  · rintro ⟨out, hout, hreads⟩
    rw [hempty] at hout
    cases hout
    refine GoMap.eq_empty_of_lookup fun n => ?_
    have hn := (readsOverridden_encode hread (by simp)).mp hreads n
    rw [effectiveValue_eq_none (by simp), Option.or_none] at hn
    exact hn.symm
  · rintro rfl
    exact ⟨_, hempty, (readsOverridden_encode hread (by simp)).mpr fun n => by simp⟩

/-- A document with properties loses no name in the merge exactly when names come back after
distinct names. -/
theorem append_reads_iff_of_ne_nil (hps : ps ≠ []) (o : RangeOrder) :
    (∃ out, append read text (mapProperties m o) = .ok out ∧ ReadsOverridden read ps m out) ↔
      RepeatsAfterDistinct (ps ++ mapProperties m o) := by
  have hxml := xmlPair_extended hread hdoc hm o
  have happend : append read text (mapProperties m o) = do
      let ps ← (⟨ps⟩ : XmlConfiguration).distinctProperties (mapProperties m o)
      return encode ps := by
    rw [append, readDocument, hdoc, Go.ok_bind, XmlConfiguration.string, XmlConfiguration.merged,
      if_pos hps, bind_assoc]
    rfl
  rw [happend]
  constructor
  · rintro ⟨out, hout, hreads⟩
    obtain ⟨kept, hkept, hout⟩ := Go.bind_eq_ok.mp hout
    cases hout
    have hmem := XmlConfiguration.mem_of_distinctProperties hkept
    have hvalues := (readsOverridden_encode hread fun p hp => hxml p (hmem p hp)).mp hreads
    refine XmlConfiguration.repeats_of_distinctProperties hkept fun n hn => ?_
    rw [mem_propertyNames_iff_effectiveValue] at hn ⊢
    rwa [hvalues, ← effectiveValue_extended ps m o]
  · intro hrep
    obtain ⟨kept, hkept, hmerged⟩ :=
      XmlConfiguration.distinctProperties_of_repeats (c := ⟨ps⟩) hrep
    have hmem := XmlConfiguration.mem_of_distinctProperties hkept
    refine ⟨encode kept, by rw [hkept]; rfl, ?_⟩
    refine (readsOverridden_encode hread fun p hp => hxml p (hmem p hp)).mpr fun n => ?_
    rw [hmerged.effectiveValue_eq, effectiveValue_extended]

end Extensions

/-- Merging the entries of a map into a document and adding them at its end agree exactly for
documents that can be extended, whatever reader reads back what is written. -/
theorem extensionsAgree_iff {read : Unmarshal} (hread : read.Lawful) {text : String}
    {ps : List XmlNameValuePair} (hdoc : read text = some ps) {m : GoMap String}
    (hm : ∀ n v, m.lookup n = some v → XmlText n ∧ XmlText v) (o o' : RangeOrder) :
    ExtensionsAgree read text ps m o o' ↔ Extensible ps m := by
  have hmerged : ExtensionsAgree read text ps m o o' ↔
      ∃ out, append read text (mapProperties m o) = .ok out ∧ ReadsOverridden read ps m out :=
    ⟨fun h => h.merged, fun h => ⟨h, appendXmlContent_reads hread hdoc hm o'⟩⟩
  rw [hmerged]
  by_cases hps : ps = []
  · rw [append_reads_iff_of_empty hread hdoc hm hps o]
    constructor
    · intro hempty
      exact ⟨.inr hempty, by simp [hps]⟩
    · intro h
      exact h.taken.resolve_left (not_not.mpr hps)
  · rw [append_reads_iff_of_ne_nil hread hdoc hm hps o, repeatsAfterDistinct_append_iff]
    exact ⟨fun h => ⟨.inl hps, h⟩, fun h => h.repeats⟩

/-- One override. -/
def replicationOverride : GoMap String := .ofList [("dfs.replication", "2")]

theorem xmlText_replicationOverride {n v : String} (h : replicationOverride.lookup n = some v) :
    XmlText n ∧ XmlText v := by
  have hmem := GoMap.mem_of_lookup_ofList h
  rw [List.mem_singleton] at hmem
  cases hmem
  decide

/-- The document of the example holds one property. -/
theorem unmarshal_replicationDocument :
    unmarshal (templateDocument [⟨"dfs.replication", "3"⟩]) = some [⟨"dfs.replication", "3"⟩] := by
  rw [← String.append_empty (s := templateDocument _)]
  exact unmarshal_templateDocument (by decide) ""

/-- A document with one property takes an override of it in both ways. -/
theorem extensionsAgree_replication :
    ExtensionsAgree unmarshal (templateDocument [⟨"dfs.replication", "3"⟩])
      [⟨"dfs.replication", "3"⟩] replicationOverride .stored .reversed := by
  refine (extensionsAgree_iff unmarshal_lawful unmarshal_replicationDocument
    (fun _ _ => xmlText_replicationOverride) _ _).mpr ⟨.inl (by simp), ?_⟩
  intro pre v post hps _ _
  obtain ⟨rfl, -⟩ | ⟨_, h⟩ := List.cons_eq_append_iff.mp hps
  · exact List.nodup_nil
  · simp at h

/-- The document without properties that the operator writes loses an override. -/
theorem append_emptyXmlConfig_drops_override :
    unmarshal emptyXmlConfig = some [] ∧
      ¬ ExtensionsAgree unmarshal emptyXmlConfig [] replicationOverride .stored .stored := by
  have hdoc : unmarshal emptyXmlConfig = some [] := by
    rw [← String.append_empty (s := emptyXmlConfig)]
    exact unmarshal_templateDocument (by simp) ""
  refine ⟨hdoc, fun h => ?_⟩
  have hempty := (append_reads_iff_of_empty unmarshal_lawful hdoc
    (fun _ _ => xmlText_replicationOverride) rfl .stored).mp h.merged
  have hlookup : replicationOverride.lookup "dfs.replication" = some "2" := by decide
  rw [hempty] at hlookup
  cases hlookup

end HdfsOperator
