import Mathlib.Algebra.GroupWithZero.Nat
import Mathlib.Algebra.Order.BigOperators.Group.List
import Mathlib.Algebra.Order.Group.Nat
import Mathlib.Data.List.Perm.Subperm

/-!
# Names built from text and decimal ordinals

Numbered names end in a dash and a decimal ordinal. The ordinal has no dash of its
own, so the last dash of a numbered name separates its two parts and both can be
read back, whatever dashes and digits the first part holds.
-/

namespace HdfsOperator

/-- The last occurrence of a separator splits a list in one way only. -/
theorem append_cons_inj_of_notMem {α : Type*} {x : α} {a b c d : List α}
    (hc : x ∉ c) (hd : x ∉ d) (h : a ++ x :: c = b ++ x :: d) : a = b ∧ c = d := by
  rcases List.append_eq_append_iff.mp h with ⟨e, rfl, he⟩ | ⟨e, rfl, he⟩
  · cases e with
    | nil => simpa using he
    | cons y e =>
      rw [List.cons_append, List.cons.injEq] at he
      exact absurd (by simp [he.2]) hc
  · cases e with
    | nil => simpa using he.symm
    | cons y e =>
      rw [List.cons_append, List.cons.injEq] at he
      exact absurd (by simp [he.2]) hd

/-- Only digits occur in a decimal rendering. -/
theorem isDigit_of_mem_decimal {i : Nat} {c : Char} (h : c ∈ (toString i).toList) :
    c.isDigit = true := by
  rw [Nat.toString_eq_repr, Nat.toList_repr] at h
  exact Nat.isDigit_of_mem_toDigits (by decide) (by decide) h

/-- The name of member `i` of a numbered family. -/
def ordinalName (base : String) (i : Nat) : String := base ++ "-" ++ toString i

theorem ordinalName_toList (base : String) (i : Nat) :
    (ordinalName base i).toList = base.toList ++ '-' :: (toString i).toList := by
  simp [ordinalName]

/-- A numbered name determines its base and its ordinal. -/
theorem ordinalName_inj {a b : String} {i j : Nat} (h : ordinalName a i = ordinalName b j) :
    a = b ∧ i = j := by
  have hdash (k : Nat) : '-' ∉ (toString k).toList := by
    intro hk
    have hdigit := isDigit_of_mem_decimal hk
    revert hdigit
    decide
  have hl := congrArg String.toList h
  rw [ordinalName_toList, ordinalName_toList] at hl
  obtain ⟨hab, hij⟩ := append_cons_inj_of_notMem (hdash i) (hdash j) hl
  refine ⟨String.toList_inj.mp hab, ?_⟩
  rw [Nat.toString_eq_repr, Nat.toString_eq_repr, Nat.toList_repr, Nat.toList_repr] at hij
  simpa using congrArg (fun ds => Nat.ofDigitChars 10 ds 0) hij

/-- The members of one family have distinct names. -/
theorem ordinalName_injective (base : String) : Function.Injective (ordinalName base) :=
  fun _ _ h => (ordinalName_inj h).2

/-- Texts that start differently are different. -/
theorem append_ne_append_of_incomparable {p q : List Char} (h : ¬ p <+: q) (h' : ¬ q <+: p)
    (a b : List Char) : p ++ a ≠ q ++ b := by
  intro he
  rcases List.append_eq_append_iff.mp he with ⟨e, rfl, _⟩ | ⟨e, rfl, _⟩
  · exact h (List.prefix_append p e)
  · exact h' (List.prefix_append q e)

/-- A text does not occur among texts that it starts differently from. -/
theorem append_notMem {p : String} {l : List String} (h : ∀ n ∈ l, ¬ p.toList <+: n.toList)
    (s : String) : p ++ s ∉ l := by
  intro hm
  refine h _ hm ?_
  rw [String.toList_append]
  exact List.prefix_append _ _

/-- Texts that start differently are different. -/
theorem append_ne_append {p q : String} (h : ¬ p.toList <+: q.toList) (h' : ¬ q.toList <+: p.toList)
    (s t : String) : p ++ s ≠ q ++ t := by
  intro he
  have hl := congrArg String.toList he
  rw [String.toList_append, String.toList_append] at hl
  exact append_ne_append_of_incomparable h h' _ _ hl

/-- Lists of texts without the separator are determined by their joined text. -/
theorem intercalate_inj {sep : String} {ch : Char} (hsep : sep.toList = [ch]) {a b : List String}
    (ha : ∀ s ∈ a, ch ∉ s.toList) (hb : ∀ s ∈ b, ch ∉ s.toList) (ha' : a ≠ []) (hb' : b ≠ [])
    (h : sep.intercalate a = sep.intercalate b) : a = b := by
  have hl := congrArg String.toList h
  rw [String.toList_intercalate, String.toList_intercalate, hsep] at hl
  have hsplit := congrArg (List.splitOn ch) hl
  rw [List.splitOn_intercalate ch (by simpa using ha) (by simpa using ha'),
    List.splitOn_intercalate ch (by simpa using hb) (by simpa using hb')] at hsplit
  exact List.map_injective_iff.mpr (fun _ _ he => String.toList_inj.mp he) hsplit

/-- A character of a joined text comes from the separator or from one of the texts. -/
theorem mem_intercalate {sep : String} {l : List String} {ch : Char}
    (h : ch ∈ (sep.intercalate l).toList) : ch ∈ sep.toList ∨ ∃ s ∈ l, ch ∈ s.toList := by
  rw [String.toList_intercalate] at h
  induction l with
  | nil => simp at h
  | cons s l ih =>
    cases l with
    | nil => exact .inr ⟨s, List.mem_singleton_self s, by simpa using h⟩
    | cons t l =>
      rw [List.map_cons, List.map_cons, List.intercalate_cons_cons, List.mem_append,
        List.mem_append] at h
      rcases h with (h | h) | h
      · exact .inr ⟨s, List.mem_cons_self, h⟩
      · exact .inl h
      · exact (ih h).imp_right fun ⟨u, hu, hc⟩ => ⟨u, List.mem_cons_of_mem _ hu, hc⟩

/-- The characters of every text occur in the joined text. -/
theorem mem_intercalate_of_mem (sep : String) {l : List String} {s : String} (hs : s ∈ l)
    {ch : Char} (h : ch ∈ s.toList) : ch ∈ (sep.intercalate l).toList := by
  rw [String.toList_intercalate]
  induction l with
  | nil => cases hs
  | cons t l ih =>
    cases l with
    | nil => simpa [List.mem_singleton.mp hs] using h
    | cons u l =>
      rw [List.map_cons, List.map_cons, List.intercalate_cons_cons, List.mem_append,
        List.mem_append]
      rcases List.mem_cons.mp hs with rfl | hs
      · exact .inl (.inl h)
      · exact .inr (ih hs)

/-- The length of a joined text. -/
theorem length_intercalate {sep : String} (hsep : sep.length = 1) (l : List String) :
    (sep.intercalate l).length = (l.map String.length).sum + (l.length - 1) := by
  rw [← String.length_toList, String.toList_intercalate]
  induction l with
  | nil => rfl
  | cons s l ih =>
    cases l with
    | nil => simp [String.length_toList]
    | cons t l =>
      rw [List.map_cons, List.map_cons, List.intercalate_cons_cons, List.length_append,
        List.length_append, ← List.map_cons, ih, String.length_toList, String.length_toList, hsep]
      simp only [List.map_cons, List.sum_cons, List.length_cons]
      omega

/-- More texts join to a longer text. -/
theorem length_intercalate_le {sep : String} (hsep : sep.length = 1) {l l' : List String}
    (hl : l.Nodup) (hsub : l ⊆ l') :
    (sep.intercalate l).length ≤ (sep.intercalate l').length := by
  obtain ⟨m, hperm, hsublist⟩ := List.subperm_of_subset hl hsub
  have hsum : (m.map String.length).sum ≤ (l'.map String.length).sum :=
    (hsublist.map String.length).sum_le_sum fun _ _ => Nat.zero_le _
  rw [(hperm.map String.length).sum_nat] at hsum
  have hlength := hsublist.length_le
  rw [hperm.length_eq] at hlength
  rw [length_intercalate hsep, length_intercalate hsep]
  omega

/-- A join of distinct texts that is as long as the join of more texts has all of them. -/
theorem subset_of_length_intercalate_le {sep : String} (hsep : sep.length = 1)
    {l l' : List String} (hl : l.Nodup) (hsub : l ⊆ l') (hempty : ∀ s ∈ l', s ≠ "")
    (h : (sep.intercalate l').length ≤ (sep.intercalate l).length) : l' ⊆ l := by
  intro s hs
  by_contra hnot
  have hle := length_intercalate_le hsep (List.nodup_cons.mpr ⟨hnot, hl⟩)
    (List.cons_subset.mpr ⟨hs, hsub⟩)
  have hpos : s.length ≠ 0 := fun hzero => hempty s hs (String.length_eq_zero_iff.mp hzero)
  simp only [length_intercalate hsep, List.map_cons, List.sum_cons, List.length_cons] at h hle
  omega

/-- The characters of a DNS-1123 subdomain. -/
def dnsChar (c : Char) : Bool := c.isLower || c.isDigit || c == '-' || c == '.'

/-- A label is not empty and starts and ends with a letter or a digit. -/
def dnsLabelEnds (label : List Char) : Bool :=
  (label.head?.any fun c => c.isLower || c.isDigit) &&
    label.getLast?.any fun c => c.isLower || c.isDigit

/-- The check that the API server makes on the name of an object. -/
def isDnsSubdomain (s : String) : Bool :=
  decide (s.length ≤ 253) && s.toList.all dnsChar && (s.toList.splitOn '.').all dnsLabelEnds

/-- The name of an object that the API server has accepted. -/
structure DnsName where
  /-- The text of the name. -/
  val : String
  /-- The name has passed the check. -/
  valid : isDnsSubdomain val = true

/-- A text holds only characters that DNS names may hold. -/
def DnsText (s : String) : Prop := ∀ c ∈ s.toList, dnsChar c = true

instance (s : String) : Decidable (DnsText s) := List.decidableBAll _ s.toList

/-- A name is made of the characters of names. -/
theorem DnsName.text (n : DnsName) : DnsText n.val := by
  have h := n.valid
  simp only [isDnsSubdomain, Bool.and_eq_true, List.all_eq_true] at h
  exact h.1.2

theorem DnsText.append {a b : String} (ha : DnsText a) (hb : DnsText b) : DnsText (a ++ b) := by
  intro c hc
  rw [String.toList_append, List.mem_append] at hc
  exact hc.elim (ha c) (hb c)

/-- A character that names cannot have is not in one. -/
theorem DnsText.notMem {s : String} (h : DnsText s) {c : Char} (hc : dnsChar c = false) :
    c ∉ s.toList := by
  intro hm
  rw [h c hm] at hc
  exact Bool.noConfusion hc

/-- Decimal digits can be in names. -/
theorem dnsText_decimal (i : Nat) : DnsText (toString i) := by
  intro c hc
  simp [dnsChar, isDigit_of_mem_decimal hc]

/-- The name of a pod is made of the characters of names if that of its set is. -/
theorem DnsText.ordinalName {base : String} (h : DnsText base) (i : Nat) :
    DnsText (ordinalName base i) :=
  (h.append (by decide)).append (dnsText_decimal i)

end HdfsOperator
