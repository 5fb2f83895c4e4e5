import HdfsOperator.Core.Text

/-!
# Pieces of the shell

What start scripts do with text: the part of a line after its last separator, decimal
numerals in arithmetic comparisons, and the words of an unquoted list. A text that holds a
character with a meaning of its own for the shell has no words here.
-/

namespace HdfsOperator.Shell

/-- The text after the last occurrence of a character, and the whole text if there is none: what
`sed -e 's/.*c//'` leaves of a line. -/
def afterLast (c : Char) (s : String) : String :=
  String.ofList (s.toList.reverse.takeWhile (· != c)).reverse

/-- What follows the last separator. -/
theorem afterLast_of_toList {c : Char} {s : String} {a b : List Char} (hs : s.toList = a ++ c :: b)
    (hb : c ∉ b) : afterLast c s = String.ofList b := by
  have hkeep : ∀ x ∈ b.reverse, (x != c) = true := by
    intro x hx
    rw [bne_iff_ne]
    rintro rfl
    exact hb (List.mem_reverse.mp hx)
  have hrev : s.toList.reverse = b.reverse ++ c :: a.reverse := by simp [hs]
  rw [afterLast, hrev, List.takeWhile_append_of_pos hkeep]
  simp

/-- The ordinal of a numbered name stands after its last dash. -/
theorem afterLast_ordinalName (base : String) (i : Nat) :
    afterLast '-' (ordinalName base i) = toString i := by
  have hdash : '-' ∉ (toString i).toList := by
    intro h
    have hdigit := isDigit_of_mem_decimal h
    revert hdigit
    decide
  rw [afterLast_of_toList (ordinalName_toList base i) hdash, String.ofList_toList]

/-- The value of a decimal numeral. Other texts are no numerals here: a leading zero would make an
octal numeral of the text, and letters the name of a variable. -/
def number (s : String) : Option Nat :=
  if s.toList ≠ [] ∧ s.toList.all Char.isDigit ∧ (s.toList.head? = some '0' → s.toList = ['0']) then
    some (Nat.ofDigitChars 10 s.toList 0)
  else none

/-- Rendering a number in decimal writes a leading zero for zero only. -/
theorem toDigits_head?_eq_zero {n : Nat} (h : (Nat.toDigits 10 n).head? = some '0') :
    Nat.toDigits 10 n = ['0'] := by
  induction n using Nat.strongRecOn with
  | ind n ih =>
    rw [Nat.toDigits_eq_if (by decide)] at h ⊢
    split at h
    · next hlt =>
      rw [if_pos hlt]
      rw [List.head?_cons, Option.some.injEq] at h
      rw [h]
    · next hge =>
      -- The leading digit is that of the quotient, which is not zero.
      rw [List.head?_append_of_ne_nil _ Nat.toDigits_ne_nil] at h
      have hq := ih (n / 10) (by omega) h
      have hzero : n / 10 = 0 := by
        have hvalue := congrArg (fun ds => Nat.ofDigitChars 10 ds 0) hq
        exact Nat.ofDigitChars_ten_toDigits.symm.trans hvalue
      omega

/-- A number is read back from its decimal digits. -/
theorem number_toString (n : Nat) : number (toString n) = some n := by
  have hlist : (toString n).toList = Nat.toDigits 10 n := by
    rw [Nat.toString_eq_repr, Nat.toList_repr]
  have hdigits : (Nat.toDigits 10 n).all Char.isDigit = true :=
    List.all_eq_true.mpr fun c hc => Nat.isDigit_of_mem_toDigits (by decide) (by decide) hc
  rw [number, hlist, if_pos ⟨Nat.toDigits_ne_nil, hdigits, toDigits_head?_eq_zero⟩,
    Nat.ofDigitChars_ten_toDigits]

/-- The characters that separate words. -/
def isBlank (c : Char) : Bool := c == ' ' || c == '\t' || c == '\n'

/-- The characters that stand for themselves in a word, wherever they occur. -/
def isLiteral (c : Char) : Bool :=
  c.isAlphanum || c == '-' || c == '.' || c == '_' || c == '/' || c == ':' || c == '%' || c == '@'

/-- The words of an unquoted text, if every character is a blank or stands for itself. -/
def words (s : String) : Option (List String) :=
  if s.toList.all fun c => isBlank c || isLiteral c then
    some (((s.toList.splitOnP isBlank).filter (· ≠ [])).map String.ofList)
  else none

/-- A word that the shell takes as it is written. -/
def Word (s : String) : Prop := s ≠ "" ∧ ∀ c ∈ s.toList, isLiteral c = true

/-- A literal character separates no words. -/
theorem isBlank_of_isLiteral {c : Char} (h : isLiteral c = true) : isBlank c = false := by
  simp only [isBlank, Bool.or_eq_false_iff, beq_eq_false_iff_ne]
  refine ⟨⟨?_, ?_⟩, ?_⟩
  all_goals
    rintro rfl
    revert h
    decide

theorem Word.notBlank {s : String} (h : Word s) : ∀ c ∈ s.toList, isBlank c = false :=
  fun c hc => isBlank_of_isLiteral (h.2 c hc)

/-- The characters of Kubernetes names are literal. -/
theorem isLiteral_of_dnsChar {c : Char} (h : dnsChar c = true) : isLiteral c = true := by
  have halphanum : c.isAlphanum = (c.isUpper || c.isLower || c.isDigit) := rfl
  simp only [dnsChar, Bool.or_eq_true] at h
  simp only [isLiteral, halphanum, Bool.or_eq_true]
  tauto

/-- A text of characters that DNS names may hold is a word. -/
theorem word_of_dnsText {s : String} (h : DnsText s) (hne : s ≠ "") : Word s :=
  ⟨hne, fun c hc => isLiteral_of_dnsChar (h c hc)⟩

/-- Words that are joined by blanks are split at the blanks. -/
private theorem splitOnP_intercalate {l : List String} (h : ∀ w ∈ l, Word w) (hne : l ≠ []) :
    (" ".intercalate l).toList.splitOnP isBlank = l.map String.toList := by
  induction l with
  | nil => exact absurd rfl hne
  | cons w l ih =>
    rw [List.forall_mem_cons] at h
    cases l with
    | nil =>
      simp only [String.intercalate_singleton, List.map_cons, List.map_nil]
      exact List.splitOnP_eq_singleton h.1.notBlank
    | cons w' l =>
      have htail := ih h.2 (List.cons_ne_nil _ _)
      rw [String.intercalate_cons_cons, String.toList_append, String.toList_append]
      have hblank : " ".toList = [' '] := rfl
      rw [hblank, List.append_assoc, List.singleton_append,
        List.splitOnP_append_cons_of_forall_mem h.1.notBlank _ (by decide), htail]
      rfl

/-- The words of a list of words that are joined by blanks. -/
theorem words_intercalate {l : List String} (h : ∀ w ∈ l, Word w) :
    words (" ".intercalate l) = some l := by
  rcases eq_or_ne l [] with rfl | hne
  · decide
  have hall : (" ".intercalate l).toList.all (fun c => isBlank c || isLiteral c) = true := by
    rw [List.all_eq_true]
    intro c hc
    rcases mem_intercalate hc with hsep | ⟨w, hw, hcw⟩
    · have : c = ' ' := by simpa using hsep
      rw [this]
      decide
    · rw [(h w hw).2 c hcw, Bool.or_true]
  have hkeep : (l.map String.toList).filter (· ≠ []) = l.map String.toList := by
    rw [List.filter_eq_self]
    intro cs hcs
    obtain ⟨w, hw, rfl⟩ := List.mem_map.mp hcs
    simpa using (h w hw).1
  rw [words, if_pos hall, splitOnP_intercalate h hne, hkeep, List.map_map]
  simp [Function.comp_def]

end HdfsOperator.Shell
