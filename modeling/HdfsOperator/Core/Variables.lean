import Mathlib.Data.List.Basic

/-!
# References to variables

A text may refer to variables by a dollar sign and a name in braces. Reading the text replaces
each reference by the value of the variable. A reference without a value is left as it is, and
so is one that is not closed. Readers differ in the names that they give to the variables of the
environment.
-/

namespace HdfsOperator.Variables

/-- The text of a reference to a variable. -/
def reference (name : List Char) : List Char := '$' :: '{' :: (name ++ ['}'])

/-- Replaces references; `name` is the name that has been read since the last opening brace. -/
def expandFrom (read : List Char → Option (List Char)) :
    Option (List Char) → List Char → List Char
  | none, '$' :: '{' :: r => expandFrom read (some []) r
  | none, ch :: r => ch :: expandFrom read none r
  | some name, '}' :: r => (read name).getD (reference name) ++ expandFrom read none r
  | some name, ch :: r => expandFrom read (some (name ++ [ch])) r
  | none, [] => []
  | some name, [] => '$' :: '{' :: name

/-- Replaces the references of a text. -/
def expand (read : List Char → Option (List Char)) (text : List Char) : List Char :=
  expandFrom read none text

variable {read : List Char → Option (List Char)}

/-- A character other than the dollar sign is copied. -/
theorem expandFrom_cons {ch : Char} (h : ch ≠ '$') (r : List Char) :
    expandFrom read none (ch :: r) = ch :: expandFrom read none r := by
  rw [expandFrom]
  rintro r' rfl
  exact absurd rfl h

/-- A text without a dollar sign is copied. -/
theorem expand_append {t : List Char} (h : '$' ∉ t) (r : List Char) :
    expand read (t ++ r) = t ++ expand read r := by
  induction t with
  | nil => rfl
  | cons ch t ih =>
    rw [List.mem_cons, not_or] at h
    obtain ⟨hch, ht⟩ := h
    rw [List.cons_append, expand, expandFrom_cons (Ne.symm hch), ← expand, ih ht, List.cons_append]

/-- The name of a reference is read up to the closing brace. -/
theorem expandFrom_append {name t : List Char} (h : '}' ∉ t) (r : List Char) :
    expandFrom read (some name) (t ++ '}' :: r) =
      (read (name ++ t)).getD (reference (name ++ t)) ++ expandFrom read none r := by
  induction t generalizing name with
  | nil => rw [List.nil_append, List.append_nil, expandFrom]
  | cons ch t ih =>
    rw [List.mem_cons, not_or] at h
    obtain ⟨hch, ht⟩ := h
    have hstep : expandFrom read (some name) (ch :: (t ++ '}' :: r)) =
        expandFrom read (some (name ++ [ch])) (t ++ '}' :: r) := by
      rw [expandFrom]
      exact fun heq => absurd heq (Ne.symm hch)
    rw [List.cons_append, hstep, ih ht, List.append_assoc, List.singleton_append]

/-- A reference to a variable that has a value is replaced by the value. -/
theorem expand_reference {name value : List Char} (hname : '}' ∉ name)
    (hvalue : read name = some value) (r : List Char) :
    expand read (reference name ++ r) = value ++ expand read r := by
  have hstart : expand read (reference name ++ r) =
      expandFrom read (some []) (name ++ '}' :: r) := by
    simp [expand, reference, expandFrom]
  rw [hstart, expandFrom_append hname, List.nil_append, hvalue]
  rfl

/-- A text with one reference at its end. -/
theorem expand_text_reference {t name value : List Char} (ht : '$' ∉ t) (hname : '}' ∉ name)
    (hvalue : read name = some value) : expand read (t ++ reference name) = t ++ value := by
  have hend := expand_reference hname hvalue []
  rw [List.append_nil] at hend
  rw [expand_append ht, hend]
  exact congrArg (t ++ ·) (List.append_nil value)

/-- The names in the references; `name` is the name that has been read since the last opening
brace. -/
def referencesFrom : Option (List Char) → List Char → List (List Char)
  | none, '$' :: '{' :: r => referencesFrom (some []) r
  | none, _ :: r => referencesFrom none r
  | some name, '}' :: r => name :: referencesFrom none r
  | some name, ch :: r => referencesFrom (some (name ++ [ch])) r
  | _, [] => []

/-- The names of the variables that a text refers to. -/
def references (text : List Char) : List (List Char) := referencesFrom none text

/-- Text without a dollar sign refers to nothing. -/
theorem references_append {t : List Char} (h : '$' ∉ t) (r : List Char) :
    references (t ++ r) = references r := by
  induction t with
  | nil => rfl
  | cons ch t ih =>
    rw [List.mem_cons, not_or] at h
    obtain ⟨hch, ht⟩ := h
    rw [List.cons_append, references, referencesFrom, ← references, ih ht]
    rintro r' rfl
    exact absurd rfl hch

theorem references_eq_nil {t : List Char} (h : '$' ∉ t) : references t = [] := by
  have hend := references_append h []
  rw [List.append_nil] at hend
  exact hend

/-- A reference ends at its closing brace. -/
theorem referencesFrom_append {name t : List Char} (h : '}' ∉ t) (r : List Char) :
    referencesFrom (some name) (t ++ '}' :: r) = (name ++ t) :: references r := by
  induction t generalizing name with
  | nil => rw [List.nil_append, List.append_nil, referencesFrom, references]
  | cons ch t ih =>
    rw [List.mem_cons, not_or] at h
    obtain ⟨hch, ht⟩ := h
    have hstep : referencesFrom (some name) (ch :: (t ++ '}' :: r)) =
        referencesFrom (some (name ++ [ch])) (t ++ '}' :: r) := by
      rw [referencesFrom]
      exact fun heq => absurd heq (Ne.symm hch)
    rw [List.cons_append, hstep, ih ht, List.append_assoc, List.singleton_append]

/-- A text with one reference at its end. -/
theorem references_text_reference {t name : List Char} (ht : '$' ∉ t) (hname : '}' ∉ name) :
    references (t ++ reference name) = [name] := by
  have hstart : references (reference name) = referencesFrom (some []) (name ++ '}' :: []) := by
    simp [references, reference, referencesFrom]
  rw [references_append ht, hstart, referencesFrom_append hname]
  rfl

end HdfsOperator.Variables
