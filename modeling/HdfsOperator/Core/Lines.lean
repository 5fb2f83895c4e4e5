import Mathlib.Data.List.Infix

/-!
# Lines of a text and fields of a line

A line ends at a newline; one carriage return before it belongs to the end of the line as well.
Lines without newlines are read back as they were written, each followed by a newline, but for
one carriage return at the end of each. A line has two fields when its separator occurs once.
-/

namespace HdfsOperator.Lines

/-- What stands before each newline of a text, and what stands after the last one unless that is
nothing. -/
def lines : List Char → List (List Char)
  | [] => []
  | ch :: r =>
    if ch = '\n' then [] :: lines r
    else
      match lines r with
      | [] => [[ch]]
      | l :: ls => (ch :: l) :: ls

/-- The text of a list of lines, with a newline after each. -/
def unlines (ls : List (List Char)) : List Char := ls.flatMap (· ++ ['\n'])

@[simp] theorem unlines_cons (l : List Char) (ls : List (List Char)) :
    unlines (l :: ls) = l ++ '\n' :: unlines ls := by
  simp [unlines]

/-- Text up to a newline is the first line. -/
theorem lines_append_newline {l : List Char} (h : '\n' ∉ l) (r : List Char) :
    lines (l ++ '\n' :: r) = l :: lines r := by
  induction l with
  | nil => rfl
  | cons ch l ih =>
    rw [List.mem_cons, not_or] at h
    rw [List.cons_append, lines, if_neg (Ne.symm h.1), ih h.2]

/-- Lines are read back as they were written. -/
theorem lines_unlines {ls : List (List Char)} (h : ∀ l ∈ ls, '\n' ∉ l) :
    lines (unlines ls) = ls := by
  induction ls with
  | nil => rfl
  | cons l ls ih =>
    rw [unlines_cons, lines_append_newline (h l List.mem_cons_self),
      ih fun l' hl' => h l' (List.mem_cons_of_mem _ hl')]

/-- No line has a newline. -/
theorem newline_notMem_of_mem_lines {t l : List Char} (h : l ∈ lines t) : '\n' ∉ l := by
  induction t generalizing l with
  | nil => cases h
  | cons ch t ih =>
    rw [lines] at h
    split at h
    · rcases List.mem_cons.mp h with rfl | h
      · exact List.not_mem_nil
      · exact ih h
    · next hch =>
      cases ht : lines t with
      | nil =>
        rw [ht, List.mem_singleton] at h
        rw [h, List.mem_singleton]
        exact Ne.symm hch
      | cons l' ls =>
        rw [ht] at h
        rcases List.mem_cons.mp h with rfl | h
        · rw [List.mem_cons, not_or]
          exact ⟨Ne.symm hch, ih (ht ▸ List.mem_cons_self)⟩
        · exact ih (ht ▸ List.mem_cons_of_mem _ h)

/-- The line without a carriage return at its end. -/
def dropCR (l : List Char) : List Char := if l.getLast? = some '\r' then l.dropLast else l

/-- Only a carriage return at the end is dropped. -/
theorem dropCR_of_ne {l : List Char} (h : l.getLast? ≠ some '\r') : dropCR l = l := if_neg h

/-- What is left is the start of the line. -/
theorem dropCR_isInitial (l : List Char) : dropCR l <+: l := by
  unfold dropCR
  split
  · exact List.dropLast_prefix l
  · exact List.prefix_rfl

/-- Only a carriage return at the end is dropped. -/
theorem dropCR_eq_self_iff {l : List Char} : dropCR l = l ↔ l.getLast? ≠ some '\r' := by
  constructor
  · intro h hlast
    rw [dropCR, if_pos hlast] at h
    have hlength := congrArg List.length h
    rw [List.length_dropLast] at hlength
    have hpos : 0 < l.length := List.length_pos_of_mem (List.mem_of_getLast? hlast)
    omega
  · exact dropCR_of_ne

/-- A carriage return at the end of a line is at the end of its last part. -/
theorem dropCR_append_cons {ch : Char} (hch : ch ≠ '\r') (l v : List Char) :
    dropCR (l ++ ch :: v) = l ++ ch :: dropCR v := by
  cases v with
  | nil =>
    have hlast : (l ++ [ch]).getLast? ≠ some '\r' := by simpa using hch
    rw [dropCR_of_ne hlast]
    rfl
  | cons c v =>
    have hlast : (l ++ ch :: c :: v).getLast? = (c :: v).getLast? := by
      simp [List.getLast?_cons]
    rw [dropCR, dropCR, hlast]
    split
    · rw [List.dropLast_append_of_ne_nil (List.cons_ne_nil _ _)]
      rfl
    · rfl

/-- All other characters stay. -/
theorem mem_dropCR_iff {ch : Char} (hch : ch ≠ '\r') {l : List Char} : ch ∈ dropCR l ↔ ch ∈ l := by
  constructor
  · intro h
    exact (dropCR_isInitial l).subset h
  · intro h
    unfold dropCR
    split
    · next hlast =>
      rw [← List.dropLast_append_getLast? '\r' hlast, List.mem_append, List.mem_singleton] at h
      exact h.resolve_right hch
    · exact h

/-- A list has two fields exactly when the separator occurs once. -/
theorem splitOn_eq_pair_iff {α : Type} [DecidableEq α] {x : α} {l a b : List α} :
    l.splitOn x = [a, b] ↔ l = a ++ x :: b ∧ x ∉ a ∧ x ∉ b := by
  constructor
  · intro h
    by_cases hx : x ∈ l
    · obtain ⟨pre, post, rfl, hpre⟩ := List.eq_append_cons_of_mem hx
      rw [List.splitOn_append_cons_self_of_not_mem hpre, List.cons.injEq] at h
      obtain ⟨rfl, hpost⟩ := h
      by_cases hx' : x ∈ post
      · obtain ⟨pre', post', rfl, hpre'⟩ := List.eq_append_cons_of_mem hx'
        rw [List.splitOn_append_cons_self_of_not_mem hpre', List.cons.injEq] at hpost
        exact absurd hpost.2 (List.splitOn_ne_nil x post')
      · rw [List.splitOn_eq_singleton hx', List.cons.injEq] at hpost
        obtain ⟨rfl, -⟩ := hpost
        exact ⟨rfl, hpre, hx'⟩
    · rw [List.splitOn_eq_singleton hx] at h
      cases h
  · rintro ⟨rfl, ha, hb⟩
    rw [List.splitOn_append_cons_self_of_not_mem ha, List.splitOn_eq_singleton hb]

end HdfsOperator.Lines
