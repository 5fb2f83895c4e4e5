import Mathlib.Data.List.Infix
import HdfsOperator.Core.Printf

/-!
# Formats that print themselves

Once its operand is used up, the formatter copies text without a percent sign. Text with one
never prints itself. Two quantities tell the output apart from the format. The formatter does
not write more square brackets than it reads, and writes fewer when it reads an explicit index.
Without an index there is no operand to print: a directive is a complaint, in round brackets,
or a percent sign that took two to write.
-/

namespace HdfsOperator.Printf

/-- The number of opening square brackets. -/
def brackets (l : List Char) : Nat := l.count '['

/-- Round brackets weigh one, and percent signs take one away. -/
def charWeight (c : Char) : Int :=
  if c = '(' ∨ c = ')' then 1 else if c = '%' then -1 else 0

/-- The weight of a text. -/
def weight : List Char → Int
  | [] => 0
  | c :: l => charWeight c + weight l

@[simp] theorem weight_nil : weight [] = 0 := rfl

@[simp] theorem weight_cons (c : Char) (l : List Char) :
    weight (c :: l) = charWeight c + weight l := rfl

/-- Weights add up. -/
@[simp] theorem weight_append (l l' : List Char) : weight (l ++ l') = weight l + weight l' := by
  induction l with
  | nil => simp
  | cons c l ih =>
    rw [List.cons_append, weight_cons, weight_cons, ih]
    omega

/-- Brackets add up. -/
@[simp] theorem brackets_append (l l' : List Char) :
    brackets (l ++ l') = brackets l + brackets l' := List.count_append

theorem brackets_cons (c : Char) (l : List Char) : brackets (c :: l) = brackets [c] + brackets l :=
  brackets_append [c] l

/-- What is left to read has no more brackets. -/
theorem brackets_le_of_suffix {l l' : List Char} (h : l' <:+ l) : brackets l' ≤ brackets l :=
  h.sublist.count_le '['

theorem brackets_eq_zero {l : List Char} (h : '[' ∉ l) : brackets l = 0 := List.count_eq_zero.mpr h

/-- The text from `r` to `r'` weighs nothing. -/
def Passes (r r' : List Char) : Prop := ∃ pre, r = pre ++ r' ∧ weight pre = 0

theorem Passes.refl (r : List Char) : Passes r r := ⟨[], rfl, rfl⟩

/-- A character without weight in front. -/
theorem Passes.cons {c : Char} {r r' : List Char} (hc : charWeight c = 0) (h : Passes r r') :
    Passes (c :: r) r' := by
  obtain ⟨pre, rfl, hpre⟩ := h
  exact ⟨c :: pre, rfl, by rw [weight_cons, hc, hpre]; rfl⟩

theorem Passes.trans {r r' r'' : List Char} (h : Passes r r') (h' : Passes r' r'') :
    Passes r r'' := by
  obtain ⟨pre, rfl, hpre⟩ := h
  obtain ⟨pre', rfl, hpre'⟩ := h'
  exact ⟨pre ++ pre', (List.append_assoc ..).symm, by rw [weight_append, hpre, hpre']; rfl⟩

/-- A part of a directive reads from `r` to `r'`. Either it reads a square bracket, or it reads
text that weighs nothing, or all there is, and no operand becomes available. -/
structure Reads (c : Cursor) (r : List Char) (c' : Cursor) (r' : List Char) : Prop where
  suffix : r' <:+ r
  index : brackets r' < brackets r ∨
    (r' = [] ∨ Passes r r') ∧ (c.argNum ≠ 0 → c'.argNum ≠ 0)

variable {n : Nat} {c c' c'' : Cursor} {r r' r'' : List Char}

/-- What is left is the end of what was there. -/
theorem Passes.suffix (h : Passes r r') : r' <:+ r := by
  obtain ⟨pre, rfl, -⟩ := h
  exact List.suffix_append pre r'

/-- A part that reads no bracket. -/
theorem reads_of_passes (h : r' = [] ∨ Passes r r') (hc : c.argNum ≠ 0 → c'.argNum ≠ 0) :
    Reads c r c' r' := by
  refine ⟨?_, .inr ⟨h, hc⟩⟩
  rcases h with rfl | h
  · exact List.nil_suffix
  · exact h.suffix

theorem Passes.reads (h : Passes r r') (hc : c.argNum ≠ 0 → c'.argNum ≠ 0) : Reads c r c' r' :=
  reads_of_passes (.inr h) hc

/-- One part of a directive after the other. -/
theorem Reads.trans (h : Reads c r c' r') (h' : Reads c' r' c'' r'') : Reads c r c'' r'' := by
  have hle := brackets_le_of_suffix h.suffix
  have hle' := brackets_le_of_suffix h'.suffix
  refine ⟨h'.suffix.trans h.suffix, ?_⟩
  rcases h.index with hlt | ⟨hread, hc⟩
  · exact .inl (Nat.lt_of_le_of_lt hle' hlt)
  rcases h'.index with hlt | ⟨hread', hc'⟩
  · exact .inl (Nat.lt_of_lt_of_le hlt hle)
  refine .inr ⟨?_, fun h₀ => hc' (hc h₀)⟩
  rcases hread' with hnil | hpass'
  · exact .inl hnil
  rcases hread with hnil | hpass
  · subst hnil
    exact .inl (List.suffix_nil.mp hpass'.suffix)
  · exact .inr (hpass.trans hpass')

/-- Flags weigh nothing. -/
theorem parseFlags_passes (d : Directive) (r : List Char) : Passes r (parseFlags d r).2 := by
  fun_induction parseFlags d r with
  | case1 d r ih => exact ih.cons rfl
  | case2 d r ih => exact ih.cons rfl
  | case3 d r ih => exact ih.cons rfl
  | case4 d r ih => exact ih.cons rfl
  | case5 d r ih => exact ih.cons rfl
  | case6 d r => exact .refl r

/-- Digits weigh nothing. -/
theorem charWeight_of_isDigit {ch : Char} (h : ch.isDigit = true) : charWeight ch = 0 := by
  have hne (x : Char) (hx : x.isDigit = false) : ch ≠ x := by
    rintro rfl
    rw [h] at hx
    cases hx
  rw [charWeight, if_neg (not_or.mpr ⟨hne _ (by decide), hne _ (by decide)⟩),
    if_neg (hne _ (by decide))]

/-- A number weighs nothing; one that is too large takes the rest of the format with it. -/
theorem parsenum_passes (num : Nat) (isnum : Bool) (r : List Char) :
    (parsenum num isnum r).2.2 = [] ∨ Passes r (parsenum num isnum r).2.2 := by
  fun_induction parsenum num isnum r with
  | case1 num isnum => exact .inl rfl
  | case2 num isnum ch r hdigit hlarge => exact .inl rfl
  | case3 num isnum ch r hdigit hlarge ih =>
    exact ih.imp_right fun h => h.cons (charWeight_of_isDigit hdigit)
  | case4 num isnum ch r hdigit => exact .inr (.refl _)

/-- An index is read up to its closing bracket. -/
theorem parseArgNumber_suffix (r : List Char) : (parseArgNumber r).2 <:+ r := by
  have hafter {inside after : List Char} {ch : Char}
      (h : (r.takeWhile (· ≠ ']'), r.dropWhile (· ≠ ']')) = (inside, ch :: after)) :
      after <:+ r := by
    have hdrop : r.dropWhile (· ≠ ']') <:+ r := List.dropWhile_suffix _
    rw [(Prod.mk.inj h).2] at hdrop
    exact (List.suffix_cons ch after).trans hdrop
  unfold parseArgNumber
  rw [List.span_eq_takeWhile_dropWhile]
  split
  · exact List.suffix_rfl
  · next ch after h =>
    split
    · exact List.suffix_rfl
    · exact hafter h
  · next inside ch after hinside h =>
    split
    · exact hafter h
    · exact hafter h

/-- An index costs a bracket. Without one nothing is read. -/
theorem argNumber_reads (c : Cursor) (r : List Char) :
    Reads c r (argNumber c r).1 (argNumber c r).2 := by
  unfold argNumber
  split
  · next r =>
    have hsuffix := parseArgNumber_suffix r
    have hlt : brackets (parseArgNumber r).2 < brackets ('[' :: r) := by
      have hle := brackets_le_of_suffix hsuffix
      have hcons : brackets ('[' :: r) = brackets r + 1 := List.count_cons_self
      omega
    have hindex (c' : Cursor) : Reads c ('[' :: r) c' (parseArgNumber r).2 :=
      ⟨hsuffix.trans (List.suffix_cons _ _), .inl hlt⟩
    split
    · next after h =>
      rw [h] at hindex
      split
      · exact hindex _
      · exact hindex _
    · next after h =>
      rw [h] at hindex
      exact hindex _
  · exact (Passes.refl _).reads id

/-- The notes about an unusable width or precision. -/
def Note (l : List Char) : Prop := brackets l = 0 ∧ 0 ≤ weight l

theorem Note.nil : Note [] := ⟨rfl, Int.le_refl 0⟩

/-- Two notes in a row. -/
theorem Note.append {l l' : List Char} (h : Note l) (h' : Note l') : Note (l ++ l') := by
  refine ⟨?_, ?_⟩
  · rw [brackets_append, h.1, h'.1]
  · rw [weight_append]
    exact Int.add_nonneg h.2 h'.2

theorem note_badWidth : Note "%!(BADWIDTH)".toList := ⟨by decide, by decide⟩

theorem note_badPrec : Note "%!(BADPREC)".toList := ⟨by decide, by decide⟩

/-- The width, with a note if the operand cannot be used for it. -/
theorem parseWidth_reads (n : Nat) (d : Directive) (c : Cursor) (r : List Char) :
    Note (parseWidth n d c r).1 ∧
      Reads c r (parseWidth n d c r).2.2.1 (parseWidth n d c r).2.2.2 := by
  unfold parseWidth
  split
  · next r =>
    have hpass : Passes ('*' :: r) r := (Passes.refl r).cons rfl
    split
    · next h =>
      split
      · exact ⟨note_badWidth, hpass.reads fun hc => absurd h hc⟩
      · exact ⟨.nil, hpass.reads fun hc => absurd h hc⟩
    · exact ⟨note_badWidth, hpass.reads id⟩
  · have hnum := parsenum_passes 0 false r
    split
    · next h =>
      rw [h] at hnum
      exact ⟨.nil, reads_of_passes hnum id⟩
    · next h =>
      rw [h] at hnum
      exact ⟨.nil, reads_of_passes hnum id⟩

/-- The precision, with a note if the operand cannot be used for it. -/
theorem parsePrec_reads (n : Nat) (d : Directive) (c : Cursor) (r : List Char) :
    Note (parsePrec n d c r).1 ∧
      Reads c r (parsePrec n d c r).2.2.1 (parsePrec n d c r).2.2.2 := by
  unfold parsePrec
  split
  · next r =>
    -- After the dot an index may stand, and then the precision.
    have hdot : Reads c ('.' :: r) { c with goodArgNum := c.goodArgNum && !c.afterIndex } r :=
      ((Passes.refl r).cons rfl).reads id
    have hindex := hdot.trans (argNumber_reads _ r)
    generalize argNumber { c with goodArgNum := c.goodArgNum && !c.afterIndex } r = read
      at hindex ⊢
    obtain ⟨c₁, r₁⟩ := read
    dsimp only at hindex ⊢
    split
    · next r₂ =>
      have hstar : Passes ('*' :: r₂) r₂ := (Passes.refl r₂).cons rfl
      split
      · next h =>
        split
        · exact ⟨note_badPrec, hindex.trans (hstar.reads fun hc => absurd h hc)⟩
        · exact ⟨.nil, hindex.trans (hstar.reads fun hc => absurd h hc)⟩
      · exact ⟨note_badPrec, hindex.trans (hstar.reads id)⟩
    · have hnum := parsenum_passes 0 false r₁
      split
      · next h =>
        rw [h] at hnum
        exact ⟨.nil, hindex.trans (reads_of_passes hnum id)⟩
      · next h =>
        rw [h] at hnum
        exact ⟨.nil, hindex.trans (reads_of_passes hnum id)⟩
  · exact ⟨.nil, (Passes.refl _).reads id⟩

/-- The ways in which a directive goes on after its flags, width and precision. -/
inductive Writes (n : Nat) (c : Cursor) (note : List Char) :
    List Char → List Char → Cursor → List Char → Prop
  /-- The format ends before the verb. -/
  | noVerb : Writes n c note [] (note ++ "%!(NOVERB)".toList) c []
  /-- A percent sign stands for itself. -/
  | percent (r : List Char) : Writes n c note ('%' :: r) (note ++ ['%']) c r
  /-- There is no usable operand. -/
  | complaint (verb : Char) (r text : List Char) (hverb : verb ≠ '%')
      (hbrackets : brackets text = 0) (hweight : weight text = 2) :
      Writes n c note (verb :: r) (note ++ "%!".toList ++ verb :: text) c r
  /-- The operand is printed. -/
  | operand (verb : Char) (r : List Char) (d : Directive) (hc : c.argNum = 0) :
      Writes n c note (verb :: r) (note ++ printArg d n verb) { c with argNum := 1 } r

/-- What a directive reads, and how it goes on. -/
theorem directive_cases (n : Nat) (c : Cursor) (r : List Char) :
    ∃ note c₁ rest, Note note ∧ Reads c r c₁ rest ∧
      Writes n c₁ note rest (directive n c r).1 (directive n c r).2.1 (directive n c r).2.2 := by
  have hflags : Reads c r { c with goodArgNum := true } (parseFlags {} r).2 :=
    (parseFlags_passes {} r).reads id
  unfold directive
  generalize parseFlags {} r = flags at hflags ⊢
  obtain ⟨d, r₁⟩ := flags
  dsimp only at hflags ⊢
  have hindex := hflags.trans (argNumber_reads _ r₁)
  generalize argNumber { c with goodArgNum := true } r₁ = index at hindex ⊢
  obtain ⟨c₂, r₂⟩ := index
  dsimp only at hindex ⊢
  have hwidth := parseWidth_reads n d c₂ r₂
  generalize parseWidth n d c₂ r₂ = width at hwidth ⊢
  obtain ⟨w, d₃, c₃, r₃⟩ := width
  dsimp only at hwidth ⊢
  have hprec := parsePrec_reads n d₃ c₃ r₃
  generalize parsePrec n d₃ c₃ r₃ = prec at hprec ⊢
  obtain ⟨p, d₄, c₄, r₄⟩ := prec
  dsimp only at hprec ⊢
  have hhead := hindex.trans (hwidth.2.trans hprec.2)
  have hnote := hwidth.1.append hprec.1
  have hlast : Reads c₄ r₄ (if c₄.afterIndex then (c₄, r₄) else argNumber c₄ r₄).1
      (if c₄.afterIndex then (c₄, r₄) else argNumber c₄ r₄).2 := by
    split
    · exact (Passes.refl r₄).reads id
    · exact argNumber_reads c₄ r₄
  generalize (if c₄.afterIndex then (c₄, r₄) else argNumber c₄ r₄) = last at hlast ⊢
  obtain ⟨c₅, r₅⟩ := last
  dsimp only at hlast ⊢
  refine ⟨w ++ p, c₅, r₅, hnote, hhead.trans hlast, ?_⟩
  cases r₅ with
  | nil => exact .noVerb
  | cons verb r =>
    dsimp only
    split
    · next hverb =>
      subst hverb
      exact .percent r
    · next hverb =>
      split
      · exact .complaint verb r "(BADINDEX)".toList hverb (by decide) (by decide)
      · split
        · exact .complaint verb r "(MISSING)".toList hverb (by decide) (by decide)
        · next hc => exact .operand verb r d₄ (not_not.mp hc)

theorem notMem_ite {b : Prop} [Decidable b] {l l' : List Char} (h : '[' ∉ l) (h' : '[' ∉ l') :
    '[' ∉ if b then l else l' := by
  split
  · exact h
  · exact h'

theorem notMem_replicate {x : Char} (h : '[' ≠ x) (k : Nat) : '[' ∉ List.replicate k x :=
  fun hm => h (List.eq_of_mem_replicate hm)

/-- Padding adds zeros and blanks. -/
theorem notMem_pad {body : List Char} (h : '[' ∉ body) (d : Directive) : '[' ∉ pad d body := by
  have hfill (b : Bool) : '[' ≠ if b then '0' else ' ' := by cases b <;> decide
  exact notMem_ite (List.not_mem_append h (notMem_replicate (hfill _) _))
    (List.not_mem_append (notMem_replicate (hfill _) _) h)

/-- The ordinal zero is printed without a bracket in every base. -/
theorem notMem_fmtInteger_zero (d : Directive) (base : Nat) (verb : Char) (upper : Bool) :
    '[' ∉ fmtInteger d 0 base verb upper := by
  unfold fmtInteger
  split
  · exact notMem_replicate (by decide) _
  · extract_lets prec raw digits based octal signed
    have hraw : '[' ∉ raw := by
      simp only [raw, Nat.toDigits_zero]
      cases upper <;> decide
    have hdigits : '[' ∉ digits := List.not_mem_append (notMem_replicate (by decide) _) hraw
    have hbased : '[' ∉ based := by
      refine notMem_ite (by simp [hdigits]) (notMem_ite (by simp [hdigits]) (notMem_ite ?_ hdigits))
      cases upper <;> simp [hdigits]
    have hoctal : '[' ∉ octal := notMem_ite (by simp [hbased]) hbased
    have hsigned : '[' ∉ signed :=
      notMem_ite (by simp [hoctal]) (notMem_ite (by simp [hoctal]) hoctal)
    exact notMem_pad hsigned _

/-- The code point zero is printed without a bracket. -/
theorem notMem_fmtUnicode_zero (d : Directive) : '[' ∉ fmtUnicode d 0 := by
  unfold fmtUnicode
  extract_lets width tail
  have htail : '[' ∉ tail := notMem_ite (by decide) (by decide)
  have hhex : '[' ∉ (hex width 0).map Char.toUpper := by
    rw [hex, Nat.toDigits_zero, List.map_append, List.map_replicate]
    exact List.not_mem_append (notMem_replicate (by decide) _) (by decide)
  refine notMem_pad ?_ _
  simp only [List.mem_cons, List.mem_append, hhex, htail]
  decide

/-- The complaint about a verb repeats the verb. -/
theorem brackets_badVerb_zero (d : Directive) (verb : Char) :
    brackets (badVerb d 0 verb) = brackets [verb] := by
  have hvalue : brackets (printValue d 0) = 0 :=
    brackets_eq_zero (notMem_fmtInteger_zero d 10 'v' false)
  have hbang : brackets "%!".toList = 0 := by decide
  have htype : brackets "(int32=".toList = 0 := by decide
  have hclose : brackets [')'] = 0 := by decide
  rw [badVerb, brackets_append, brackets_append, brackets_append, brackets_cons verb, hvalue, hbang,
    htype, hclose]
  omega

/-- The ordinal zero is printed without a square bracket, unless the verb is one. -/
theorem brackets_printArg_zero (d : Directive) (verb : Char) :
    brackets (printArg d 0 verb) ≤ brackets [verb] := by
  have hle {l : List Char} (h : '[' ∉ l) : brackets l ≤ brackets [verb] := by
    rw [brackets_eq_zero h]
    exact Nat.zero_le _
  unfold printArg
  split
  · exact hle (notMem_fmtInteger_zero _ 10 'v' false)
  · exact Nat.le_of_eq (brackets_badVerb_zero _ _)
  · exact hle (notMem_fmtInteger_zero d 10 _ false)
  · exact hle (notMem_fmtInteger_zero d 2 _ false)
  · exact hle (notMem_fmtInteger_zero d 8 _ false)
  · exact hle (notMem_fmtInteger_zero d 8 _ false)
  · exact hle (notMem_fmtInteger_zero d 16 _ false)
  · exact hle (notMem_fmtInteger_zero d 16 _ true)
  · exact hle (notMem_pad (by decide) d)
  · refine hle (notMem_pad ?_ d)
    cases d.plus <;> decide
  · exact hle (notMem_fmtUnicode_zero d)
  · exact hle (notMem_pad (fun hm => absurd (List.mem_of_mem_take hm) (by decide)) d)
  · exact Nat.le_of_eq (brackets_badVerb_zero d verb)

/-- A verb writes no more brackets than it reads. -/
theorem Writes.brackets_le {note rest out : List Char} (h : Writes 0 c note rest out c' r')
    (hnote : Note note) : brackets out + brackets r' ≤ brackets rest := by
  cases h with
  | noVerb =>
    rw [brackets_append, hnote.1]
    exact Nat.le_refl 0
  | percent =>
    rw [brackets_append, hnote.1, brackets_cons '%' r', Nat.zero_add]
  | complaint verb r text hverb hbrackets hweight =>
    have hbang : brackets "%!".toList = 0 := by decide
    rw [brackets_append, brackets_append, hnote.1, hbang, brackets_cons verb text,
      brackets_cons verb r', hbrackets]
    omega
  | operand verb r d hc =>
    have hprint := brackets_printArg_zero d verb
    rw [brackets_append, hnote.1, brackets_cons verb r']
    omega

/-- Without an operand a verb adds to the weight. -/
theorem Writes.weight_le {note rest out : List Char} (h : Writes n c note rest out c' r')
    (hnote : Note note) (hc : c.argNum ≠ 0) :
    c' = c ∧ (r' = [] ∧ out.getLast? = some ')' ∨
      rest ≠ [] ∧ weight rest ≤ weight out + weight r') := by
  have hnonneg := hnote.2
  cases h with
  | noVerb =>
    refine ⟨rfl, .inl ⟨rfl, ?_⟩⟩
    rw [List.getLast?_append]
    rfl
  | percent =>
    refine ⟨rfl, .inr ⟨List.cons_ne_nil _ _, ?_⟩⟩
    simp only [weight_append, weight_cons, weight_nil]
    omega
  | complaint verb r text hverb hbrackets hweight =>
    refine ⟨rfl, .inr ⟨List.cons_ne_nil _ _, ?_⟩⟩
    have hbang : weight "%!".toList = -1 := by decide
    rw [weight_append, weight_append, hbang, weight_cons, weight_cons, hweight]
    omega
  | operand verb r d harg => exact absurd harg hc

/-- A directive reads from the front. -/
theorem directive_suffix (n : Nat) (c : Cursor) (r : List Char) : (directive n c r).2.2 <:+ r := by
  obtain ⟨note, c₁, rest, -, hreads, hwrites⟩ := directive_cases n c r
  refine List.IsSuffix.trans ?_ hreads.suffix
  generalize (directive n c r).1 = out, (directive n c r).2.1 = c', (directive n c r).2.2 = r'
    at hwrites
  cases hwrites with
  | noVerb => exact List.suffix_rfl
  | percent => exact List.suffix_cons _ _
  | complaint => exact List.suffix_cons _ _
  | operand => exact List.suffix_cons _ _

/-- A directive writes no more brackets than it reads. -/
theorem directive_brackets_le (c : Cursor) (r : List Char) :
    brackets (directive 0 c r).1 + brackets (directive 0 c r).2.2 ≤ brackets r := by
  obtain ⟨note, c₁, rest, hnote, hreads, hwrites⟩ := directive_cases 0 c r
  exact (hwrites.brackets_le hnote).trans (brackets_le_of_suffix hreads.suffix)

/-- A directive without an operand loses a square bracket, ends the format with a complaint, or
adds to the weight. -/
theorem directive_weight_lt (hc : c.argNum ≠ 0) (r : List Char) :
    brackets (directive 0 c r).1 + brackets (directive 0 c r).2.2 < brackets r ∨
      (directive 0 c r).2.1.argNum ≠ 0 ∧
        ((directive 0 c r).2.2 = [] ∧ (directive 0 c r).1.getLast? = some ')' ∨
          weight ('%' :: r) < weight (directive 0 c r).1 + weight (directive 0 c r).2.2) := by
  obtain ⟨note, c₁, rest, hnote, hreads, hwrites⟩ := directive_cases 0 c r
  rcases hreads.index with hlt | ⟨hread, harg⟩
  · exact .inl (Nat.lt_of_le_of_lt (hwrites.brackets_le hnote) hlt)
  · obtain ⟨hcursor, hcases⟩ := hwrites.weight_le hnote (harg hc)
    refine .inr ⟨by rw [hcursor]; exact harg hc, ?_⟩
    rcases hcases with hend | ⟨hne, hle⟩
    · exact .inl hend
    · obtain ⟨pre, rfl, hpre⟩ := hread.resolve_left hne
      have hpercent : charWeight '%' = -1 := by decide
      rw [weight_cons, weight_append, hpre, hpercent]
      exact .inr (by omega)

/-- One turn of the loop at a percent sign. -/
theorem doPrintf_percent (n turns : Nat) (c : Cursor) (r : List Char) :
    doPrintf n (turns + 1) c ('%' :: r) =
      (directive n c r).1 ++ doPrintf n turns (directive n c r).2.1 (directive n c r).2.2 := rfl

/-- One turn of the loop at any other character. -/
theorem doPrintf_cons {ch : Char} (h : ch ≠ '%') (n turns : Nat) (c : Cursor) (r : List Char) :
    doPrintf n (turns + 1) c (ch :: r) = ch :: doPrintf n turns c r := by
  rw [doPrintf, if_neg h]

/-- The output for the ordinal zero has no more brackets than the format. -/
theorem doPrintf_brackets_le (turns : Nat) (c : Cursor) (r : List Char) :
    brackets (doPrintf 0 turns c r) ≤ brackets r := by
  induction turns generalizing c r with
  | zero => exact Nat.zero_le _
  | succ turns ih =>
    cases r with
    | nil =>
      rw [doPrintf, extra]
      split
      · exact Nat.le_of_eq (by decide)
      · exact Nat.le_refl _
    | cons ch r =>
      by_cases hch : ch = '%'
      · subst hch
        have hstep := directive_brackets_le c r
        have hrest := ih (directive 0 c r).2.1 (directive 0 c r).2.2
        rw [doPrintf_percent, brackets_append, brackets_cons '%' r]
        omega
      · rw [doPrintf_cons hch, brackets_cons, brackets_cons ch r]
        exact Nat.add_le_add_left (ih c r) _

/-- There is no complaint about an operand that was used. -/
theorem extra_eq_nil (hc : c.argNum ≠ 0) (n : Nat) : extra n c = [] := by simp [extra, hc]

/-- Without an operand left, text without directives is copied. -/
theorem doPrintf_eq_self {turns : Nat} (hr : '%' ∉ r) (hturns : r.length < turns)
    (hc : c.argNum ≠ 0) : doPrintf n turns c r = r := by
  rw [doPrintf_text hr n hturns, extra_eq_nil hc, List.append_nil]

/-- What is printed shows that it is not the format: a square bracket is lost, it ends with a
complaint, or the weight has grown. -/
def Altered (format out : List Char) : Prop :=
  brackets out < brackets format ∨ out.getLast? = some ')' ∨ weight format < weight out

/-- A character that is copied keeps the difference. -/
theorem Altered.cons {format out : List Char} (h : Altered format out) (ch : Char) :
    Altered (ch :: format) (ch :: out) := by
  rcases h with hfewer | hlast | hmore
  · rw [Altered, brackets_cons ch out, brackets_cons ch format]
    exact .inl (Nat.add_lt_add_left hfewer _)
  · refine .inr (.inl ?_)
    rw [List.getLast?_cons, hlast]
    rfl
  · rw [Altered, weight_cons, weight_cons]
    exact .inr (.inr (Int.add_lt_add_left hmore _))

/-- An altered text is another one, unless it ends like a complaint. -/
theorem Altered.ne {format out : List Char} (h : Altered format out)
    (hlast : format.getLast? ≠ some ')') : out ≠ format := by
  rintro rfl
  rcases h with hlt | hend | hlt
  · exact Nat.lt_irrefl _ hlt
  · exact hlast hend
  · exact Int.lt_irrefl _ hlt

/-- A directive without an operand alters the format, whatever follows it. -/
theorem altered_directive (hc : c.argNum ≠ 0) {out : List Char}
    (hle : brackets out ≤ brackets (directive 0 c r).2.2)
    (hrest : (directive 0 c r).2.1.argNum ≠ 0 →
      out = (directive 0 c r).2.2 ∨
        '%' ∈ (directive 0 c r).2.2 ∧ Altered (directive 0 c r).2.2 out) :
    Altered ('%' :: r) ((directive 0 c r).1 ++ out) := by
  have hstep := directive_brackets_le c r
  have hcons := brackets_cons '%' r
  rw [Altered, brackets_append, weight_append, List.getLast?_append]
  rcases directive_weight_lt hc r with hlt | ⟨harg, ⟨hnil, hlast⟩ | hlt⟩
  · exact .inl (by omega)
  · rw [hnil] at hrest
    rcases hrest harg with rfl | ⟨hmem, -⟩
    · exact .inr (.inl hlast)
    · cases hmem
  · rcases hrest harg with rfl | ⟨-, hfewer | hend | hmore⟩
    · exact .inr (.inr hlt)
    · exact .inl (by omega)
    · exact .inr (.inl (by rw [hend, Option.some_or]))
    · exact .inr (.inr (by omega))

/-- Without an operand left, a format with a directive is altered. -/
theorem doPrintf_altered {turns : Nat} (hturns : r.length < turns) (hc : c.argNum ≠ 0)
    (hr : '%' ∈ r) : Altered r (doPrintf 0 turns c r) := by
  induction turns generalizing c r with
  | zero => omega
  | succ turns ih =>
    cases r with
    | nil => cases hr
    | cons ch r =>
      rw [List.length_cons] at hturns
      by_cases hch : ch = '%'
      · subst hch
        have hlength := (directive_suffix 0 c r).length_le
        rw [doPrintf_percent]
        refine altered_directive hc (doPrintf_brackets_le _ _ _) fun harg => ?_
        by_cases hmore : '%' ∈ (directive 0 c r).2.2
        · exact .inr ⟨hmore, ih (by omega) harg hmore⟩
        · exact .inl (doPrintf_eq_self hmore (by omega) harg)
      · have hr' : '%' ∈ r := (List.mem_cons.mp hr).resolve_left (Ne.symm hch)
        rw [doPrintf_cons hch]
        exact (ih (by omega) hc hr').cons ch

/-- A template with one decimal directive renders to its text around the ordinal zero exactly when
there is no other percent sign after it. -/
theorem sprintf_decimal_zero_iff {p q : String} (hp : '%' ∉ p.toList)
    (hq : q.toList.getLast? ≠ some ')') :
    sprintf (p ++ "%d" ++ q) 0 = p ++ toString 0 ++ q ↔ '%' ∉ q.toList := by
  constructor
  · intro h hmem
    have hl := congrArg String.toList h
    rw [String.append_assoc, String.append_assoc, sprintf_append hp] at hl
    have hformat : ("%d" ++ q).toList = '%' :: 'd' :: q.toList := by simp
    rw [sprintf, hformat, doPrintf_percent, directive_decimal] at hl
    simp only [String.toList_append, String.toList_ofList, List.append_cancel_left_eq] at hl
    refine (doPrintf_altered ?_ Nat.one_ne_zero hmem).ne hq hl
    simp only [List.length_cons]
    omega
  · intro hmem
    exact sprintf_decimal hp hmem 0

end HdfsOperator.Printf
