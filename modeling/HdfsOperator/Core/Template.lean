import Mathlib.Data.List.DropRight

/-!
# Text templates

A template is a text with actions between double braces. The actions here print a field of the
data, or open and close a block that depends on a field; templates with other actions are
refused. A dash after the opening braces removes the white space before them. A template with
one block is rendered to the text around the block, and the fields of the block between. Other
parsers may know more actions, as long as they agree on such templates.
-/

namespace HdfsOperator.Template

/-- A value of the data. -/
inductive Value
  | bool (b : Bool)
  | text (s : String)
  deriving DecidableEq

/-- What is printed for a field; a field that is not there prints a note. -/
def print : Option Value → List Char
  | some (.bool b) => (toString b).toList
  | some (.text s) => s.toList
  | none => "<no value>".toList

/-- Whether the condition on a field holds. -/
def truth : Option Value → Bool
  | some (.bool b) => b
  | some (.text s) => s ≠ ""
  | none => false

@[simp] theorem truth_bool (b : Bool) : truth (some (.bool b)) = b := rfl

@[simp] theorem print_text (s : String) : print (some (.text s)) = s.toList := rfl

/-- What stands between braces. -/
inductive Action
  | field (key : String)
  | cond (key : String)
  | close
  deriving DecidableEq

/-- A part of a template. -/
inductive Token
  | text (t : List Char)
  | action (a : Action)
  deriving DecidableEq

/-- The text is printed if the conditions of all blocks around it hold. -/
def emit (active : List Bool) (t : List Char) : List Char := if active.all id then t else []

/-- The output of the tokens; `active` has an entry for each block that is open. -/
def exec (data : String → Option Value) : List Bool → List Token → Except String (List Char)
  | [], [] => .ok []
  | _ :: _, [] => .error "unexpected EOF"
  | active, .text t :: ts => (emit active t ++ ·) <$> exec data active ts
  | active, .action (.field key) :: ts =>
    (emit active (print (data key)) ++ ·) <$> exec data active ts
  | active, .action (.cond key) :: ts => exec data (truth (data key) :: active) ts
  | [], .action .close :: _ => .error "unexpected end"
  | _ :: active, .action .close :: ts => exec data active ts

/-- White space. -/
def isSpace (ch : Char) : Bool := ch == ' ' || ch == '\t' || ch == '\r' || ch == '\n'

/-- What stands before and after the first two characters `ch` in a row. -/
def cut (ch : Char) : List Char → Option (List Char × List Char)
  | a :: b :: r =>
    if a = ch ∧ b = ch then some ([], r) else (cut ch (b :: r)).map fun p => (a :: p.1, p.2)
  | _ => none

/-- What is cut at a pair of characters is put together again with the pair. -/
theorem eq_append_of_cut {ch : Char} {l a b : List Char} (h : cut ch l = some (a, b)) :
    l = a ++ ch :: ch :: b := by
  induction l generalizing a with
  | nil => cases h
  | cons x l ih =>
    cases l with
    | nil => cases h
    | cons y r =>
      rw [cut] at h
      split at h
      · next heq =>
        cases h
        rw [heq.1, heq.2]
        rfl
      · obtain ⟨p, hp, hpair⟩ := Option.map_eq_some_iff.mp h
        cases hpair
        rw [ih hp]
        rfl

/-- What follows the dash after the opening braces, if there is one. -/
def afterDash : List Char → Option (List Char)
  | '-' :: ch :: r => if isSpace ch then some r else none
  | _ => none

/-- A trim marker is read from the front. -/
theorem length_afterDash_le (r : List Char) : ((afterDash r).getD r).length ≤ r.length := by
  unfold afterDash
  split
  · split
    · simp only [Option.getD_some, List.length_cons]
      omega
    · exact le_rfl
  · exact le_rfl

/-- The key of a field. A point before a digit starts a number. -/
def parseField : List Char → Option String
  | '.' :: ch :: key =>
    if ch.isDigit = false ∧ (ch :: key).all (fun ch => ch.isAlphanum || ch == '_') then
      some (.ofList (ch :: key))
    else none
  | _ => none

/-- The action between braces. -/
def parseAction (inner : List Char) : Option Action :=
  match (inner.splitOnP isSpace).filter (· ≠ []) with
  | [w] => if w = "end".toList then some .close else (parseField w).map .field
  | [v, w] => if v = "if".toList then (parseField w).map .cond else none
  | _ => none

/-- The tokens of a template. -/
def tokens (input : List Char) : Except String (List Token) :=
  match _hopen : cut '{' input with
  | none => .ok [.text input]
  | some (before, r) =>
    match _hclose : cut '}' ((afterDash r).getD r) with
    | none => .error "unclosed action"
    | some (inner, rest) =>
      match parseAction inner with
      | none => .error "unexpected action"
      | some a =>
        (.text (if (afterDash r).isSome then before.rdropWhile isSpace else before) ::
          .action a :: ·) <$> tokens rest
termination_by input.length
decreasing_by
  have hlength := congrArg List.length (eq_append_of_cut _hopen)
  have hrest := congrArg List.length (eq_append_of_cut _hclose)
  have hdash := length_afterDash_le r
  simp only [List.length_append, List.length_cons] at hlength hrest
  omega

/-- The text of a template with its data. -/
def render (template : String) (data : String → Option Value) : Except String String := do
  let ts ← tokens template.toList
  let out ← exec data [] ts
  return .ofList out

/-- There is nothing to cut at a character that does not occur. -/
theorem cut_of_notMem {ch : Char} {l : List Char} (h : ch ∉ l) : cut ch l = none := by
  induction l with
  | nil => rfl
  | cons a l ih =>
    rw [List.mem_cons, not_or] at h
    cases l with
    | nil => rfl
    | cons b r => rw [cut, if_neg fun heq => h.1 heq.1.symm, ih h.2, Option.map_none]

/-- What is found behind a text in which nothing is found, and which does not end in the character
that is looked for. -/
theorem cut_append {ch : Char} {l : List Char} (h : cut ch l = none)
    (hlast : l.getLast? ≠ some ch) (r : List Char) :
    cut ch (l ++ r) = (cut ch r).map fun p => (l ++ p.1, p.2) := by
  induction l with
  | nil => simp
  | cons a l ih =>
    cases l with
    | nil =>
      have ha : a ≠ ch := fun heq => hlast (by rw [heq]; rfl)
      cases r with
      | nil => rfl
      | cons b r =>
        rw [List.singleton_append, cut, if_neg fun heq => ha heq.1]
        rfl
    | cons b l =>
      rw [cut] at h
      split at h
      · cases h
      · next hne =>
        rw [List.cons_append, List.cons_append, cut, if_neg hne, ← List.cons_append,
          ih (Option.map_eq_none_iff.mp h) (by simpa using hlast), Option.map_map]
        rfl

/-- The first pair is found, if no character before it completes one. -/
theorem cut_append_pair {ch : Char} {l : List Char} (h : cut ch l = none)
    (hlast : l.getLast? ≠ some ch) (r : List Char) :
    cut ch (l ++ ch :: ch :: r) = some (l, r) := by
  rw [cut_append h hlast, cut, if_pos ⟨rfl, rfl⟩]
  simp

/-- A text without an action, and without the start of one at its end. -/
def Plain (t : List Char) : Prop := cut '{' t = none ∧ t.getLast? ≠ some '{'

instance (t : List Char) : Decidable (Plain t) := inferInstanceAs (Decidable (_ ∧ _))

/-- Text without an opening brace is plain. -/
theorem plain_of_notMem {t : List Char} (h : '{' ∉ t) : Plain t :=
  ⟨cut_of_notMem h, fun hlast => h (List.mem_of_getLast? hlast)⟩

/-- Plain texts can be joined. -/
theorem Plain.append {t t' : List Char} (h : Plain t) (h' : Plain t') : Plain (t ++ t') := by
  constructor
  · rw [cut_append h.1 h.2, h'.1]
    rfl
  · cases t' with
    | nil =>
      rw [List.append_nil]
      exact h.2
    | cons ch t' =>
      rw [List.getLast?_append_of_ne_nil _ (List.cons_ne_nil ch t')]
      exact h'.2

/-- Literals are compared as lists of characters, without their encoding. -/
theorem plain_toList {s : String} {l : List Char} (hs : s = .ofList l) (hl : Plain l) :
    Plain s.toList := by
  rw [hs, String.toList_ofList]
  exact hl

theorem plain_append {a b : String} (ha : Plain a.toList) (hb : Plain b.toList) :
    Plain (a ++ b).toList := by
  rw [String.toList_append]
  exact ha.append hb

/-- Plain texts can be joined with a plain separator. -/
theorem plain_intercalate {sep : String} {l : List String} (hsep : Plain sep.toList)
    (hl : ∀ s ∈ l, Plain s.toList) : Plain (sep.intercalate l).toList := by
  rw [String.toList_intercalate]
  induction l with
  | nil => exact plain_of_notMem List.not_mem_nil
  | cons a l ih =>
    have ha := hl a List.mem_cons_self
    have hrest := ih fun s hs => hl s (List.mem_cons_of_mem _ hs)
    cases l with
    | nil =>
      rw [List.map_singleton, List.intercalate_singleton]
      exact ha
    | cons b l =>
      rw [List.map_cons, List.map_cons, List.intercalate_cons_cons]
      exact (ha.append hsep).append hrest

/-- A plain text is one token. -/
theorem tokens_of_plain {t : List Char} (h : Plain t) : tokens t = .ok [.text t] := by
  rw [tokens]
  split
  · rfl
  · next hcut =>
    rw [h.1] at hcut
    cases hcut

/-- Rendering is scanning and then executing. -/
theorem render_eq {template : String} {data : String → Option Value} {ts : List Token}
    {out : List Char} (hts : tokens template.toList = .ok ts) (hout : exec data [] ts = .ok out) :
    render template data = .ok (.ofList out) := by
  rw [render, hts]
  show (do
    let out ← exec data [] ts
    return String.ofList out) = _
  rw [hout]
  rfl

theorem exec_text (data : String → Option Value) (t : List Char) :
    exec data [] [.text t] = .ok t := by simp [exec, emit]

/-- A template without actions is rendered to itself. -/
theorem render_of_plain (data : String → Option Value) {t : String} (ht : Plain t.toList) :
    render t data = .ok t := by
  rw [render_eq (tokens_of_plain ht) (exec_text data t.toList), String.ofList_toList]

/-- The tokens of a text, an action and the rest. -/
theorem tokens_append {t r inner rest : List Char} {a : Action} (ht : Plain t)
    (hr : (afterDash r).getD r = inner ++ '}' :: '}' :: rest) (hinner : '}' ∉ inner)
    (ha : parseAction inner = some a) :
    tokens (t ++ '{' :: '{' :: r) =
      (.text (if (afterDash r).isSome then t.rdropWhile isSpace else t) :: .action a :: ·) <$>
        tokens rest := by
  have hclose : cut '}' ((afterDash r).getD r) = some (inner, rest) := by
    rw [hr]
    exact cut_append_pair (cut_of_notMem hinner) (fun hl => hinner (List.mem_of_getLast? hl)) rest
  rw [tokens]
  split
  · next hcut =>
    rw [cut_append_pair ht.1 ht.2] at hcut
    cases hcut
  · next hcut =>
    rw [cut_append_pair ht.1 ht.2] at hcut
    cases hcut
    split
    · next hcut =>
      rw [hclose] at hcut
      cases hcut
    · next hcut =>
      rw [hclose] at hcut
      cases hcut
      rw [ha]

/-- White space, and an action with a dash. -/
structure Marked where
  space : List Char
  inner : List Char
  space_isSpace : ∀ ch ∈ space, isSpace ch = true
  closed : '}' ∉ inner

/-- The text of an action with a dash. -/
def Marked.text (m : Marked) : List Char :=
  m.space ++ ['{', '{', '-', ' '] ++ m.inner ++ ['}', '}']

/-- White space opens no action. -/
theorem isSpace_ne_open {ch : Char} (h : isSpace ch = true) : ch ≠ '{' := by
  rintro rfl
  exact absurd h (by decide)

/-- An action is two tokens, the text before it being empty. -/
theorem Marked.tokens_append (m : Marked) {a : Action} (ha : parseAction m.inner = some a)
    (rest : List Char) :
    tokens (m.text ++ rest) = (.text [] :: .action a :: ·) <$> tokens rest := by
  have hplain : Plain m.space := plain_of_notMem fun h => isSpace_ne_open (m.space_isSpace _ h) rfl
  have hdash : afterDash ('-' :: ' ' :: (m.inner ++ '}' :: '}' :: rest)) =
      some (m.inner ++ '}' :: '}' :: rest) := rfl
  have htrim : m.space.rdropWhile isSpace = [] :=
    List.rdropWhile_eq_nil_iff.mpr m.space_isSpace
  have htext : m.text ++ rest =
      m.space ++ '{' :: '{' :: '-' :: ' ' :: (m.inner ++ '}' :: '}' :: rest) := by
    simp [text]
  rw [htext, Template.tokens_append hplain (by rw [hdash]; rfl) m.closed ha, hdash, htrim]
  rfl

/-- A block of fields that depends on a field. -/
structure Block where
  /-- What stands between the braces that open the block, after a blank. -/
  inner : List Char
  closed : '}' ∉ inner
  key : String
  parseAction_inner : parseAction (' ' :: inner) = some (.cond key)
  /-- The actions in the block, with the keys of the fields that they print. -/
  fields : List (Marked × String)
  parseAction_fields : ∀ f ∈ fields, parseAction f.1.inner = some (.field f.2)
  /-- The end of the block. -/
  last : Marked
  parseAction_last : parseAction last.inner = some .close

namespace Block

/-- The text of a block. -/
def text (b : Block) : List Char :=
  ['{', '{', ' '] ++ b.inner ++ ['}', '}'] ++ b.fields.flatMap (fun f => f.1.text) ++ b.last.text

/-- What a block prints. -/
def output (b : Block) (data : String → Option Value) : List Char :=
  if truth (data b.key) then b.fields.flatMap fun f => print (data f.2) else []

/-- A block writes its fields if its condition is true, and nothing otherwise. -/
theorem output_eq (b : Block) (data : String → Option Value) :
    b.output data = if truth (data b.key) then
      (b.fields.map Prod.snd).flatMap fun key => print (data key) else [] := by
  rw [output, List.flatMap_map]

/-- The tokens of fields. -/
def fieldTokens (keys : List String) : List Token :=
  keys.flatMap fun key => [.text [], .action (.field key)]

/-- The tokens of the fields of a block. -/
theorem tokens_fields {fields : List (Marked × String)}
    (h : ∀ f ∈ fields, parseAction f.1.inner = some (.field f.2)) (rest : List Char) :
    tokens (fields.flatMap (fun f => f.1.text) ++ rest) =
      (fieldTokens (fields.map Prod.snd) ++ ·) <$> tokens rest := by
  induction fields with
  | nil => simp [fieldTokens]
  | cons f fields ih =>
    rw [List.flatMap_cons, List.append_assoc, f.1.tokens_append (h f List.mem_cons_self),
      ih fun f' hf' => h f' (List.mem_cons_of_mem _ hf')]
    cases tokens rest <;> rfl

/-- The tokens of a text, a block and the rest. -/
theorem tokens_append (b : Block) {t : List Char} (ht : Plain t) (rest : List Char) :
    tokens (t ++ b.text ++ rest) =
      (.text t :: .action (.cond b.key) :: fieldTokens (b.fields.map Prod.snd) ++
        .text [] :: .action .close :: ·) <$> tokens rest := by
  let inside := b.fields.flatMap (fun f => f.1.text) ++ (b.last.text ++ rest)
  have htext : t ++ b.text ++ rest =
      t ++ '{' :: '{' :: ' ' :: (b.inner ++ '}' :: '}' :: inside) := by
    simp [text, inside]
  have hdash : afterDash (' ' :: (b.inner ++ '}' :: '}' :: inside)) = none := rfl
  have hclosed : '}' ∉ ' ' :: b.inner := by
    rw [List.mem_cons, not_or]
    exact ⟨by decide, b.closed⟩
  rw [htext, Template.tokens_append ht (by rw [hdash]; rfl) hclosed b.parseAction_inner, hdash,
    tokens_fields b.parseAction_fields, b.last.tokens_append b.parseAction_last]
  cases tokens rest <;> simp

/-- The fields of a block are written if all conditions around them are true. -/
theorem exec_fields (data : String → Option Value) (active : List Bool) (keys : List String)
    (ts : List Token) :
    exec data active (fieldTokens keys ++ ts) =
      (emit active (keys.flatMap fun key => print (data key)) ++ ·) <$> exec data active ts := by
  induction keys with
  | nil => cases h : exec data active ts <;> simp [fieldTokens, emit, h]
  | cons key keys ih =>
    have htokens : fieldTokens (key :: keys) ++ ts =
        .text [] :: .action (.field key) :: (fieldTokens keys ++ ts) := by simp [fieldTokens]
    have hemit (t t' : List Char) : emit active (t ++ t') = emit active t ++ emit active t' := by
      unfold emit
      split <;> simp
    rw [htokens, exec, exec, ih, List.flatMap_cons, hemit]
    cases exec data active ts <;> simp [emit]

/-- A text, a block and what follows. -/
theorem exec_append (b : Block) (data : String → Option Value) (t : List Char) (ts : List Token) :
    exec data [] (.text t :: .action (.cond b.key) :: fieldTokens (b.fields.map Prod.snd) ++
        .text [] :: .action .close :: ts) =
      (t ++ b.output data ++ ·) <$> exec data [] ts := by
  rw [List.cons_append, List.cons_append, exec, exec, exec_fields, exec, exec, output_eq]
  cases exec data [] ts <;> cases truth (data b.key) <;> simp [emit]

/-- A template with one block is rendered to the text around it and what the block prints. -/
theorem render_append (b : Block) (data : String → Option Value) {t t' : String}
    (ht : Plain t.toList) (ht' : Plain t'.toList) :
    render (t ++ .ofList b.text ++ t') data = .ok (t ++ .ofList (b.output data) ++ t') := by
  have htext : (t ++ .ofList b.text ++ t').toList = t.toList ++ b.text ++ t'.toList := by simp
  have htokens := b.tokens_append ht t'.toList
  rw [← htext, tokens_of_plain ht'] at htokens
  have hexec := b.exec_append data t.toList [.text t'.toList]
  rw [exec_text] at hexec
  rw [render_eq htokens hexec]
  simp [String.append_assoc]

end Block

/-- Anything that renders templates. -/
abbrev Parser := String → (String → Option Value) → Except String String

/-- What is assumed of a parser: a text without actions is its own result, and a block is replaced
by what it prints. -/
structure Parser.Lawful (parser : Parser) : Prop where
  plain : ∀ (data : String → Option Value) {t : String}, Plain t.toList → parser t data = .ok t
  block : ∀ (b : Block) (data : String → Option Value) {t t' : String}, Plain t.toList →
    Plain t'.toList →
      parser (t ++ .ofList b.text ++ t') data = .ok (t ++ .ofList (b.output data) ++ t')

/-- The renderer of this module behaves as the hypothesis says. -/
theorem render_lawful : Parser.Lawful render := ⟨render_of_plain, Block.render_append⟩

end HdfsOperator.Template
