import Mathlib.Algebra.GroupWithZero.Nat
import Mathlib.Data.List.Basic

/-!
# Reading and writing XML text

Text is written escaped, as `encoding/xml` writes it: markup characters, quotes, tabs
and line breaks become references, and a character that XML cannot hold becomes the
replacement character. The reader is a machine over characters that follows the strict
decoder of that package, with names in ASCII. It hands every finished token to a
`Handler` and stops when the handler has seen its document element closed. Reading
escaped text back gives the text, up to the replacements.
-/

namespace HdfsOperator.Xml

/-- The characters that an XML document may hold. -/
def inCharacterRange (c : Char) : Bool :=
  c == '\t' || c == '\n' || c == '\r' ||
    decide (0x20 ≤ c.toNat ∧ c.toNat ≠ 0xFFFE ∧ c.toNat ≠ 0xFFFF)

/-- What a reader gets for a written character. -/
def replaceChar (c : Char) : Char := if inCharacterRange c then c else Char.ofNat 0xFFFD

/-- The written form of one character. -/
def escapeChar (c : Char) : List Char :=
  if c.toNat = 34 then "&#34;".toList
  else if c.toNat = 39 then "&#39;".toList
  else if c = '&' then "&amp;".toList
  else if c = '<' then "&lt;".toList
  else if c = '>' then "&gt;".toList
  else if c = '\t' then "&#x9;".toList
  else if c = '\n' then "&#xA;".toList
  else if c = '\r' then "&#xD;".toList
  else [replaceChar c]

/-- The written form of a text. -/
def escapeText (s : String) : String := String.ofList (s.toList.flatMap escapeChar)

/-- The text that a reader gets for a written text. -/
def replaceText (s : String) : String := String.ofList (s.toList.map replaceChar)

/-- A text that XML can hold unchanged. -/
def XmlText (s : String) : Prop := ∀ c ∈ s.toList, inCharacterRange c = true

instance (s : String) : Decidable (XmlText s) := List.decidableBAll _ s.toList

theorem replaceText_toList (s : String) : (replaceText s).toList = s.toList.map replaceChar := by
  simp [replaceText]

@[simp] theorem length_replaceText (s : String) : (replaceText s).length = s.length := by
  rw [← String.length_toList, replaceText_toList, List.length_map, String.length_toList]

theorem replaceText_append (s t : String) :
    replaceText (s ++ t) = replaceText s ++ replaceText t := by
  apply String.toList_inj.mp
  simp [replaceText_toList]

/-- Text that XML can hold is left as it is. -/
theorem replaceText_of_xmlText {s : String} (h : XmlText s) : replaceText s = s := by
  apply String.toList_inj.mp
  rw [replaceText_toList]
  exact (List.map_congr_left fun c hc => ite_cond_eq_true _ _ (eq_true (h c hc))).trans
    (List.map_id' _)

/-- A replaced text that starts with a text without replacement characters has that start
already. -/
theorem replaceText_eq_append {s a b : String} (ha : Char.ofNat 0xFFFD ∉ a.toList)
    (h : replaceText s = a ++ b) : ∃ t, s = a ++ t ∧ replaceText t = b := by
  have hl := congrArg String.toList h
  rw [replaceText_toList, String.toList_append, List.map_eq_append_iff] at hl
  obtain ⟨l, r, hsplit, hl, hr⟩ := hl
  have hkept : l.map replaceChar = l := by
    conv_rhs => rw [← List.map_id l]
    refine List.map_congr_left fun c hc => ?_
    have hmem : replaceChar c ∈ a.toList := hl ▸ List.mem_map_of_mem hc
    unfold replaceChar at hmem ⊢
    split at hmem
    · next hrange => rw [if_pos hrange, id]
    · exact absurd hmem ha
  refine ⟨String.ofList r, String.toList_inj.mp ?_, String.toList_inj.mp ?_⟩
  · rw [String.toList_append, String.toList_ofList, hsplit, ← hl, hkept]
  · rw [replaceText_toList, String.toList_ofList, hr]

/-- What is written instead of a character is in range. -/
theorem inCharacterRange_replaceChar (c : Char) : inCharacterRange (replaceChar c) = true := by
  unfold replaceChar
  split
  · assumption
  · decide

/-- What is written can be held by XML. -/
theorem xmlText_replaceText (s : String) : XmlText (replaceText s) := by
  intro c hc
  rw [replaceText_toList, List.mem_map] at hc
  obtain ⟨b, _, rfl⟩ := hc
  exact inCharacterRange_replaceChar b

theorem XmlText.append {s t : String} (hs : XmlText s) (ht : XmlText t) : XmlText (s ++ t) := by
  intro c hc
  rw [String.toList_append, List.mem_append] at hc
  exact hc.elim (hs c) (ht c)

/-- The characters that are written as they are. -/
def plainChar (c : Char) : Bool :=
  inCharacterRange c && c.toNat != 34 && c.toNat != 39 && c != '&' && c != '<' && c != '>' &&
    c != '\t' && c != '\n' && c != '\r'

/-- A text that is written as it is. -/
def PlainText (s : String) : Prop := ∀ c ∈ s.toList, plainChar c = true

instance (s : String) : Decidable (PlainText s) := List.decidableBAll _ s.toList

theorem PlainText.append {s t : String} (hs : PlainText s) (ht : PlainText t) :
    PlainText (s ++ t) := by
  intro c hc
  rw [String.toList_append, List.mem_append] at hc
  exact hc.elim (hs c) (ht c)

/-- Plain text can be held by XML. -/
theorem PlainText.xmlText {s : String} (h : PlainText s) : XmlText s := by
  intro c hc
  have hplain := h c hc
  simp only [plainChar, Bool.and_eq_true] at hplain
  tauto

/-- Visible ASCII characters after the quotes are plain, apart from the angle brackets. -/
theorem plainChar_of_ascii {c : Char} (hlow : 40 ≤ c.toNat) (hhigh : c.toNat < 127)
    (hlt : c ≠ '<') (hgt : c ≠ '>') : plainChar c = true := by
  have hne {d : Char} (hd : d.toNat < 40) : c ≠ d := by
    rintro rfl
    omega
  have hamp : c ≠ '&' := hne (by decide)
  have htab : c ≠ '\t' := hne (by decide)
  have hnl : c ≠ '\n' := hne (by decide)
  have hcr : c ≠ '\r' := hne (by decide)
  have hrange : inCharacterRange c = true := by
    simp only [inCharacterRange, Bool.or_eq_true, decide_eq_true_eq]
    omega
  have hquotes : c.toNat ≠ 34 ∧ c.toNat ≠ 39 := by omega
  simp [plainChar, *]

/-- Plain characters need no escape. -/
theorem escapeChar_of_plain {c : Char} (h : plainChar c = true) : escapeChar c = [c] := by
  simp only [plainChar, Bool.and_eq_true, bne_iff_ne, ne_eq] at h
  simp [escapeChar, replaceChar, h]

/-- Plain text is written as it is. -/
theorem escapeText_of_plain {s : String} (h : PlainText s) : escapeText s = s := by
  apply String.toList_inj.mp
  rw [escapeText, String.toList_ofList, List.flatMap_congr fun c hc => escapeChar_of_plain (h c hc)]
  exact List.flatMap_singleton' _

/-- The name of an element: what stands before the colon, and what the reader goes by. -/
structure Name where
  space : String
  localPart : String
  deriving DecidableEq

/-- What the reader recognises. -/
inductive Token
  | startElement (name : Name)
  | endElement (name : Name)
  | charData (data : List Char)
  deriving DecidableEq

/-- Where the reader stands in the text. -/
inductive Mode
  /-- In character data: what was read of it, and the number of closing brackets just read. -/
  | text (data : List Char) (brackets : Nat)
  /-- In character data, right after a carriage return. -/
  | carriage (data : List Char)
  /-- In a reference inside character data. -/
  | entity (data name : List Char)
  /-- Right after an opening angle bracket. -/
  | markup
  | startTag (name : List Char)
  /-- In a start tag, before an attribute or its end. -/
  | tag (name : Name)
  /-- After the slash of an element without content. -/
  | emptyTag (name : Name)
  | attrName (name : Name) (attr : List Char)
  /-- After the name of an attribute. -/
  | attrEquals (name : Name)
  /-- After the equals sign of an attribute. -/
  | attrValue (name : Name)
  | quoted (name : Name) (quote : Char)
  /-- In a reference inside the value of an attribute. -/
  | quotedEntity (name : Name) (quote : Char) (ref : List Char)
  | endTag (name : List Char)
  /-- After the name of an end tag. -/
  | endTagSpace (name : Name)
  /-- In the target of a processing instruction. -/
  | procTarget (target : List Char)
  | procInst (target data : List Char)
  /-- Right after `<!`. -/
  | bang
  /-- Right after `<!-`. -/
  | bangDash
  /-- After `<![`. -/
  | bangBracket (seen : List Char)
  /-- In a comment, with the number of dashes just read. -/
  | comment (dashes : Nat)
  | cdata (data : List Char)
  /-- In a literal section, right after a carriage return. -/
  | cdataCarriage (data : List Char)
  /-- In a directive: the open quote, and the number of angle brackets open inside it. -/
  | directive (quote : Option Char) (depth : Nat)
  /-- In a directive, after an angle bracket that may open a comment. -/
  | directiveOpen (depth : Nat) (seen : List Char)
  /-- In a comment of a directive, with the number of dashes just read. -/
  | directiveComment (depth dashes : Nat)

/-- White space between the parts of a tag. -/
def isBlank (c : Char) : Bool := c == ' ' || c == '\t' || c == '\n' || c == '\r'

/-- The quotes around the value of an attribute. -/
def isQuote (c : Char) : Bool := c.toNat == 34 || c.toNat == 39

/-- The ASCII characters of names; the reader accepts no others. -/
def isNameByte (c : Char) : Bool :=
  c.isAlphanum || c == '_' || c == ':' || c == '.' || c == '-'

/-- A name starts with a letter, an underscore or a colon. -/
def isName : List Char → Bool
  | [] => false
  | c :: cs => (c.isAlpha || c == '_' || c == ':') && cs.all isNameByte

/-- The parts of a name; more than one colon is refused, and one at either end is a character of
the name. -/
def nsname (s : List Char) : Option Name :=
  if !isName s || 1 < s.count ':' then none
  else
    let space := s.takeWhile (· != ':')
    let rest := (s.dropWhile (· != ':')).drop 1
    some (if space = [] || rest = [] then ⟨"", String.ofList s⟩
      else ⟨String.ofList space, String.ofList rest⟩)

/-- The character number of a hexadecimal digit. -/
def hexDigit (c : Char) : Option Nat :=
  if c.isDigit then some (c.toNat - 48)
  else if 97 ≤ c.toNat && c.toNat ≤ 102 then some (c.toNat - 87)
  else if 65 ≤ c.toNat && c.toNat ≤ 70 then some (c.toNat - 55)
  else none

/-- A number written in the given base, at least one digit long. -/
def readNumber (base : Nat) (digits : List Char) : Option Nat :=
  if digits.isEmpty then none
  else digits.foldlM (fun n c => (hexDigit c).bind fun k =>
    if k < base then some (n * base + k) else none) 0

/-- The character that a reference names. -/
def resolveEntity : List Char → Option Char
  | ['l', 't'] => some '<'
  | ['g', 't'] => some '>'
  | ['a', 'm', 'p'] => some '&'
  | ['a', 'p', 'o', 's'] => some (Char.ofNat 39)
  | ['q', 'u', 'o', 't'] => some (Char.ofNat 34)
  | '#' :: 'x' :: digits => (readNumber 16 digits).bind fun n =>
    if n ≤ 0x10FFFF then some (if n.isValidChar then Char.ofNat n else Char.ofNat 0xFFFD) else none
  | '#' :: digits => (readNumber 10 digits).bind fun n =>
    if n ≤ 0x10FFFF then some (if n.isValidChar then Char.ofNat n else Char.ofNat 0xFFFD) else none
  | _ => none

/-- The character of a reference, if a document may hold it. -/
def readEntity (ref : List Char) : Option Char :=
  (resolveEntity ref).bind fun r => if inCharacterRange r then some r else none

/-- The quoted text after the first `param` that a quote follows, or nothing; `skip` characters
are passed over first. -/
def procInst (param : List Char) : Nat → List Char → List Char
  | _, [] => []
  | skip + 1, _ :: s => procInst param skip s
  | 0, c :: s =>
    if param.isPrefixOf (c :: s) then
      match (c :: s).drop param.length with
      | [] => []
      | q :: v =>
        if isQuote q then (if q ∈ v then v.takeWhile (· != q) else [])
        -- The character after the equals sign is passed over too.
        else procInst param param.length s
    else procInst param 0 s

/-- An XML declaration of a document that the reader reads: version 1.0, in UTF-8. -/
def declarationRead (content : List Char) : Bool :=
  (procInst "version=".toList 0 content ∈ ["".toList, "1.0".toList]) &&
    (procInst "encoding=".toList 0 content).map Char.toLower ∈ ["".toList, "utf-8".toList]

/-- One more character of character data. -/
def textStep (data : List Char) (brackets : Nat) (c : Char) : Option (Mode × List Token) :=
  if c = '>' ∧ 2 ≤ brackets then none
  else if c = '<' then some (.markup, [.charData data])
  else if c = '&' then some (.entity data [], [])
  else if c = '\r' then some (.carriage (data ++ ['\n']), [])
  else if inCharacterRange c then
    some (.text (data ++ [c]) (if c = ']' then brackets + 1 else 0), [])
  else none

/-- One more character of a start tag, after its name and between its attributes. -/
def tagStep (name : Name) (c : Char) : Option (Mode × List Token) :=
  if isBlank c then some (.tag name, [])
  else if c = '/' then some (.emptyTag name, [])
  else if c = '>' then some (.text [] 0, [.startElement name])
  else if isNameByte c then some (.attrName name [c], [])
  else none

/-- One more character after the name of an attribute. -/
def equalsStep (name : Name) (c : Char) : Option (Mode × List Token) :=
  if isBlank c then some (.attrEquals name, [])
  else if c = '=' then some (.attrValue name, [])
  else none

/-- One more character after the name of an end tag. -/
def endTagStep (name : Name) (c : Char) : Option (Mode × List Token) :=
  if isBlank c then some (.endTagSpace name, [])
  else if c = '>' then some (.text [] 0, [.endElement name])
  else none

/-- One more character of a processing instruction, after its target. -/
def procStep (target data : List Char) (c : Char) : Option (Mode × List Token) :=
  if data = [] && isBlank c then some (.procInst target data, [])
  else if c = '>' && data.getLast? = some '?' then
    if target = "xml".toList && !declarationRead data.dropLast then none else some (.text [] 0, [])
  else some (.procInst target (data ++ [c]), [])

/-- One more character of a literal section. -/
def cdataStep (data : List Char) (c : Char) : Option (Mode × List Token) :=
  if c = '>' && data.reverse.take 2 = [']', ']'] then
    some (.text [] 0, [.charData (data.take (data.length - 2))])
  else if c = '\r' then some (.cdataCarriage (data ++ ['\n']), [])
  else if inCharacterRange c then some (.cdata (data ++ [c]), [])
  else none

/-- One more character of a directive: quotes protect angle brackets, and an opening bracket may
start a comment. -/
def directiveStep (quote : Option Char) (depth : Nat) (c : Char) : Mode :=
  if quote = some c then .directive none depth
  else if quote.isSome then .directive quote depth
  else if isQuote c then .directive (some c) depth
  else if c = '>' then .directive none (depth - 1)
  else if c = '<' then .directiveOpen depth []
  else .directive none depth

/-- One character of the text: the new mode and the tokens it finishes. -/
def step : Mode → Char → Option (Mode × List Token)
  | .text data brackets, c => textStep data brackets c
  | .carriage data, c => if c = '\n' then some (.text data 0, []) else textStep data 0 c
  | .entity data name, c =>
    if c = ';' then (readEntity name).map fun r => (.text (data ++ [r]) 0, [])
    else some (.entity data (name ++ [c]), [])
  | .markup, c =>
    if c = '/' then some (.endTag [], [])
    else if c = '?' then some (.procTarget [], [])
    else if c = '!' then some (.bang, [])
    else if isNameByte c then some (.startTag [c], [])
    else none
  | .startTag name, c =>
    if isNameByte c then some (.startTag (name ++ [c]), [])
    else (nsname name).bind fun n => tagStep n c
  | .tag name, c => tagStep name c
  | .emptyTag name, c =>
    if c = '>' then some (.text [] 0, [.startElement name, .endElement name]) else none
  | .attrName name attr, c =>
    if isNameByte c then some (.attrName name (attr ++ [c]), [])
    else (nsname attr).bind fun _ => equalsStep name c
  | .attrEquals name, c => equalsStep name c
  | .attrValue name, c =>
    if isBlank c then some (.attrValue name, [])
    else if isQuote c then some (.quoted name c, [])
    else none
  | .quoted name q, c =>
    if c = q then some (.tag name, [])
    else if c = '<' then none
    else if c = '&' then some (.quotedEntity name q [], [])
    else if inCharacterRange c then some (.quoted name q, [])
    else none
  | .quotedEntity name q ref, c =>
    if c = ';' then (readEntity ref).map fun _ => (.quoted name q, [])
    else some (.quotedEntity name q (ref ++ [c]), [])
  | .endTag name, c =>
    if isNameByte c then some (.endTag (name ++ [c]), [])
    else (nsname name).bind fun n => endTagStep n c
  | .endTagSpace name, c => endTagStep name c
  | .procTarget target, c =>
    if isNameByte c then some (.procTarget (target ++ [c]), [])
    else if isName target then procStep target [] c
    else none
  | .procInst target data, c => procStep target data c
  | .bang, c =>
    some (if c = '-' then .bangDash else if c = '[' then .bangBracket [] else .directive none 0, [])
  | .bangDash, c => if c = '-' then some (.comment 0, []) else none
  | .bangBracket seen, c =>
    if seen ++ [c] = "CDATA[".toList then some (.cdata [], [])
    else if (seen ++ [c]).isPrefixOf "CDATA[".toList then some (.bangBracket (seen ++ [c]), [])
    else none
  | .comment dashes, c =>
    if 2 ≤ dashes then (if c = '>' then some (.text [] 0, []) else none)
    else some (.comment (if c = '-' then dashes + 1 else 0), [])
  | .cdata data, c => cdataStep data c
  | .cdataCarriage data, c => if c = '\n' then some (.cdata data, []) else cdataStep data c
  | .directive quote depth, c =>
    some (if quote = none ∧ depth = 0 ∧ c = '>' then .text [] 0
      else directiveStep quote depth c, [])
  | .directiveOpen depth seen, c =>
    some (if seen ++ [c] = "!--".toList then .directiveComment depth 0
      else if (seen ++ [c]).isPrefixOf "!--".toList then .directiveOpen depth (seen ++ [c])
      else directiveStep none (depth + 1) c, [])
  | .directiveComment depth dashes, c =>
    some (if 2 ≤ dashes ∧ c = '>' then .directive none depth
      else .directiveComment depth (if c = '-' then dashes + 1 else 0), [])

/-- What is done with the tokens of a document. -/
structure Handler (σ : Type) where
  /-- One token; `none` refuses the document. -/
  token : σ → Token → Option σ
  /-- The document element has been closed: the rest of the text is not read. -/
  finished : σ → Bool

variable {σ : Type}

/-- A state together with the names of the elements that are open. -/
structure Nested (σ : Type) where
  opened : List Name
  state : σ

/-- The handler behind the check that every end tag closes the element opened last. -/
def nested (h : Handler σ) : Handler (Nested σ) where
  token s t :=
    match t, s.opened with
    | .startElement n, opened => (h.token s.state t).map (Nested.mk (n :: opened))
    | .endElement n, o :: opened =>
      if n = o then (h.token s.state t).map (Nested.mk opened) else none
    | .endElement _, [] => none
    | .charData _, opened => (h.token s.state t).map (Nested.mk opened)
  finished s := h.finished s.state

/-- A token that the check lets through is handed over. -/
theorem nested_token {h : Handler σ} {s s' : Nested σ} {t : Token}
    (ht : (nested h).token s t = some s') : h.token s.state t = some s'.state := by
  simp only [nested] at ht
  split at ht
  · obtain ⟨x, hx, rfl⟩ := Option.map_eq_some_iff.mp ht
    exact hx
  · split_ifs at ht
    obtain ⟨x, hx, rfl⟩ := Option.map_eq_some_iff.mp ht
    exact hx
  · cases ht
  · obtain ⟨x, hx, rfl⟩ := Option.map_eq_some_iff.mp ht
    exact hx

/-- One character of the text, with the tokens it finishes. -/
def feed (h : Handler σ) (at' : Mode × σ) (c : Char) : Option (Mode × σ) :=
  if h.finished at'.2 then some at'
  else (step at'.1 c).bind fun r => (r.2.foldlM h.token at'.2).map fun s => (r.1, s)

/-- The characters of a text, one after the other. -/
def feedAll (h : Handler σ) (at' : Mode × σ) (cs : List Char) : Option (Mode × σ) :=
  cs.foldlM (feed h) at'

/-- A text is read part by part. -/
theorem feedAll_append (h : Handler σ) (at' : Mode × σ) (a b : List Char) :
    feedAll h at' (a ++ b) = (feedAll h at' a).bind fun r => feedAll h r b := by
  simp [feedAll, List.foldlM_append, Option.bind_eq_bind]

/-- After a first part that can be read, the reader goes on from where it stands. -/
theorem feedAll_append_of_eq {h : Handler σ} {at' r : Mode × σ} {a : List Char}
    (ha : feedAll h at' a = some r) (b : List Char) :
    feedAll h at' (a ++ b) = feedAll h r b := by
  rw [feedAll_append, ha, Option.bind_some]

/-- A handler that has finished reads nothing more. -/
theorem feedAll_finished {h : Handler σ} {m : Mode} {s : σ} (hs : h.finished s = true)
    (cs : List Char) : feedAll h (m, s) cs = some (m, s) := by
  induction cs with
  | nil => rfl
  | cons c cs ih =>
    have hc : feed h (m, s) c = some (m, s) := by simp [feed, hs]
    simpa [feedAll, hc, Option.bind_eq_bind] using ih

/-- The name of a reference is read up to its semicolon. -/
theorem feedAll_entity {h : Handler σ} {s : σ} (hs : h.finished s = false)
    (data name : List Char) {rest : List Char} (hrest : ';' ∉ rest) :
    feedAll h (.entity data name, s) rest = some (.entity data (name ++ rest), s) := by
  induction rest generalizing name with
  | nil => simp [feedAll]
  | cons d rest ih =>
    simp only [List.mem_cons, not_or] at hrest
    have hstep : feed h (.entity data name, s) d = some (.entity data (name ++ [d]), s) := by
      simp [feed, hs, step, Ne.symm hrest.1]
    have hnext := ih (name ++ [d]) hrest.2
    simpa [feedAll, hstep, Option.bind_eq_bind] using hnext

/-- A reference is read as the character it stands for. -/
theorem feedAll_reference {h : Handler σ} {s : σ} (hs : h.finished s = false) (data : List Char)
    (brackets : Nat) {ref : List Char} {r : Char} (hr : resolveEntity ref = some r)
    (hrange : inCharacterRange r = true) (hsemi : ';' ∉ ref) :
    feedAll h (.text data brackets, s) ('&' :: ref ++ [';']) =
      some (.text (data ++ [r]) 0, s) := by
  have hamp : feedAll h (.text data brackets, s) ['&'] = some (.entity data [], s) := by
    simp [feedAll, feed, hs, step, textStep]
  rw [List.cons_append, ← List.singleton_append, feedAll_append_of_eq hamp,
    feedAll_append_of_eq (feedAll_entity hs data [] hsemi)]
  simp [feedAll, feed, hs, step, readEntity, hr, hrange]

/-- A character is written as a reference to it, or as one that needs none. -/
theorem escapeChar_cases (c : Char) :
    (∃ ref, escapeChar c = '&' :: ref ++ [';'] ∧ ';' ∉ ref ∧ resolveEntity ref = some c ∧
      inCharacterRange c = true) ∨
    escapeChar c = [replaceChar c] ∧ replaceChar c ≠ '<' ∧ replaceChar c ≠ '>' ∧
      replaceChar c ≠ '&' ∧ replaceChar c ≠ '\r' := by
  unfold escapeChar
  split
  · next hq =>
    have hc : c = Char.ofNat 34 := by rw [← hq, Char.ofNat_toNat]
    subst hc
    exact .inl ⟨"#34".toList, rfl, by decide, by decide, by decide⟩
  split
  · next hq =>
    have hc : c = Char.ofNat 39 := by rw [← hq, Char.ofNat_toNat]
    subst hc
    exact .inl ⟨"#39".toList, rfl, by decide, by decide, by decide⟩
  split
  · next hc => subst hc; exact .inl ⟨"amp".toList, rfl, by decide, by decide, by decide⟩
  split
  · next hc => subst hc; exact .inl ⟨"lt".toList, rfl, by decide, by decide, by decide⟩
  split
  · next hc => subst hc; exact .inl ⟨"gt".toList, rfl, by decide, by decide, by decide⟩
  split
  · next hc => subst hc; exact .inl ⟨"#x9".toList, rfl, by decide, by decide, by decide⟩
  split
  · next hc => subst hc; exact .inl ⟨"#xA".toList, rfl, by decide, by decide, by decide⟩
  split
  · next hc => subst hc; exact .inl ⟨"#xD".toList, rfl, by decide, by decide, by decide⟩
  next hamp hlt hgt _ _ hcr =>
    refine .inr ⟨rfl, ?_⟩
    -- The replacement character needs no reference either.
    unfold replaceChar
    split
    · exact ⟨hlt, hgt, hamp, hcr⟩
    · decide

/-- A written character is read back, replaced if XML cannot hold it. -/
theorem feedAll_escapeChar {h : Handler σ} {s : σ} (hs : h.finished s = false)
    (data : List Char) (brackets : Nat) (c : Char) :
    ∃ k, feedAll h (.text data brackets, s) (escapeChar c) =
      some (.text (data ++ [replaceChar c]) k, s) := by
  rcases escapeChar_cases c with ⟨ref, hwritten, hsemi, hresolve, hrange⟩ | ⟨hwritten, hplain⟩
  · have hreplace : replaceChar c = c := ite_cond_eq_true _ _ (eq_true hrange)
    rw [hwritten, hreplace]
    exact ⟨0, feedAll_reference hs data brackets hresolve hrange hsemi⟩
  · rw [hwritten]
    refine ⟨if replaceChar c = ']' then brackets + 1 else 0, ?_⟩
    simp [feedAll, feed, hs, step, textStep, hplain, inCharacterRange_replaceChar]

/-- Written text is read back, with the characters replaced that XML cannot hold. -/
theorem feedAll_escapeText {h : Handler σ} {s : σ} (hs : h.finished s = false)
    (data : List Char) (brackets : Nat) (t : String) :
    ∃ k, feedAll h (.text data brackets, s) (escapeText t).toList =
      some (.text (data ++ (replaceText t).toList) k, s) := by
  simp only [escapeText, replaceText, String.toList_ofList]
  induction t.toList generalizing data brackets with
  | nil => exact ⟨brackets, by simp [feedAll]⟩
  | cons c cs ih =>
    obtain ⟨k, hc⟩ := feedAll_escapeChar hs data brackets c
    obtain ⟨k', hcs⟩ := ih (data ++ [replaceChar c]) k
    refine ⟨k', ?_⟩
    rw [List.flatMap_cons, feedAll_append_of_eq hc, hcs]
    simp

/-- The characters that a token hands over; a start tag counts as one. -/
def Token.size : Token → Nat
  | .startElement _ => 1
  | .endElement _ => 0
  | .charData data => data.length

/-- The characters that the reader holds back. -/
def Mode.size : Mode → Nat
  | .text data _ | .carriage data | .entity data _ | .cdata data | .cdataCarriage data =>
    data.length
  | .startTag _ | .tag _ | .emptyTag _ | .attrName _ _ | .attrEquals _ | .attrValue _
  | .quoted _ _ | .quotedEntity _ _ _ => 1
  | _ => 0

/-- The character data that a token hands over is in XML's range. -/
def Token.InRange : Token → Prop
  | .charData data => ∀ c ∈ data, inCharacterRange c = true
  | _ => True

/-- The character data that the reader holds back is in XML's range. -/
def Mode.InRange : Mode → Prop
  | .text data _ | .carriage data | .entity data _ | .cdata data | .cdataCarriage data =>
    ∀ c ∈ data, inCharacterRange c = true
  | _ => True

/-- What one character can do: it adds at most one to what is held back or handed over, and what
it adds is in range. -/
structure Follows (m : Mode) (r : Mode × List Token) : Prop where
  size : r.1.size + (r.2.map Token.size).sum ≤ m.size + 1
  inRange : m.InRange → r.1.InRange ∧ ∀ t ∈ r.2, t.InRange

section Follows

variable {m : Mode} {data : List Char} {name : Name} {c : Char} {r : Mode × List Token}

private theorem inRange_concat (hdata : ∀ d ∈ data, inCharacterRange d = true)
    (hc : inCharacterRange c = true) : ∀ d ∈ data ++ [c], inCharacterRange d = true := by
  intro d hd
  rcases List.mem_append.mp hd with hd | hd
  · exact hdata d hd
  · rw [List.mem_singleton.mp hd]
    exact hc

/-- A step that hands nothing over and goes on without character data. -/
theorem Follows.silent {m' : Mode} (hsize : m'.size ≤ m.size + 1) (hrange : m'.InRange) :
    Follows m (m', []) :=
  ⟨by simpa using hsize, fun _ => ⟨hrange, by simp⟩⟩

/-- One character of text. -/
private theorem textStep_follows {brackets : Nat} (h : textStep data brackets c = some r) :
    Follows (.text data 0) r := by
  unfold textStep at h
  split_ifs at h with _ _ _ _ hc <;> cases h
  · exact ⟨by simp [Mode.size, Token.size], fun hdata => ⟨trivial, by simpa [Token.InRange]⟩⟩
  · exact ⟨by simp [Mode.size], fun hdata => ⟨hdata, by simp⟩⟩
  · exact ⟨by simp [Mode.size], fun hdata => ⟨inRange_concat hdata (by decide), by simp⟩⟩
  all_goals exact ⟨by simp [Mode.size], fun hdata => ⟨inRange_concat hdata hc, by simp⟩⟩

/-- One character of a CDATA section. -/
private theorem cdataStep_follows (h : cdataStep data c = some r) : Follows (.cdata data) r := by
  unfold cdataStep at h
  split_ifs at h with _ _ hc <;> cases h
  · refine ⟨by simp [Mode.size, Token.size]; omega, fun hdata => ⟨by simp [Mode.InRange], ?_⟩⟩
    simp only [List.mem_singleton, forall_eq, Token.InRange]
    exact fun d hd => hdata d (List.mem_of_mem_take hd)
  · exact ⟨by simp [Mode.size], fun hdata => ⟨inRange_concat hdata (by decide), by simp⟩⟩
  · exact ⟨by simp [Mode.size], fun hdata => ⟨inRange_concat hdata hc, by simp⟩⟩

/-- One character inside a tag. -/
private theorem tagStep_follows (h : tagStep name c = some r) : Follows m r := by
  unfold tagStep at h
  split_ifs at h <;> cases h <;>
    exact ⟨by simp [Mode.size, Token.size],
      fun _ => ⟨by simp [Mode.InRange], by simp [Token.InRange]⟩⟩

/-- One character between the name of an attribute and its value. -/
private theorem equalsStep_follows (h : equalsStep name c = some r) : Follows m r := by
  unfold equalsStep at h
  split_ifs at h <;> cases h <;> exact .silent (by simp [Mode.size]) trivial

/-- One character of an end tag. -/
private theorem endTagStep_follows (h : endTagStep name c = some r) : Follows m r := by
  unfold endTagStep at h
  split_ifs at h <;> cases h <;>
    exact ⟨by simp [Mode.size, Token.size],
      fun _ => ⟨by simp [Mode.InRange], by simp [Token.InRange]⟩⟩

/-- One character of a processing instruction. -/
private theorem procStep_follows {target : List Char} (h : procStep target data c = some r) :
    Follows m r := by
  unfold procStep at h
  split_ifs at h <;> cases h <;> exact .silent (by simp [Mode.size]) (by simp [Mode.InRange])

/-- One character of a directive, which yields no tokens. -/
private theorem directiveStep_follows (quote : Option Char) (depth : Nat) :
    Follows m (directiveStep quote depth c, []) := by
  unfold directiveStep
  split_ifs <;> exact .silent (by simp [Mode.size]) trivial

/-- What one character can do, in every mode. -/
theorem step_follows (h : step m c = some r) : Follows m r := by
  cases m with
  | text data brackets => exact ⟨(textStep_follows h).size, (textStep_follows h).inRange⟩
  | carriage data =>
    simp only [step] at h
    split_ifs at h
    · cases h
      exact ⟨by simp [Mode.size], fun hdata => ⟨hdata, by simp⟩⟩
    · exact ⟨(textStep_follows h).size, (textStep_follows h).inRange⟩
  | entity data name =>
    simp only [step] at h
    split_ifs at h
    · obtain ⟨e, he, rfl⟩ := Option.map_eq_some_iff.mp h
      obtain ⟨e', -, he⟩ := Option.bind_eq_some_iff.mp he
      split_ifs at he with hrange
      cases he
      exact ⟨by simp [Mode.size], fun hdata => ⟨inRange_concat hdata hrange, by simp⟩⟩
    · cases h
      exact ⟨by simp [Mode.size], fun hdata => ⟨hdata, by simp⟩⟩
  | startTag name =>
    simp only [step] at h
    split_ifs at h
    · cases h
      exact .silent (by simp [Mode.size]) trivial
    · obtain ⟨n, -, h⟩ := Option.bind_eq_some_iff.mp h
      exact tagStep_follows h
  | tag name => exact tagStep_follows h
  | emptyTag name =>
    simp only [step] at h
    split_ifs at h
    cases h
    exact ⟨by simp [Mode.size, Token.size],
      fun _ => ⟨by simp [Mode.InRange], by simp [Token.InRange]⟩⟩
  | attrName name attr =>
    simp only [step] at h
    split_ifs at h
    · cases h
      exact .silent (by simp [Mode.size]) trivial
    · obtain ⟨n, -, h⟩ := Option.bind_eq_some_iff.mp h
      exact equalsStep_follows h
  | attrEquals name => exact equalsStep_follows h
  | quotedEntity name q ref =>
    simp only [step] at h
    split_ifs at h
    · obtain ⟨e, -, rfl⟩ := Option.map_eq_some_iff.mp h
      exact .silent (by simp [Mode.size]) trivial
    · cases h
      exact .silent (by simp [Mode.size]) trivial
  | endTag name =>
    simp only [step] at h
    split_ifs at h
    · cases h
      exact .silent (by simp [Mode.size]) trivial
    · obtain ⟨n, -, h⟩ := Option.bind_eq_some_iff.mp h
      exact endTagStep_follows h
  | endTagSpace name => exact endTagStep_follows h
  | procTarget target =>
    simp only [step] at h
    split_ifs at h
    · cases h
      exact .silent (by simp [Mode.size]) trivial
    · exact procStep_follows h
  | procInst target data => exact procStep_follows h
  | cdata data => exact cdataStep_follows h
  | cdataCarriage data =>
    simp only [step] at h
    split_ifs at h
    · cases h
      exact ⟨by simp [Mode.size], fun hdata => ⟨hdata, by simp⟩⟩
    · exact ⟨(cdataStep_follows h).size, (cdataStep_follows h).inRange⟩
  | directive quote depth =>
    simp only [step] at h
    split_ifs at h <;> cases h
    · exact .silent (by simp [Mode.size]) (by simp [Mode.InRange])
    · exact directiveStep_follows quote depth
  | directiveOpen depth seen =>
    simp only [step] at h
    split_ifs at h <;> cases h
    · exact .silent (by simp [Mode.size]) trivial
    · exact .silent (by simp [Mode.size]) trivial
    · exact directiveStep_follows none (depth + 1)
  | markup | attrValue name | quoted name q | bang | bangDash | bangBracket seen
  | comment dashes | directiveComment depth dashes =>
    simp only [step] at h
    split_ifs at h <;> cases h <;> exact .silent (by simp [Mode.size]) (by simp [Mode.InRange])

end Follows

variable {h : Handler σ} {μ : σ → Nat}

/-- What one character can do: nothing, if the handler has finished, or one step of the reader. -/
theorem feed_cases {m m' : Mode} {s s' : σ} {c : Char} (hc : feed h (m, s) c = some (m', s')) :
    (m' = m ∧ s' = s) ∨ ∃ ts, step m c = some (m', ts) ∧ ts.foldlM h.token s = some s' := by
  unfold feed at hc
  split_ifs at hc
  · cases hc
    exact .inl ⟨rfl, rfl⟩
  · obtain ⟨⟨m₁, ts⟩, hstep, hc⟩ := Option.bind_eq_some_iff.mp hc
    obtain ⟨s₁, hts, heq⟩ := Option.map_eq_some_iff.mp hc
    cases heq
    exact .inr ⟨ts, hstep, hts⟩

/-- The handler grows no more than the tokens that it takes. -/
private theorem foldlM_token_size (hμ : ∀ s t s', h.token s t = some s' → μ s' ≤ μ s + t.size)
    {ts : List Token} {s s' : σ} (hs : ts.foldlM h.token s = some s') :
    μ s' ≤ μ s + (ts.map Token.size).sum := by
  induction ts generalizing s with
  | nil =>
    cases hs
    simp
  | cons t ts ih =>
    rw [List.foldlM_cons] at hs
    obtain ⟨s₁, ht, hs⟩ := Option.bind_eq_some_iff.mp hs
    have h₁ := hμ s t s₁ ht
    have h₂ := ih hs
    rw [List.map_cons, List.sum_cons]
    omega

/-- What a handler keeps is bounded by what it was given: a measure that no token raises by more
than its size is raised by a text by at most its length. -/
theorem feedAll_size (hμ : ∀ s t s', h.token s t = some s' → μ s' ≤ μ s + t.size)
    {cs : List Char} {m m' : Mode} {s s' : σ} (hfeed : feedAll h (m, s) cs = some (m', s')) :
    μ s' + m'.size ≤ μ s + m.size + cs.length := by
  induction cs generalizing m s with
  | nil =>
    cases hfeed
    simp
  | cons c cs ih =>
    rw [feedAll, List.foldlM_cons] at hfeed
    obtain ⟨⟨m₁, s₁⟩, hc, hfeed⟩ := Option.bind_eq_some_iff.mp hfeed
    have hrest := ih hfeed
    have hone : μ s₁ + m₁.size ≤ μ s + m.size + 1 := by
      rcases feed_cases hc with ⟨rfl, rfl⟩ | ⟨ts, hstep, hts⟩
      · omega
      · have hheld : m₁.size + (ts.map Token.size).sum ≤ m.size + 1 := (step_follows hstep).size
        have hkept : μ s₁ ≤ μ s + (ts.map Token.size).sum := foldlM_token_size hμ hts
        omega
    rw [List.length_cons]
    omega

/-- What the handler keeps for tokens in range, it keeps for all of them. -/
private theorem foldlM_token_inRange {P : σ → Prop}
    (hP : ∀ s t s', h.token s t = some s' → t.InRange → P s → P s') {ts : List Token} {s s' : σ}
    (hts : ts.foldlM h.token s = some s') (hrange : ∀ t ∈ ts, t.InRange) (hs : P s) : P s' := by
  induction ts generalizing s with
  | nil =>
    cases hts
    exact hs
  | cons t ts ih =>
    rw [List.foldlM_cons] at hts
    obtain ⟨s₁, ht, hts⟩ := Option.bind_eq_some_iff.mp hts
    rw [List.forall_mem_cons] at hrange
    exact ih hts hrange.2 (hP s t s₁ ht hrange.1 hs)

/-- What a handler keeps was in range when its tokens are. -/
theorem feedAll_inRange {P : σ → Prop}
    (hP : ∀ s t s', h.token s t = some s' → t.InRange → P s → P s')
    {cs : List Char} {m m' : Mode} {s s' : σ} (hfeed : feedAll h (m, s) cs = some (m', s'))
    (hm : m.InRange) (hs : P s) : P s' := by
  induction cs generalizing m s with
  | nil =>
    cases hfeed
    exact hs
  | cons c cs ih =>
    rw [feedAll, List.foldlM_cons] at hfeed
    obtain ⟨⟨m₁, s₁⟩, hc, hrest⟩ := Option.bind_eq_some_iff.mp hfeed
    rcases feed_cases hc with ⟨rfl, rfl⟩ | ⟨ts, hstep, hts⟩
    · exact ih hrest hm hs
    · have hrange := (step_follows hstep).inRange hm
      exact ih hrest hrange.1 (foldlM_token_inRange hP hts hrange.2 hs)

end HdfsOperator.Xml
