import HdfsOperator.Core.Text
import HdfsOperator.Core.Unicode

/-!
# Formatting one ordinal

`sprintf format n` is the text that Go's `fmt.Sprintf(format, n)` returns when its only
operand is a non-negative `int32`. The format is an arbitrary text: flags, width,
precision, explicit operand indexes, the verbs for integers and every complaint about
a malformed directive are read as the formatter reads them.
-/

namespace HdfsOperator.Printf

/-- What a directive sets before its verb. -/
structure Directive where
  sharp : Bool := false
  zero : Bool := false
  plus : Bool := false
  minus : Bool := false
  space : Bool := false
  wid : Option Nat := none
  prec : Option Nat := none
  deriving DecidableEq

/-- How far the formatter has come: the next operand (`0` or `1`), whether an explicit
index was used so far, whether the index of this directive is usable and whether the
last item read was an index. -/
structure Cursor where
  argNum : Nat := 0
  reordered : Bool := false
  goodArgNum : Bool := true
  afterIndex : Bool := false

/-- The flags of a directive, in any order and number. -/
def parseFlags (d : Directive) : List Char → Directive × List Char
  | '#' :: r => parseFlags { d with sharp := true } r
  | '0' :: r => parseFlags { d with zero := true } r
  | '+' :: r => parseFlags { d with plus := true } r
  | '-' :: r => parseFlags { d with minus := true } r
  | ' ' :: r => parseFlags { d with space := true } r
  | r => (d, r)

/-- Widths, precisions and indexes past a million are refused. -/
def tooLarge (n : Nat) : Bool := decide (1000000 < n)

/-- A decimal number; an overlong one swallows the rest of the format. -/
def parsenum (num : Nat) (isnum : Bool) : List Char → Nat × Bool × List Char
  | [] => (num, isnum, [])
  | c :: r =>
    if c.isDigit then
      if tooLarge num then (0, false, [])
      else parsenum (num * 10 + (c.toNat - '0'.toNat)) true r
    else (num, isnum, c :: r)

/-- The text of an explicit index after its opening bracket: the operand it names, if it
is readable, and the format after it. -/
def parseArgNumber (r : List Char) : Option Nat × List Char :=
  match r.span (· ≠ ']') with
  | (_, []) => (none, r)
  | ([], _ :: after) => if after.isEmpty then (none, r) else (none, after)
  | (inside, _ :: after) =>
    match parsenum 0 false inside with
    | (n, true, []) => (some n, after)
    | _ => (none, after)

/-- An explicit operand index such as `[1]`, if there is one. -/
def argNumber (c : Cursor) : List Char → Cursor × List Char
  | '[' :: r =>
    match parseArgNumber r with
    | (some n, after) =>
      if n = 1 then ({ c with argNum := 0, reordered := true, afterIndex := true }, after)
      else ({ c with reordered := true, goodArgNum := false, afterIndex := true }, after)
    | (none, after) =>
      ({ c with reordered := true, goodArgNum := false, afterIndex := false }, after)
  | r => ({ c with afterIndex := false }, r)

/-- Padding to the width of the directive. -/
def pad (d : Directive) (body : List Char) : List Char :=
  let fill := List.replicate (d.wid.getD 0 - body.length)
    (if d.zero && !d.minus then '0' else ' ')
  if d.minus then body ++ fill else fill ++ body

/-- Digits of `n` in the given base under the flags of the directive. -/
def fmtInteger (d : Directive) (n base : Nat) (verb : Char) (upper : Bool) : List Char :=
  if d.prec = some 0 && n = 0 then List.replicate (d.wid.getD 0) ' '
  else
    let prec := match d.prec, d.wid with
      | some p, _ => p
      | none, some w => if d.zero && !d.minus then w - (if d.plus || d.space then 1 else 0) else 0
      | none, none => 0
    let raw := (Nat.toDigits base n).map fun c => if upper then c.toUpper else c
    let digits := List.replicate (prec - raw.length) '0' ++ raw
    let based :=
      if d.sharp && base = 2 then '0' :: 'b' :: digits
      else if d.sharp && base = 8 && digits.head? ≠ some '0' then '0' :: digits
      else if d.sharp && base = 16 then '0' :: (if upper then 'X' else 'x') :: digits
      else digits
    let octal := if verb = 'O' then '0' :: 'o' :: based else based
    let signed :=
      if d.plus then '+' :: octal else if d.space then ' ' :: octal else octal
    pad { d with zero := false } signed

/-- A code point as a character; surrogates and numbers past the last code point become
the replacement character. -/
def runeOf (n : Nat) : Char := if n.isValidChar then Char.ofNat n else Char.ofNat 0xFFFD

/-- Hexadecimal digits padded with zeros. -/
def hex (width n : Nat) : List Char :=
  let raw := Nat.toDigits 16 n
  List.replicate (width - raw.length) '0' ++ raw

/-- A quoted character literal. -/
def quoteRune (ascii : Bool) (n : Nat) : List Char :=
  let c := runeOf n
  let k := c.toNat
  let quote := Char.ofNat 39
  let body :=
    if k = 39 || k = 92 then ['\\', c]
    else if Unicode.isPrint k && (!ascii || decide (k < 0x80)) then [c]
    else if k = 7 then ['\\', 'a'] else if k = 8 then ['\\', 'b']
    else if k = 12 then ['\\', 'f'] else if k = 10 then ['\\', 'n']
    else if k = 13 then ['\\', 'r'] else if k = 9 then ['\\', 't']
    else if k = 11 then ['\\', 'v']
    else if k < 0x20 || k = 0x7F then '\\' :: 'x' :: hex 2 k
    else if k < 0x10000 then '\\' :: 'u' :: hex 4 k
    else '\\' :: 'U' :: hex 8 k
  quote :: body ++ [quote]

/-- A code point in `U+0041` notation, with the character itself under `#`. -/
def fmtUnicode (d : Directive) (n : Nat) : List Char :=
  let width := match d.prec with
    | some p => max 4 p
    | none => 4
  let tail := if d.sharp && n.isValidChar && Unicode.isPrint n then
    [' ', Char.ofNat 39, Char.ofNat n, Char.ofNat 39] else []
  pad { d with zero := false } ('U' :: '+' :: ((hex width n).map Char.toUpper ++ tail))

/-- An operand under the default verb. -/
def printValue (d : Directive) (n : Nat) : List Char := fmtInteger d n 10 'v' false

/-- The complaint about a verb that does not fit the operand. -/
def badVerb (d : Directive) (n : Nat) (verb : Char) : List Char :=
  "%!".toList ++ verb :: "(int32=".toList ++ printValue d n ++ [')']

/-- One operand under a verb. -/
def printArg (d : Directive) (n : Nat) (verb : Char) : List Char :=
  match verb with
  | 'v' => printValue { d with sharp := false, plus := false } n
  | 'w' => badVerb { d with sharp := false, plus := false } n verb
  | 'd' => fmtInteger d n 10 verb false
  | 'b' => fmtInteger d n 2 verb false
  | 'o' => fmtInteger d n 8 verb false
  | 'O' => fmtInteger d n 8 verb false
  | 'x' => fmtInteger d n 16 verb false
  | 'X' => fmtInteger d n 16 verb true
  | 'c' => pad d [runeOf n]
  | 'q' => pad d (quoteRune d.plus n)
  | 'U' => fmtUnicode d n
  | 'T' => pad d ("int32".toList.take (d.prec.getD 5))
  | _ => badVerb d n verb

/-- The width of a directive: a number, or the operand for `*`. The complaint about an
unusable operand is written at once. -/
def parseWidth (n : Nat) (d : Directive) (c : Cursor) :
    List Char → List Char × Directive × Cursor × List Char
  | '*' :: r =>
    if c.argNum = 0 then
      let c := { c with argNum := 1, afterIndex := false }
      if tooLarge n then ("%!(BADWIDTH)".toList, d, c, r) else ([], { d with wid := some n }, c, r)
    else ("%!(BADWIDTH)".toList, d, { c with afterIndex := false }, r)
  | r =>
    match parsenum 0 false r with
    | (w, true, r') =>
      ([], { d with wid := some w }, { c with goodArgNum := c.goodArgNum && !c.afterIndex }, r')
    | (_, false, r') => ([], d, c, r')

/-- The precision of a directive, if there is one. -/
def parsePrec (n : Nat) (d : Directive) (c : Cursor) :
    List Char → List Char × Directive × Cursor × List Char
  | '.' :: r =>
    let (c, r) := argNumber { c with goodArgNum := c.goodArgNum && !c.afterIndex } r
    match r with
    | '*' :: r =>
      if c.argNum = 0 then
        let c := { c with argNum := 1, afterIndex := false }
        if tooLarge n then ("%!(BADPREC)".toList, d, c, r)
        else ([], { d with prec := some n }, c, r)
      else ("%!(BADPREC)".toList, d, { c with afterIndex := false }, r)
    | r =>
      match parsenum 0 false r with
      | (p, true, r') => ([], { d with prec := some p }, c, r')
      | (_, false, r') => ([], { d with prec := some 0 }, c, r')
  | r => ([], d, c, r)

/-- One directive after its percent sign: what it writes, where the formatter then stands
and the rest of the format. A format that ends inside a directive has no rest. -/
def directive (n : Nat) (c : Cursor) (r : List Char) : List Char × Cursor × List Char :=
  let (d, r) := parseFlags {} r
  let (c, r) := argNumber { c with goodArgNum := true } r
  let (w, d, c, r) := parseWidth n d c r
  let (p, d, c, r) := parsePrec n d c r
  let (c, r) := if c.afterIndex then (c, r) else argNumber c r
  match r with
  | [] => (w ++ p ++ "%!(NOVERB)".toList, c, [])
  | verb :: r =>
    if verb = '%' then (w ++ p ++ ['%'], c, r)
    else if !c.goodArgNum then (w ++ p ++ "%!".toList ++ verb :: "(BADINDEX)".toList, c, r)
    else if c.argNum ≠ 0 then (w ++ p ++ "%!".toList ++ verb :: "(MISSING)".toList, c, r)
    else (w ++ p ++ printArg d n verb, { c with argNum := 1 }, r)

/-- The complaint about an operand that no directive has used. -/
def extra (n : Nat) (c : Cursor) : List Char :=
  if !c.reordered && c.argNum = 0 then "%!(EXTRA int32=".toList ++ printValue {} n ++ [')'] else []

/-- The formatter's loop. Every turn reads at least one character, so the length of the
format bounds the number of turns. -/
def doPrintf (n : Nat) : Nat → Cursor → List Char → List Char
  | 0, _, _ => []
  | _ + 1, c, [] => extra n c
  | turns + 1, c, ch :: r =>
    if ch = '%' then
      let (out, c, r) := directive n c r
      out ++ doPrintf n turns c r
    else ch :: doPrintf n turns c r

/-- `fmt.Sprintf(format, n)`. -/
def sprintf (format : String) (n : Nat) : String :=
  String.ofList (doPrintf n (format.toList.length + 1) {} format.toList)

/-- Text before the first directive is copied. -/
theorem doPrintf_append_text {p : List Char} (hp : '%' ∉ p) (n turns : Nat) (c : Cursor)
    (r : List Char) : doPrintf n (p.length + turns) c (p ++ r) = p ++ doPrintf n turns c r := by
  induction p with
  | nil => simp
  | cons ch p ih =>
    simp only [List.mem_cons, not_or] at hp
    rw [List.length_cons, Nat.add_right_comm, List.cons_append, doPrintf,
      ite_cond_eq_false _ _ (eq_false (Ne.symm hp.1)), ih hp.2, List.cons_append]

/-- A format without directives is copied as a whole. -/
theorem doPrintf_text {p : List Char} (hp : '%' ∉ p) (n : Nat) {turns : Nat}
    (ht : p.length < turns) (c : Cursor) : doPrintf n turns c p = p ++ extra n c := by
  obtain ⟨k, rfl⟩ : ∃ k, turns = p.length + (k + 1) := ⟨turns - p.length - 1, by omega⟩
  simpa only [List.append_nil, doPrintf] using doPrintf_append_text hp n (k + 1) c []

/-- The first decimal directive writes the ordinal and uses up the operand. -/
theorem directive_decimal (n : Nat) (r : List Char) :
    directive n {} ('d' :: r) = ((toString n).toList, { argNum := 1 }, r) := by
  rw [Nat.toString_eq_repr, Nat.toList_repr]
  simp [directive, parseFlags, argNumber, parseWidth, parsePrec, parsenum, printArg, fmtInteger,
    pad, Char.isDigit]

/-- Text before the first directive is copied. -/
theorem sprintf_append {p : String} (hp : '%' ∉ p.toList) (f : String) (n : Nat) :
    sprintf (p ++ f) n = p ++ sprintf f n := by
  apply String.toList_inj.mp
  simp only [sprintf, String.toList_append, String.toList_ofList, List.length_append,
    Nat.add_assoc, doPrintf_append_text hp]

/-- A template with one decimal directive renders to its text around the ordinal. -/
theorem sprintf_decimal {p q : String} (hp : '%' ∉ p.toList) (hq : '%' ∉ q.toList) (n : Nat) :
    sprintf (p ++ "%d" ++ q) n = p ++ toString n ++ q := by
  rw [String.append_assoc, String.append_assoc, sprintf_append hp]
  congr 1
  apply String.toList_inj.mp
  have hf : ("%d" ++ q).toList = '%' :: 'd' :: q.toList := by simp
  simp only [sprintf, String.toList_ofList, hf, List.length_cons, String.toList_append]
  rw [doPrintf, ite_cond_eq_true _ _ (eq_self _), directive_decimal]
  simp only
  rw [doPrintf_text hq n (by omega)]
  simp [extra]

example : sprintf "pod-%d.svc" 12 = "pod-12.svc" := by decide
example : sprintf "pod-%d.%d%%" 3 = "pod-3.%!d(MISSING)%" := by decide
example : sprintf "%[1]x %[2]d|%+5d" 11 = "b %!d(BADINDEX)|%!d(MISSING)" := by decide

end HdfsOperator.Printf
