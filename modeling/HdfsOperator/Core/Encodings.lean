import Mathlib.Data.Fin.Basic
import Mathlib.Data.List.Basic

/-!
# Bytes as text

Hexadecimal text has two digits for each byte. Base64 has four characters for three bytes, and
fills its last group with a padding character. Decoding base64 gives back what was encoded.
-/

namespace HdfsOperator.Encodings

/-- A byte. -/
abbrev Byte := Fin 256

/-- The byte with the lowest eight bits of a number. -/
def byte (n : Nat) : Byte := ⟨n % 256, Nat.mod_lt n (by decide)⟩

/-- The bytes of a text in which every character is a single byte. -/
def textBytes (text : List Char) : List Byte := text.map fun ch => byte ch.toNat

/-- A text of single bytes is determined by them. -/
theorem textBytes_inj {text text' : List Char} (h : ∀ ch ∈ text, ch.toNat < 256)
    (h' : ∀ ch ∈ text', ch.toNat < 256) (heq : textBytes text = textBytes text') :
    text = text' := by
  induction text generalizing text' with
  | nil => exact (List.map_eq_nil_iff.mp heq.symm).symm
  | cons ch text ih =>
    cases text' with
    | nil => cases heq
    | cons ch' text' =>
      obtain ⟨hch, htext⟩ := List.forall_mem_cons.mp h
      obtain ⟨hch', htext'⟩ := List.forall_mem_cons.mp h'
      obtain ⟨hbyte, hrest⟩ := List.cons.inj heq
      have hcode : ch.toNat = ch'.toNat := by
        have hval := congrArg Fin.val hbyte
        simpa only [byte, Nat.mod_eq_of_lt hch, Nat.mod_eq_of_lt hch'] using hval
      rw [Char.toNat_inj.mp hcode, ih htext htext' hrest]

/-- The digits. -/
def digits : List Char := "0123456789abcdef".toList

/-- The digit for a number below sixteen. -/
def digit (n : Nat) : Char := digits.getD n '0'

/-- Two digits for each byte. -/
def hexEncode (bytes : List Byte) : List Char :=
  bytes.flatMap fun b => [digit (b.val / 16), digit (b.val % 16)]

theorem digit_inj : ∀ m < 16, ∀ n < 16, digit m = digit n → m = n := by decide

theorem hexEncode_cons (b : Byte) (bytes : List Byte) : hexEncode (b :: bytes) =
    digit (b.val / 16) :: digit (b.val % 16) :: hexEncode bytes := rfl

/-- The digits are single bytes. -/
theorem hexEncode_small (bytes : List Byte) : ∀ ch ∈ hexEncode bytes, ch.toNat < 256 := by
  have hdigit : ∀ n < 16, (digit n).toNat < 256 := by decide
  intro ch hch
  obtain ⟨b, -, hch⟩ := List.mem_flatMap.mp hch
  simp only [List.mem_cons, List.not_mem_nil, or_false] at hch
  rcases hch with rfl | rfl
  · exact hdigit _ (by omega)
  · exact hdigit _ (by omega)

theorem length_hexEncode (bytes : List Byte) : (hexEncode bytes).length = 2 * bytes.length := by
  induction bytes with
  | nil => rfl
  | cons b bytes ih =>
    rw [hexEncode_cons, List.length_cons, List.length_cons, ih, List.length_cons]
    omega

/-- An even number of digits encodes the bytes that they belong to. -/
theorem take_hexEncode (n : Nat) (bytes : List Byte) :
    (hexEncode bytes).take (2 * n) = hexEncode (bytes.take n) := by
  induction bytes generalizing n with
  | nil => simp [hexEncode]
  | cons b bytes ih =>
    cases n with
    | zero => rfl
    | succ n =>
      rw [hexEncode_cons, Nat.mul_succ, List.take_succ_cons, List.take_succ_cons, ih,
        List.take_succ_cons, hexEncode_cons]

/-- Hexadecimal text determines what it stands for. -/
theorem hexEncode_inj {bytes bytes' : List Byte} (h : hexEncode bytes = hexEncode bytes') :
    bytes = bytes' := by
  induction bytes generalizing bytes' with
  | nil =>
    cases bytes' with
    | nil => rfl
    | cons b' bytes' => cases h
  | cons b bytes ih =>
    cases bytes' with
    | nil => cases h
    | cons b' bytes' =>
      obtain ⟨hhigh, hrest⟩ := List.cons.inj h
      obtain ⟨hlow, hrest⟩ := List.cons.inj hrest
      have hdiv := digit_inj _ (by omega) _ (by omega) hhigh
      have hmod := digit_inj _ (by omega) _ (by omega) hlow
      have hb : b = b' := Fin.ext (by omega)
      rw [hb, ih hrest]

/-- The characters for numbers below 64. -/
def alphabet : List Char :=
  "ABCDEFGHIJKLMNOPQRSTUVWXYZabcdefghijklmnopqrstuvwxyz0123456789+/".toList

/-- The character for the lowest six bits of a number. -/
def symbol (n : Nat) : Char := alphabet.getD (n % 64) 'A'

/-- The number that a character stands for. -/
def value (ch : Char) : Option Nat :=
  if ch ∈ alphabet then some (alphabet.idxOf ch) else none

/-- The text of some bytes. -/
def base64Encode : List Byte → List Char
  | a :: b :: c :: r =>
    let n := a.val * 65536 + b.val * 256 + c.val
    symbol (n / 262144) :: symbol (n / 4096) :: symbol (n / 64) :: symbol n :: base64Encode r
  | [a, b] =>
    let n := a.val * 65536 + b.val * 256
    [symbol (n / 262144), symbol (n / 4096), symbol (n / 64), '=']
  | [a] =>
    let n := a.val * 65536
    [symbol (n / 262144), symbol (n / 4096), '=', '=']
  | [] => []

/-- The bytes of four characters; only the last group has padding. -/
def decodeGroup (last : Bool) (w x y z : Char) : Option (List Byte) := do
  let a ← value w
  let b ← value x
  let n := a * 262144 + b * 4096
  if y = '=' then
    if last ∧ z = '=' then some [byte (n / 65536)] else none
  else
    let c ← value y
    let n := n + c * 64
    if z = '=' then
      if last then some [byte (n / 65536), byte (n / 256)] else none
    else
      let d ← value z
      let n := n + d
      some [byte (n / 65536), byte (n / 256), byte n]

/-- The bytes of a text. -/
def base64Decode : List Char → Option (List Byte)
  | [] => some []
  | w :: x :: y :: z :: r => do
    let bytes ← decodeGroup r.isEmpty w x y z
    (bytes ++ ·) <$> base64Decode r
  | _ => none

/-- Every symbol is read as the six bits that it stands for. -/
theorem value_symbol (n : Nat) : value (symbol n) = some (n % 64) := by
  have hall : ∀ m < 64, value (alphabet.getD m 'A') = some m := by decide +kernel
  exact hall (n % 64) (Nat.mod_lt n (by decide))

/-- No symbol is the padding. -/
theorem symbol_ne (n : Nat) : symbol n ≠ '=' := by
  intro h
  have hnone : value '=' = none := by decide
  rw [← h, value_symbol] at hnone
  cases hnone

section Groups

variable {n : Nat} (h : n < 16777216)

include h

/-- Four groups of six bits make up a number of 24 bits. -/
theorem regroup : n / 262144 % 64 * 262144 + n / 4096 % 64 * 4096 + n / 64 % 64 * 64 + n % 64 =
    n := by omega

/-- A full group. -/
theorem decodeGroup_three (last : Bool) :
    decodeGroup last (symbol (n / 262144)) (symbol (n / 4096)) (symbol (n / 64)) (symbol n) =
      some [byte (n / 65536), byte (n / 256), byte n] := by
  simp only [decodeGroup, value_symbol, symbol_ne, Option.bind_eq_bind, Option.bind_some, if_false,
    regroup h]

/-- A group of two bytes, which one sign of padding fills up. -/
theorem decodeGroup_two (hn : n % 64 = 0) :
    decodeGroup true (symbol (n / 262144)) (symbol (n / 4096)) (symbol (n / 64)) '=' =
      some [byte (n / 65536), byte (n / 256)] := by
  have hsum := regroup h
  rw [hn, Nat.add_zero] at hsum
  simp only [decodeGroup, value_symbol, symbol_ne, Option.bind_eq_bind, Option.bind_some, if_false,
    if_true, hsum]

/-- A group of one byte, which two signs of padding fill up. -/
theorem decodeGroup_one (hn : n % 4096 = 0) :
    decodeGroup true (symbol (n / 262144)) (symbol (n / 4096)) '=' '=' =
      some [byte (n / 65536)] := by
  have hsum : n / 262144 % 64 * 262144 + n / 4096 % 64 * 4096 = n := by omega
  simp only [decodeGroup, value_symbol, Option.bind_eq_bind, Option.bind_some, if_true, and_self,
    hsum]

end Groups

/-- Decoding gives back what was encoded. -/
theorem base64Decode_encode (bytes : List Byte) :
    base64Decode (base64Encode bytes) = some bytes := by
  have hbyte {n : Nat} (b : Byte) (h : n % 256 = b.val) : byte n = b := Fin.ext h
  induction bytes using base64Encode.induct with
  | case1 a b c r ih =>
    rw [base64Encode, base64Decode, decodeGroup_three (by omega), ih, hbyte a (by omega),
      hbyte b (by omega), hbyte c (by omega)]
    rfl
  | case2 a b =>
    rw [base64Encode, base64Decode, List.isEmpty_nil, decodeGroup_two (by omega) (by omega),
      hbyte a (by omega), hbyte b (by omega)]
    rfl
  | case3 a =>
    rw [base64Encode, base64Decode, List.isEmpty_nil, decodeGroup_one (by omega) (by omega),
      hbyte a (by omega)]
    rfl
  | case4 => rfl

/-- Different bytes have different encodings. -/
theorem base64Encode_inj {bytes bytes' : List Byte} (h : base64Encode bytes = base64Encode bytes') :
    bytes = bytes' := by
  have hdecoded := congrArg base64Decode h
  rw [base64Decode_encode, base64Decode_encode] at hdecoded
  exact Option.some.inj hdecoded

/-- The symbols are single bytes. -/
theorem base64Encode_small (bytes : List Byte) : ∀ ch ∈ base64Encode bytes, ch.toNat < 256 := by
  have hall : ∀ m < 64, (alphabet.getD m 'A').toNat < 256 := by decide +kernel
  have hsymbol (n : Nat) : (symbol n).toNat < 256 := hall (n % 64) (Nat.mod_lt n (by decide))
  induction bytes using base64Encode.induct with
  | case1 a b c r ih => simpa [base64Encode, hsymbol] using ih
  | case2 a b => simp [base64Encode, hsymbol]
  | case3 a => simp [base64Encode, hsymbol]
  | case4 => exact List.forall_mem_nil _

/-- Every three bytes, and what is left of them at the end, take four symbols. -/
theorem length_base64Encode (bytes : List Byte) :
    (base64Encode bytes).length = 4 * ((bytes.length + 2) / 3) := by
  induction bytes using base64Encode.induct with
  | case1 a b c r ih =>
    simp only [base64Encode, List.length_cons, ih]
    omega
  | case2 a b => simp [base64Encode]
  | case3 a => simp [base64Encode]
  | case4 => rfl

end HdfsOperator.Encodings
