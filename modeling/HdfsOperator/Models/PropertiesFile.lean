import HdfsOperator.Core.LastWins
import HdfsOperator.Core.Lines
import HdfsOperator.Models.Cluster

/-!
# Properties files

A properties file is scanned line by line into pairs, the pairs are overridden, and the result
is printed again. The scanner refuses lines that do not fit its buffer. A line with more than
one equals sign is an error, and so is one without any.
-/

namespace HdfsOperator

open LastWins Lines

/-- A property of a properties file. -/
abbrev NameValuePair := Entry String String

/-- The size of the scanner's buffer. A line has to fit with its newline, so it is shorter. -/
def maxScanTokenSize : Nat := 64 * 1024

/-- The body of the loop over the lines. -/
def scanLine (line : List Char) (properties : List NameValuePair) : Go (List NameValuePair) :=
  if line.head? = some '#' ∨ line.length = 0 then .ok properties
  else
    match line.splitOn '=' with
    | [name, value] => .ok (properties ++ [⟨.ofList name, .ofList value⟩])
    | _ => .error (.error ("invalid property line: " ++ .ofList line))

/-- The loop over the lines. It ends at the first line that is too long or invalid. -/
def scanLines : List (List Char) → List NameValuePair → Go (List NameValuePair)
  | [], properties => .ok properties
  | line :: rest, properties =>
    if (String.ofList line).utf8ByteSize < maxScanTokenSize then
      scanLine (dropCR line) properties >>= scanLines rest
    else .error (.error "bufio.Scanner: token too long")

/-- The properties of a text are appended to those given. -/
def scanProperties (current : String) (properties : List NameValuePair) :
    Go (List NameValuePair) := scanLines (lines current.toList) properties

/-- The loop that notes, for each name, the position of its last property. -/
def indexKeys : List NameValuePair → Nat → GoMap Nat → GoMap Nat
  | [], _, currentKeys => currentKeys
  | v :: rest, i, currentKeys => indexKeys rest (i + 1) (currentKeys.insert v.name i)

/-- One entry of the override: it is written at the position of its name, or appended. -/
def overrideEntry (currentKeys : GoMap Nat) (current : List NameValuePair) (e : String × String) :
    Go (List NameValuePair) :=
  match currentKeys.lookup e.1 with
  | some i =>
    if i < current.length then .ok (current.modify i (Entry.mapValue fun _ => e.2))
    else .error (.panic .indexOutOfRange)
  | none => .ok (current ++ [⟨e.1, e.2⟩])

/-- The properties with those of the override replaced or added. -/
def overrideProperties (override : GoMap String) (current : List NameValuePair) (o : RangeOrder) :
    Go (List NameValuePair) :=
  if override.entries.length = 0 then .ok current
  else (override.range o).foldlM (overrideEntry (indexKeys current 0 ∅)) current

/-- The line of a property. -/
def propertyLine (v : NameValuePair) : String := v.name ++ "=" ++ v.value

/-- The text of a list of properties. -/
def printProperties (properties : List NameValuePair) : String :=
  properties.foldl (fun res v => res ++ (propertyLine v ++ "\n")) ""

/-- The text with the properties of the override replaced or added. -/
def overridePropertiesFileContent (current : String) (override : GoMap String) (o : RangeOrder) :
    Go String := do
  let properties ← scanProperties current []
  let properties ← overrideProperties override properties o
  return printProperties properties

end HdfsOperator
