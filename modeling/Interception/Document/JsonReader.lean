import Interception.Document.Basic
import Interception.Text.Number
import Interception.Text.Hex

/-!
Documents written as JSON. The readers take what they need from the front of
the text and return the rest, or nothing when the text is not JSON. A text is
read in two steps: first its parts, then the document they stand for. Some
parts stand for nothing, a number out of range or a text with half a
character, and only whoever looks at such a part minds. Nesting is limited in
the second step.
-/

namespace Interception.Json

abbrev Chars := List Char

def isSpace (c : Char) : Bool :=
  c == ' ' || c == '\n' || c == '\r' || c == '\t'

def isDigit (c : Char) : Bool :=
  '0' ≤ c && c ≤ '9'

def readUnit : Chars → Option (Nat × Chars)
  | a :: b :: c :: d :: rest => do
      return ((← Text.hexValue? a) * 4096 + (← Text.hexValue? b) * 256 + (← Text.hexValue? c) * 16 +
        (← Text.hexValue? d), rest)
  | _ => none

def isHigh (unit : Nat) : Bool := 0xd800 ≤ unit && unit ≤ 0xdbff

def isLow (unit : Nat) : Bool := 0xdc00 ≤ unit && unit ≤ 0xdfff

/-- The character of one code unit, or of a pair of them. Half a pair is no
character. -/
def readEscapedUnit (text : Chars) : Option (Option Char × Chars) := do
  let (unit, rest) ← readUnit text
  if isLow unit then return (none, rest)
  else if isHigh unit then
    match rest with
    | '\\' :: 'u' :: later =>
        let (second, after) ← readUnit later
        if isLow second then
          return (some (Char.ofNat (0x10000 + (unit - 0xd800) * 1024 + (second - 0xdc00))), after)
        else return (none, rest)
    | _ => return (none, rest)
  else return (some (Char.ofNat unit), rest)

def readEscape : Chars → Option (Option Char × Chars)
  | '"' :: rest => some ('"', rest)
  | '\\' :: rest => some ('\\', rest)
  | '/' :: rest => some ('/', rest)
  | 'b' :: rest => some ('\x08', rest)
  | 'f' :: rest => some ('\x0c', rest)
  | 'n' :: rest => some ('\n', rest)
  | 'r' :: rest => some ('\r', rest)
  | 't' :: rest => some ('\t', rest)
  | 'u' :: rest => readEscapedUnit rest
  | _ => none

/-- The characters of a string up to its closing quote, the latest first. -/
def readString : Nat → Option Chars → Chars → Option (Option String × Chars)
  | 0, _, _ => none
  | fuel + 1, seen, text =>
      match text with
      | [] => none
      | '"' :: rest => some (seen.map fun chars => String.ofList chars.reverse, rest)
      | '\\' :: rest => do
          let (c, rest) ← readEscape rest
          readString fuel (do return (← c) :: (← seen)) rest
      | c :: rest =>
          if c.toNat < 32 then none else readString fuel (seen.map (c :: ·)) rest

/-- A string after its opening quote. -/
def readText (text : Chars) : Option (Option String × Chars) :=
  readString (text.length + 1) (some []) text

/-! ### Numbers -/

def digitsValue (digits : Chars) : Nat :=
  digits.foldl (fun value c => value * 10 + (c.toNat - 48)) 0

/-- One or more digits. -/
def readDigits (text : Chars) : Option (Chars × Chars) :=
  match text.takeWhile isDigit with
  | [] => none
  | digits => some (digits, text.dropWhile isDigit)

def readWhole : Chars → Option (Chars × Chars)
  | '0' :: rest => if (rest.head?.map isDigit).getD false then none else some (['0'], rest)
  | text => readDigits text

def readFraction : Chars → Option (Chars × Chars)
  | '.' :: rest => readDigits rest
  | text => some ([], text)

def readSignedDigits : Chars → Option (Int × Chars)
  | '+' :: rest => (readDigits rest).map fun (digits, rest) => ((digitsValue digits : Int), rest)
  | '-' :: rest => (readDigits rest).map fun (digits, rest) => (-(digitsValue digits : Int), rest)
  | rest => (readDigits rest).map fun (digits, rest) => ((digitsValue digits : Int), rest)

def readExponent : Chars → Option (Option Int × Chars)
  | 'e' :: rest => (readSignedDigits rest).map fun (value, rest) => (some value, rest)
  | 'E' :: rest => (readSignedDigits rest).map fun (value, rest) => (some value, rest)
  | text => some (none, text)

def lowestInteger : Int := -9223372036854775808

/-- The value of the leading digits that 64 bits hold behind those already
read, and how many digits are left. -/
def leading (value : Nat) : Chars → Nat × Nat
  | [] => (value, 0)
  | c :: rest =>
      let next := value * 10 + (c.toNat - 48)
      if next ≤ Text.limit64 then leading next rest else (value, rest.length + 1)

/-- An exponent beyond 32 bits is taken for the largest one. -/
def largestExponent : Int := 2147483647

/-- A whole number times a power of ten. -/
def scaledReal (negative : Bool) (significand : Nat) (exponent : Int) : Option Document := do
  let size ← (← Magnitude.ofNat significand).scaled Magnitude.tenSteps exponent
  return .real (.finite negative size)

/-- The number that was written. Integers have 64 bits. Anything else is
real, and counts only as many digits as 64 bits hold. -/
def numberOf (negative : Bool) (whole fraction : Chars) (exponent : Option Int) :
    Option Document :=
  let (start, skipped) := leading 0 whole
  if fraction.isEmpty ∧ exponent.isNone ∧ skipped = 0 then
    if negative = false then some (.integer start)
    else if start ≠ 0 ∧ lowestInteger ≤ -(start : Int) then some (.integer (-start))
    else scaledReal true start 0
  else
    let (significand, left) := leading start fraction
    let power := (skipped : Int) + left - fraction.length
    let shift := exponent.getD 0
    if largestExponent < shift ∧ significand ≠ 0 then none
    else if largestExponent < shift ∨ shift < -largestExponent then
      some (.real (.finite negative Magnitude.zero))
    else scaledReal negative significand (power + shift)

/-! ### Parts of a text -/

/-- A part of a text. A scalar may stand for no document, and a name for no
text. -/
inductive Part
  | scalar (document : Option Document)
  | list (items : List Part)
  | table (fields : List (Option String × Part))

def readNumber (negative : Bool) (text : Chars) : Option (Part × Chars) := do
  let (whole, rest) ← readWhole text
  let (fraction, rest) ← readFraction rest
  let (exponent, rest) ← readExponent rest
  return (.scalar (numberOf negative whole fraction exponent), rest)

def readWord (word : String) (value : Document) (text : Chars) : Option (Part × Chars) :=
  if word.toList.isPrefixOf text then some (.scalar (some value), text.drop word.length) else none

def skip (text : Chars) : Chars := text.dropWhile isSpace

mutual

def readPart : Nat → Chars → Option (Part × Chars)
  | 0, _ => none
  | fuel + 1, text =>
      match text with
      | '"' :: rest => (readText rest).map fun (value, rest) =>
          (.scalar (value.map .text), rest)
      | '[' :: rest =>
          match skip rest with
          | ']' :: rest => some (.list [], rest)
          | rest => (readItems fuel rest).map fun (items, rest) => (.list items, rest)
      | '\x7b' :: rest =>
          match skip rest with
          | '\x7d' :: rest => some (.table [], rest)
          | rest => (readFields fuel rest).map fun (fields, rest) => (.table fields, rest)
      | 'n' :: _ => readWord "null" .null text
      | 't' :: _ => readWord "true" (.flag true) text
      | 'f' :: _ => readWord "false" (.flag false) text
      | '-' :: rest => readNumber true rest
      | _ => readNumber false text

/-- The items of a list and its closing bracket. -/
def readItems : Nat → Chars → Option (List Part × Chars)
  | 0, _ => none
  | fuel + 1, text => do
      let (value, rest) ← readPart fuel text
      match skip rest with
      | ']' :: rest => return ([value], rest)
      | ',' :: rest =>
          let (items, rest) ← readItems fuel (skip rest)
          return (value :: items, rest)
      | _ => none

/-- The fields of a table and its closing brace. -/
def readFields : Nat → Chars → Option (List (Option String × Part) × Chars)
  | 0, _ => none
  | fuel + 1, text =>
      match text with
      | '"' :: rest => do
          let (name, rest) ← readText rest
          match skip rest with
          | ':' :: rest =>
              let (value, rest) ← readPart fuel (skip rest)
              match skip rest with
              | '\x7d' :: rest => return ([(name, value)], rest)
              | ',' :: rest =>
                  let (fields, rest) ← readFields fuel (skip rest)
                  return ((name, value) :: fields, rest)
              | _ => none
          | _ => none
      | _ => none

end

/-- The part that a whole text is. -/
def readWholeText? (text : String) : Option Part := do
  let chars := text.toList
  let (part, rest) ← readPart (2 * chars.length + 2) (skip chars)
  if (skip rest).isEmpty then return part else none

/-! ### Documents of parts -/

/-- How deep lists and tables may be nested. -/
def maxDepth : Nat := 127

mutual

/-- The document of a part, if all of it stands for something and it is not
nested too deep. -/
def Part.document? (depth : Nat) : Part → Option Document
  | .scalar document => document
  | .list items =>
      if depth = 0 then none else (documents? (depth - 1) items).map .list
  | .table fields =>
      if depth = 0 then none else (fieldDocuments? (depth - 1) fields).map .table

def documents? (depth : Nat) : List Part → Option (List Document)
  | [] => some []
  | part :: rest => do return (← part.document? depth) :: (← documents? depth rest)

def fieldDocuments? (depth : Nat) :
    List (Option String × Part) → Option (List (String × Document))
  | [] => some []
  | (name, part) :: rest => do
      return (← name, ← part.document? depth) :: (← fieldDocuments? depth rest)

end

/-- The document that a whole text spells. Of several fields of one name the
last counts. -/
def read? (text : String) : Option Document :=
  ((readWholeText? text).bind (·.document? maxDepth)).map Document.distinct

/-! ### Records -/

/-- The fields of a record, each with what to look at inside of it. -/
abbrev Record := List (String × (Part → Option Part))

def keepFields (record : Record) :
    List (Option String × Part) → Option (List (Option String × Part))
  | [] => some []
  | (name, part) :: rest => do
      let name ← name
      let others ← keepFields record rest
      match record.lookup name with
      | none => return others
      | some keep => return (some name, ← keep part) :: others

def keepItems : Record → List Part → Option (List Part)
  | (_, keep) :: record, part :: rest => do return (← keep part) :: (← keepItems record rest)
  | [], rest => some rest
  | _, [] => some []

/-- Drops the fields that a record does not have without looking at them. The
names of all fields are looked at. -/
def keep (record : Record) : Part → Option Part
  | .table fields => (keepFields record fields).map .table
  | .list items => (keepItems record items).map .list
  | scalar => some scalar

def keepEach (inner : Part → Option Part) : Part → Option Part
  | .list items => (items.mapM inner).map .list
  | other => some other

end Interception.Json
