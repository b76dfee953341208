import Interception.Document.Basic
import Interception.Double.Shortest

/-!
Documents as JSON text, on one line or laid out with one value per line. A
real number has the fewest digits that read back. It is written with a point
unless that takes too many zeros; then it has an exponent.
-/

namespace Interception.Json

def hexDigit (value : Nat) : Char :=
  Char.ofNat (if value < 10 then 48 + value else 87 + value)

/-- Quotes, backslashes and control characters are escaped, nothing else. -/
def escape (c : Char) : String :=
  if c = '"' then "\\\""
  else if c = '\\' then "\\\\"
  else if c = '\x08' then "\\b"
  else if c = '\x0c' then "\\f"
  else if c = '\n' then "\\n"
  else if c = '\r' then "\\r"
  else if c = '\t' then "\\t"
  else if c.toNat < 32 then
    "\\u00" ++ String.ofList [hexDigit (c.toNat / 16), hexDigit (c.toNat % 16)]
  else c.toString

def quoted (text : String) : String :=
  "\"" ++ String.join (text.toList.map escape) ++ "\""

/-- Digits before the point that are written without an exponent. -/
def mostWhole : Int := 16

/-- Zeros after the point that are written without an exponent. -/
def mostZeros : Int := 4

/-- Digits with a point after the first, and an exponent. -/
def scientific (digits : String) (exponent : Int) : String :=
  match digits.toList with
  | first :: second :: rest =>
      String.ofList (first :: '.' :: second :: rest) ++ "e" ++ toString exponent
  | _ => digits ++ "e" ++ toString exponent

def decimal (value : Decimal) : String :=
  let digits := toString value.digits
  let point := digits.length + value.exponent
  if point ≤ -mostZeros - 1 ∨ mostWhole < point then scientific digits (point - 1)
  else if 0 ≤ value.exponent then value.plain ++ ".0"
  else value.plain

/-- What is no number is written as null. -/
def real : Double → String
  | .finite negative size =>
      (if negative then "-" else "") ++ decimal (size.shortest .even)
  | _ => "null"

mutual

def compact : Document → String
  | .null => "null"
  | .flag value => toString value
  | .integer value => toString value
  | .real value => real value
  | .text value => quoted value
  | .list items => "[" ++ String.intercalate "," (compactItems items) ++ "]"
  | .table fields => "\x7b" ++ String.intercalate "," (compactFields fields) ++ "\x7d"

def compactItems : List Document → List String
  | [] => []
  | item :: rest => compact item :: compactItems rest

def compactFields : List (String × Document) → List String
  | [] => []
  | (name, value) :: rest => (quoted name ++ ":" ++ compact value) :: compactFields rest

end

/-- Adds a comma to every line group but the last and indents them all. -/
def block : List (List String) → List String
  | [] => []
  | [last] => last.map ("  " ++ ·)
  | lines :: rest =>
      (lines.dropLast ++ (lines.getLast?.map (· ++ ",")).toList).map ("  " ++ ·) ++ block rest

def labelled (name : String) : List String → List String
  | [] => []
  | line :: rest => (quoted name ++ ": " ++ line) :: rest

mutual

/-- The lines of a document, each nested value two blanks further in. -/
def prettyLines : Document → List String
  | .list [] => ["[]"]
  | .table [] => ["\x7b\x7d"]
  | .list items => "[" :: block (prettyItems items) ++ ["]"]
  | .table fields => "\x7b" :: block (prettyFields fields) ++ ["\x7d"]
  | .null => ["null"]
  | .flag value => [toString value]
  | .integer value => [toString value]
  | .real value => [real value]
  | .text value => [quoted value]

def prettyItems : List Document → List (List String)
  | [] => []
  | item :: rest => prettyLines item :: prettyItems rest

def prettyFields : List (String × Document) → List (List String)
  | [] => []
  | (name, value) :: rest => labelled name (prettyLines value) :: prettyFields rest

end

def pretty (document : Document) : String :=
  String.intercalate "\n" (prettyLines document)

end Interception.Json
