import Interception.Document.Basic

/-!
Documents as TOML text. The values of a table come before its tables; a list
of two items or more has a line for each. A string is written in the plainest
of four styles that needs no escapes, or else with escapes between double
quotes.
-/

namespace Interception.Toml

/-- What decides how a string can be written. The runs are those of single
and double quotes. -/
structure Shape where
  singles : Nat
  doubles : Nat
  longestSingles : Nat
  longestDoubles : Nat
  backslash : Bool
  newline : Bool
  control : Bool

def Shape.start : Shape := ⟨0, 0, 0, 0, false, false, false⟩

def Shape.step (shape : Shape) (c : Char) : Shape :=
  let singles := if c = '\'' then shape.singles + 1 else 0
  let doubles := if c = '"' then shape.doubles + 1 else 0
  { singles, doubles
    longestSingles := max shape.longestSingles singles
    longestDoubles := max shape.longestDoubles doubles
    backslash := shape.backslash || c == '\\', newline := shape.newline || c == '\n'
    control := shape.control || (c.toNat < 32 && c != '\t' && c != '\n') || c.toNat == 127 }

def shapeOf (text : String) : Shape :=
  text.toList.foldl Shape.step Shape.start

/-- The quotes around a string: one or three, double ones with escapes or
single ones without. -/
inductive Style
  | double
  | single
  | tripleDouble
  | tripleSingle
  deriving DecidableEq, Repr

def Style.mark : Style → String
  | double => "\""
  | single => "'"
  | tripleDouble => "\"\"\""
  | tripleSingle => "'''"

def Style.triple : Style → Bool
  | tripleDouble | tripleSingle => true
  | _ => false

def Style.escapes : Style → Bool
  | double | tripleDouble => true
  | _ => false

def Shape.style (shape : Shape) : Style :=
  let plain := !shape.control && !shape.backslash
  if plain && !shape.newline && shape.longestDoubles == 0 then .double
  else if !shape.control && !shape.newline && shape.longestSingles == 0 then .single
  else if plain && shape.longestDoubles ≤ 2 then .tripleDouble
  else if !shape.control && shape.longestSingles ≤ 2 then .tripleSingle
  else if shape.newline then .tripleDouble
  else .double

def hexDigit (value : Nat) : Char :=
  Char.ofNat (if value < 10 then 48 + value else 55 + value)

/-- A character other than a quote between double quotes. -/
def escape (triple : Bool) (c : Char) : String :=
  if c = '\x08' then "\\b"
  else if c = '\t' then "\\t"
  else if c = '\n' then if triple then "\n" else "\\n"
  else if c = '\x0c' then "\\f"
  else if c = '\r' then "\\r"
  else if c = '\\' then "\\\\"
  else if c.toNat < 32 ∨ c.toNat = 127 then
    "\\u00" ++ String.ofList [hexDigit (c.toNat / 16), hexDigit (c.toNat % 16)]
  else c.toString

/-- Quotes that may stand in a row between three double quotes. -/
def quotesInRow : Nat := 2

/-- The escaped characters behind so many quotes in a row. -/
def escaped (triple : Bool) : Nat → List Char → String
  | _, [] => ""
  | quotes, c :: rest =>
      if c = '"' then
        if triple ∧ quotes < quotesInRow then "\"" ++ escaped triple (quotes + 1) rest
        else "\\\"" ++ escaped triple 0 rest
      else escape triple c ++ escaped triple 0 rest

def string (text : String) : String :=
  let shape := shapeOf text
  let style := shape.style
  let body := if style.escapes then escaped style.triple 0 text.toList else text
  let opening := if style.triple ∧ shape.newline then style.mark ++ "\n" else style.mark
  opening ++ body ++ style.mark

def largestInteger : Int := 9223372036854775807

mutual

/-- A value on the right of an equals sign, if it can be written there. -/
def value? : Document → Option String
  | .flag value => some (toString value)
  | .integer value => if value ≤ largestInteger then some (toString value) else none
  | .text value => some (string value)
  | .list items => (values? items).map fun items =>
      match items with
      | [] => "[]"
      | [item] => "[" ++ item ++ "]"
      | _ => "[\n" ++ String.join (items.map fun item => "    " ++ item ++ ",\n") ++ "]"
  | _ => none

def values? : List Document → Option (List String)
  | [] => some []
  | item :: rest => do return (← value? item) :: (← values? rest)

end

mutual

/-- The blocks of a table: its own values under its name, then its tables. -/
def blocks (path : List String) : List (String × Document) → Option (List String × List String)
  | [] => some ([], [])
  | (name, value) :: rest => do
      let (entries, tables) ← blocks path rest
      match ← tableBlocks (path ++ [name]) value with
      | [] => return ((name ++ " = " ++ (← value? value)) :: entries, tables)
      | inner => return (entries, inner ++ tables)

def tableBlocks (path : List String) : Document → Option (List String)
  | .table fields => do
      let (entries, tables) ← blocks path fields
      let header := "[" ++ String.intercalate "." path ++ "]"
      return String.intercalate "\n" (header :: entries) :: tables
  | _ => some []

end

/-- A table of tables as text, with a blank line between blocks. -/
def render? : Document → Option String
  | .table fields => do
      let (entries, tables) ← blocks [] fields
      let top := if entries.isEmpty then [] else [String.intercalate "\n" entries]
      return String.intercalate "\n\n" (top ++ tables) ++ "\n"
  | _ => none

end Interception.Toml
