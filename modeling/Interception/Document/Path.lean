import Interception.Document.Basic
import Interception.Text.Blank

/-!
Paths into a document: the name of a field, then names and positions. What
stands on the way of a value and is of another kind gives way to a table or a
list. At the end of a path two tables merge, and any other value replaces
what was there.
-/

namespace Interception

namespace Document

/-- Lays one document over another. Only two tables merge, and an empty table
hides nothing. -/
def overlay (base upper : Document) : Document :=
  match upper with
  | .table [] => base
  | .table (field :: rest) =>
      match base with
      | .table below => .table (overlayFields below (field :: rest))
      | _ => .table (overlayFields [] (field :: rest))
  | other => other
where
  overlayFields (below : List (String × Document)) :
      List (String × Document) → List (String × Document)
    | [] => below
    | (name, value) :: rest =>
        overlayFields
          (setField name (overlay ((field? name below).getD (.table [])) value) below) rest

inductive Step
  | key (name : String)
  /-- A position in a list, counted from its end when it is negative. -/
  | index (position : Int)
  deriving DecidableEq, Repr

abbrev Path := List Step

def fields : Document → List (String × Document)
  | .table fields => fields
  | _ => []

def items : Document → List Document
  | .list items => items
  | _ => []

/-- The place of a position in a list of some length. -/
def placeOf (length : Nat) (position : Int) : Nat :=
  if 0 ≤ position then position.toNat else length - position.natAbs

/-- Changes the item at a place. A list that is too short is filled up with
nulls. -/
def alterItem (change : Document → Document) : Nat → List Document → List Document
  | 0, [] => [change null]
  | 0, item :: rest => change item :: rest
  | place + 1, [] => null :: alterItem change place []
  | place + 1, item :: rest => item :: alterItem change place rest

/-- Puts a value at the end of a path. -/
def putAt (value : Document) : Path → Document → Document
  | [], _ => value
  | [.key name], base => overlay (table base.fields) (table [(name, value)])
  | .key name :: rest, base =>
      let inner := (field? name base.fields).getD null
      table (setField name (putAt value rest inner) base.fields)
  | .index position :: rest, base =>
      list (alterItem (putAt value rest) (placeOf base.items.length position) base.items)

end Document

namespace Document.Path

/-- Characters of the names on a path. -/
def inName (c : Char) : Bool :=
  c.isAlphanum || c == ' ' || c == '_' || c == '-'

def isInset (c : Char) : Bool := c == ' ' || c == '\t'

/-- The largest position that can be written. -/
def largest : Nat := 9223372036854775807

def digitsValue (digits : List Char) : Nat :=
  digits.foldl (fun value c => value * 10 + (c.toNat - 48)) 0

/-- A position between brackets, once the first of them is read. -/
def readPosition (chars : List Char) : Option (Int × List Char) :=
  let chars := chars.dropWhile isInset
  let (negative, digits) :=
    match chars with
    | '-' :: rest => (true, rest)
    | _ => (false, chars)
  let value := digitsValue (digits.takeWhile Char.isDigit)
  match digits.head?.map Char.isDigit, (digits.dropWhile Char.isDigit).dropWhile isInset with
  | some true, ']' :: rest =>
      if negative then if value ≤ largest + 1 then some (-value, rest) else none
      else if value ≤ largest then some (value, rest)
      else none
  | _, _ => none

/-- The steps behind the first name. -/
def readSteps : Nat → List Char → Option Path
  | 0, _ => none
  | _, [] => some []
  | fuel + 1, '.' :: chars =>
      match chars.takeWhile inName with
      | [] => none
      | name => (readSteps fuel (chars.dropWhile inName)).map (.key (String.ofList name) :: ·)
  | fuel + 1, '[' :: chars =>
      match readPosition chars with
      | some (position, rest) => (readSteps fuel rest).map (.index position :: ·)
      | none => none
  | _, _ => none

def read? (chars : List Char) : Option Path :=
  match chars.takeWhile inName with
  | [] => none
  | name =>
      (readSteps (chars.length + 1) (chars.dropWhile inName)).map (.key (String.ofList name) :: ·)

/-- The path that a key spells. What spells none is a name by itself. -/
def ofKey (key : String) : Path :=
  (read? key.toList).getD [.key key]

end Document.Path

end Interception
