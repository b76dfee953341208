import Interception.Double.Basic

/-!
Documents: the values that configuration files and scenarios are made of.
-/

namespace Interception

inductive Document
  | null
  | flag (value : Bool)
  | integer (value : Int)
  | real (value : Double)
  | text (value : String)
  | list (items : List Document)
  | table (fields : List (String × Document))

namespace Document

/-- The value of a field. The last of several fields of one name counts. -/
def field? (name : String) (fields : List (String × Document)) : Option Document :=
  (fields.reverse.find? (·.1 == name)).map (·.2)

/-- Puts a field in place of one of the same name, or last. -/
def setField (name : String) (value : Document) :
    List (String × Document) → List (String × Document)
  | [] => [(name, value)]
  | field :: rest =>
      if field.1 = name then (name, value) :: rest else field :: setField name value rest

instance : Coe String Document := ⟨text⟩

instance : Coe Bool Document := ⟨flag⟩

def count (value : Nat) : Document := integer value

instance : Coe Nat Document := ⟨count⟩

def texts (values : List String) : Document :=
  list (values.map text)

def ofOption {Value : Type} (put : Value → Document) : Option Value → Document
  | some value => put value
  | none => null

mutual

/-- Keeps of several fields of one name only the last, at any depth. -/
def distinct : Document → Document
  | list items => list (distinctItems items)
  | table fields => table (distinctFields [] fields)
  | scalar => scalar

def distinctItems : List Document → List Document
  | [] => []
  | item :: rest => distinct item :: distinctItems rest

def distinctFields (seen : List (String × Document)) :
    List (String × Document) → List (String × Document)
  | [] => seen
  | (name, value) :: rest => distinctFields (setField name (distinct value) seen) rest

end

end Document

end Interception
