import Interception.Config.Decode
import Interception.Document.Path

/-!
Loading a configuration: the defaults, then a file, then the environment. A
key on the top level of a file is a path, and what it leads to is merged key
by key at any depth. The name of a variable is a path too, with double
underscores for the dots, behind a common lead and in any case of letters.
-/

namespace Interception

namespace Document

def largestSigned : Int := 9223372036854775807

mutual

/-- Takes integers of more than 63 bits for real numbers. -/
def widened : Document → Document
  | integer value => if largestSigned < value then real (.ofInt value) else integer value
  | list items => list (widenedItems items)
  | table fields => table (widenedFields fields)
  | scalar => scalar

def widenedItems : List Document → List Document
  | [] => []
  | item :: rest => widened item :: widenedItems rest

def widenedFields : List (String × Document) → List (String × Document)
  | [] => []
  | (name, value) :: rest => (name, widened value) :: widenedFields rest

end

end Document

namespace Config

def variableLead : String := "vfsguard__"

/-- Writes a dot for each double underscore. -/
def dotted : List Char → List Char
  | '_' :: '_' :: rest => '.' :: dotted rest
  | c :: rest => c :: dotted rest
  | [] => []

/-- The path of an environment variable, if it is one of ours. -/
def pathOfVariable? (name : String) : Option Document.Path :=
  (Text.after variableLead (Text.lower name)).map fun key =>
    Document.Path.ofKey (String.ofList (dotted key.toList))

def overlayVariables (base : Document) (environment : List (String × String)) : Document :=
  environment.foldl (fun document entry =>
    match pathOfVariable? entry.1 with
    | some path => Document.putAt (.text entry.2) path document
    | none => document) base

/-- Lays the document of a file over another. One that is no table adds
nothing. -/
def overlayFile (base file : Document) : Document :=
  file.widened.fields.foldl (fun document field =>
    Document.putAt field.2 (Document.Path.ofKey field.1) document) base

/-- A configuration of a file's document and an environment. A file may be
absent, but not unreadable. -/
def load (file : Option (Option Document)) (environment : List (String × String)) :
    Except ConfigError Config := do
  let layered ←
    match file with
    | none => pure standard.document
    | some none => throw .unreadable
    | some (some document) => pure (overlayFile standard.document document)
  match decodeBy Coercion.converting (overlayVariables layered environment) with
  | none => throw .unfit
  | some config =>
      config.validate
      return config

end Config

end Interception
