import Interception.Document.Basic

/-!
Fields of a document that may be left out. A field that is absent, null or
of another kind counts as its default.
-/

namespace Interception.Document

/-- A field as it is, null or not. -/
def raw? (document : Document) (name : String) : Option Document :=
  match document with
  | table fields => field? name fields
  | _ => none

def get? (document : Document) (name : String) : Option Document :=
  match document.raw? name with
  | some null => none
  | found => found

def asText? : Document → Option String
  | text value => some value
  | _ => none

def asInteger? : Document → Option Int
  | integer value => some value
  | _ => none

def asFlag? : Document → Option Bool
  | flag value => some value
  | _ => none

def asList? : Document → Option (List Document)
  | list items => some items
  | _ => none

def text? (document : Document) (name : String) : Option String :=
  (document.get? name).bind asText?

def textOr (fallback : String) (document : Document) (name : String) : String :=
  (document.text? name).getD fallback

def textAt : Document → String → String := textOr ""

def integer? (document : Document) (name : String) : Option Int :=
  (document.get? name).bind asInteger?

def integerOr (fallback : Int) (document : Document) (name : String) : Int :=
  (document.integer? name).getD fallback

def count? (document : Document) (name : String) : Option Nat :=
  (document.integer? name).map Int.toNat

def countOr (fallback : Nat) (document : Document) (name : String) : Nat :=
  (document.count? name).getD fallback

def flagOr (fallback : Bool) (document : Document) (name : String) : Bool :=
  ((document.get? name).bind asFlag?).getD fallback

def listAt (document : Document) (name : String) : List Document :=
  ((document.get? name).bind asList?).getD []

def textsAt (document : Document) (name : String) : List String :=
  (document.listAt name).filterMap asText?

/-- A table that is absent counts as an empty one. -/
def tableAt (document : Document) (name : String) : Document :=
  (document.get? name).getD (table [])

end Interception.Document
