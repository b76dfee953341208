import Interception.Text.Blank

/-!
What a filter recommends for one event. Every action but `next` settles the
event.
-/

namespace Interception

inductive Action
  | restart
  | next
  | allow
  | deny
  | error
  | timeout
  deriving DecidableEq, Repr

namespace Action

def all : List Action := [restart, next, allow, deny, error, timeout]

def terminal : Action → Bool
  | next => false
  | _ => true

def name : Action → String
  | restart => "restart"
  | next => "next"
  | allow => "allow"
  | deny => "deny"
  | error => "error"
  | timeout => "timeout"

def ofName? (word : String) : Option Action :=
  all.find? fun action => action.name = Text.lower word

/-- What is said about a word that names no action. -/
def refusal (word : String) : String :=
  "Invalid action: " ++ word

end Action

end Interception
