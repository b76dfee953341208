import Interception.Operation
import Interception.Text.Quoted
import Interception.Vetting.Routing

/-!
Settings of running components: named keys with a text value each. An
update is refused with a reason, and a refused update changes nothing.
-/

namespace Interception

/-- Why a value was refused. -/
inductive Refusal
  | notSwitch
  | notFlag
  | notNumber
  | belowOne
  | notPositive
  | groupRange
  | badDuration (cause : Text.NumberError)
  | badRule (cause : Vetting.RuleError)
  | badFallback (text : String)
  | badNoClient (text : String)
  | protectedName (name : String)
  | malformedItem (item : String)
  | unsignedItem
  | unknownOperation (name : String)
  deriving DecidableEq, Repr

def Refusal.message : Refusal → String
  | notSwitch => "expected enable or disable"
  | notFlag => "expected true or false"
  | notNumber => "not a number"
  | belowOne => "must be at least 1"
  | notPositive => "must be positive"
  | groupRange => "must be below " ++ toString Vetting.groupCount
  | badDuration cause => cause.message
  | badRule cause => cause.message
  | badFallback text => "Invalid fallback: " ++ text
  | badNoClient text => "Invalid no-client action: " ++ text
  | protectedName name => name ++ " is protected"
  | malformedItem item => "malformed item " ++ Text.quoted item
  | unsignedItem => "items must start with + or -"
  | unknownOperation name => "unknown operation " ++ name

inductive SettingError
  | unknownKey (component key : String)
  | readOnly (key : String)
  | invalidValue (key value : String) (reason : Refusal)
  | unknownComponent (component : String)
  | alreadyAttached (component : String)
  deriving DecidableEq, Repr

def SettingError.message : SettingError → String
  | unknownKey component key => component ++ " has no configuration key " ++ key
  | readOnly key => "configuration key " ++ key ++ " is read-only"
  | invalidValue key value reason =>
      "invalid value " ++ Text.quoted value ++ " for " ++ key ++ ": " ++ reason.message
  | unknownComponent component => "no configurable component named " ++ component
  | alreadyAttached component => "component " ++ component ++ " is already attached"

structure Setting where
  key : String
  value : String
  locked : Bool
  deriving DecidableEq, Repr

namespace Setting

def free (key value : String) : Setting := ⟨key, value, false⟩

def lockedAt (key value : String) : Setting := ⟨key, value, true⟩

def find? (settings : List Setting) (key : String) : Option Setting :=
  settings.find? (·.key == key)

end Setting

/-- The signed operations of one update, applied from left to right. -/
def OperationSet.applyItems (ops : OperationSet) : List String → Except Refusal OperationSet
  | [] => .ok ops
  | item :: rest =>
      match item.toList with
      | '+' :: name => step (String.ofList name) true rest
      | '-' :: name => step (String.ofList name) false rest
      | _ => .error .unsignedItem
where
  step (name : String) (member : Bool) (rest : List String) : Except Refusal OperationSet :=
    match Operation.named? (Text.trim name) with
    | some operation => applyItems (ops.put operation member) rest
    | none => .error (.unknownOperation name)

def OperationSet.apply (ops : OperationSet) (update : String) : Except Refusal OperationSet :=
  ops.applyItems (Text.items (· == ',') update)

/-- The set of the named operations, or the first name that is none. -/
def OperationSet.ofNames : List String → Except String OperationSet
  | names => names.foldlM (fun ops name =>
      match Operation.named? (Text.trim name) with
      | some operation => .ok (ops.put operation true)
      | none => .error name) OperationSet.empty

end Interception
