import Interception.Event
import Interception.Text.Quoted

/-!
Routing of events to vetting groups. A rule names a filesystem type or a
path prefix and the group that vets what it matches; the first matching rule
decides. Prefixes match whole path components.
-/

namespace Interception.Vetting

def groupCount : Nat := 8

inductive RuleTarget
  | filesystem (name : String)
  | path (lead : String)
  deriving DecidableEq, Repr

structure RoutingRule where
  target : RuleTarget
  group : Nat
  deriving DecidableEq, Repr

inductive RuleError
  | noGroup (rule : String)
  | badGroup (rule : String)
  | groupRange (group : Nat)
  | relativePath (path : String)
  | unknownTarget (rule : String)
  | emptyMatch (rule : String)
  deriving DecidableEq, Repr

def RuleError.message : RuleError → String
  | noGroup rule => "Routing rule " ++ Text.quoted rule ++ " lacks '=<group>'"
  | badGroup rule => "Invalid group in routing rule " ++ Text.quoted rule
  | groupRange group => "Group " ++ toString group ++ " out of range (0.." ++
      toString groupCount ++ ")"
  | relativePath path => "Path prefix " ++ Text.quoted path ++ " must be absolute"
  | unknownTarget rule => "Routing rule " ++ Text.quoted rule ++ " must start with fs: or path:"
  | emptyMatch rule => "Empty match in routing rule " ++ Text.quoted rule

/-- Whether `lead`, read up to its trailing slashes, is the path itself or a
directory above it. The root alone covers every absolute path. -/
def pathUnder (lead path : String) : Bool :=
  if lead = "/" then path.toList.head? == some '/'
  else
    match Text.afterLead (Text.dropEndWhile (· == '/') lead.toList) path.toList with
    | some [] => true
    | some (c :: _) => c == '/'
    | none => false

namespace RoutingRule

def covers (rule : RoutingRule) (event : Event) : Bool :=
  match rule.target with
  | .filesystem name => event.fsType == name
  | .path lead =>
      match event.subject with
      | some path => pathUnder lead path
      | none => false

def render (rule : RoutingRule) : String :=
  match rule.target with
  | .filesystem name => "fs:" ++ name ++ "=" ++ toString rule.group
  | .path lead => "path:" ++ lead ++ "=" ++ toString rule.group

/-- The text before and after the last equals sign. -/
def splitGroup (rule : String) : Option (String × String) :=
  let reversed := rule.toList.reverse
  match reversed.dropWhile (· != '=') with
  | [] => none
  | _ :: before =>
      some (String.ofList before.reverse,
        String.ofList (reversed.takeWhile (· != '=')).reverse)

def parseTarget (rule target : String) : Except RuleError RuleTarget :=
  match Text.after "fs:" target with
  | some name =>
      if Text.trim name = "" then .error (.emptyMatch rule)
      else .ok (.filesystem (Text.trim name))
  | none =>
      match Text.after "path:" target with
      | some path =>
          if (Text.trim path).toList.head? = some '/' then .ok (.path (Text.trim path))
          else .error (.relativePath (Text.trim path))
      | none => .error (.unknownTarget rule)

/-- The group is judged before the target. -/
def parse (text : String) : Except RuleError RoutingRule :=
  let rule := Text.trim text
  match splitGroup rule with
  | none => .error (.noGroup rule)
  | some (target, groupText) =>
      match Text.readNat Text.limit8 (Text.trim groupText) with
      | .error _ => .error (.badGroup rule)
      | .ok group =>
          if group < groupCount then (parseTarget rule target).map (⟨·, group⟩)
          else .error (.groupRange group)

end RoutingRule

inductive Route
  | group (number : Nat)
  | unrouted
  deriving DecidableEq, Repr

structure RoutingTable where
  rules : List RoutingRule
  defaultGroup : Nat
  unroutedAllow : Bool
  deriving DecidableEq, Repr

namespace RoutingTable

def route (table : RoutingTable) (event : Event) : Route :=
  match table.rules.find? (·.covers event) with
  | some rule => .group rule.group
  | none => if table.unroutedAllow then .unrouted else .group table.defaultGroup

def parseRules (list : String) : Except RuleError (List RoutingRule) :=
  if Text.trim list = "" ∨ Text.trim list = "none" then .ok []
  else (Text.items (fun c => c == ',' || c == '\n') (Text.trim list)).mapM RoutingRule.parse

/-- Replaces the rules by those of a list, or fails and keeps them. -/
def setRules (table : RoutingTable) (list : String) : Except RuleError RoutingTable :=
  (parseRules list).map fun rules => { table with rules }

def render (table : RoutingTable) : String :=
  "\n".intercalate (table.rules.map RoutingRule.render)

end RoutingTable

end Interception.Vetting
