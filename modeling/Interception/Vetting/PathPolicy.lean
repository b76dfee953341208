import Interception.Vetting.Request

/-!
A policy by path prefixes, as a simple vetting client answers. The longest
matching prefix decides; of two equally long ones the later pushed.
-/

namespace Interception.Vetting

structure PathRule where
  lead : String
  decision : Decision
  deriving DecidableEq, Repr

structure PathPolicy where
  rules : List PathRule
  otherwise : Decision
  denyCode : Int32
  deriving DecidableEq, Repr

namespace PathPolicy

/-- The prefix without its trailing slashes covers itself and everything
below it; an empty one covers all. -/
def covers (lead path : String) : Bool :=
  match Text.dropEndWhile (· == '/') lead.toList with
  | [] => true
  | directory =>
      match Text.afterLead directory path.toList with
      | some [] => true
      | some (c :: _) => c == '/'
      | none => false

/-- A rule for the same text replaces the earlier one and goes last. -/
def push (policy : PathPolicy) (lead : String) (decision : Decision) : PathPolicy :=
  { policy with rules := policy.rules.filter (·.lead != lead) ++ [⟨lead, decision⟩] }

def ofLists (allowed denied : List String) (otherwise : Decision) (denyCode : Int32) :
    PathPolicy :=
  let allowing := allowed.foldl (fun policy lead => policy.push lead .allow)
    ⟨[], otherwise, denyCode⟩
  denied.foldl (fun policy lead => policy.push lead .deny) allowing

/-- The rule with the longest text, the last of several. -/
def longest : List PathRule → Option PathRule
  | [] => none
  | rule :: rest =>
      match longest rest with
      | none => some rule
      | some best =>
          if best.lead.utf8ByteSize < rule.lead.utf8ByteSize then some rule else some best

def decide (policy : PathPolicy) (path : Option String) : Decision :=
  match path with
  | none => policy.otherwise
  | some path =>
      match longest (policy.rules.filter (covers ·.lead path)) with
      | some rule => rule.decision
      | none => policy.otherwise

def answer (policy : PathPolicy) (request : Request) : Response :=
  match policy.decide request.path with
  | .allow => ⟨request.ticket, .allow, none⟩
  | .deny => ⟨request.ticket, .deny, some policy.denyCode⟩

end PathPolicy

end Interception.Vetting
