import Interception.Event
import Interception.Report

/-!
The filter chain. One report travels through the enabled filters in order
until one of them settles it. Every filter that saw the event then learns
the outcome, the last one first, together with the name of the filter that
decided. What a filter does besides is left to the monad it runs in.
-/

namespace Interception

inductive ErrorPolicy
  | deny
  | allow
  deriving DecidableEq, Repr

def ErrorPolicy.name : ErrorPolicy → String
  | deny => "deny"
  | allow => "allow"

structure Filter (Effect : Type → Type) where
  name : String
  enabled : Effect Bool
  examine : Personality → Event → Report → Effect Report
  conclude : Personality → Event → Report → Option String → Effect Unit

namespace Chain

variable {Effect : Type → Type} [Monad Effect]

/-- What is left of a walk: the report, who decided, and the filters that
saw the event, the last one first. -/
structure Walked (Effect : Type → Type) where
  report : Report
  decidedBy : Option String
  seen : List (Filter Effect)

def walk (task : Personality) (event : Event) :
    List (Filter Effect) → Report → List (Filter Effect) → Effect (Walked Effect)
  | [], report, seen => pure ⟨report, none, seen⟩
  | filter :: rest, report, seen => do
      if ← filter.enabled then
        let after ← filter.examine task event report
        if after.final then pure ⟨after, some filter.name, filter :: seen⟩
        else walk task event rest after (filter :: seen)
      else walk task event rest report seen

def notify (task : Personality) (event : Event) (report : Report) (decidedBy : Option String) :
    List (Filter Effect) → Effect Unit
  | [] => pure ()
  | filter :: rest => do
      filter.conclude task event report decidedBy
      notify task event report decidedBy rest

def evaluate (filters : List (Filter Effect)) (task : Personality) (event : Event) :
    Effect Report := do
  let walked ← walk task event filters Report.fresh []
  notify task event walked.report walked.decidedBy walked.seen
  return walked.report

/-- What a settled report means for the caller. -/
def decide (policy : ErrorPolicy) (report : Report) : Except Errno Unit :=
  match report.action with
  | .next | .allow => .ok ()
  | .deny => .error (report.code.getD Errno.EACCES)
  | .timeout =>
      match report.code with
      | some code => .error code
      | none => .ok ()
  | .restart => .error Errno.ERESTARTSYS
  | .error =>
      match policy with
      | .deny => .error (report.code.getD Errno.EIO)
      | .allow => .ok ()

end Chain

end Interception
