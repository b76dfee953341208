import Interception.Action
import Interception.Errno
import Interception.Event

/-!
Audit records. A record has a level and named fields; numbers and flags keep
their type so that a reader can filter on them.
-/

namespace Interception

inductive AuditField
  | text (value : String)
  | number (value : Int)
  | flag (value : Bool)
  deriving DecidableEq, Repr

inductive AuditRecord
  | denied (task : Personality) (event : Event) (code : Errno) (vetted : Bool)
  | timeoutAllowed (task : Personality) (event : Event) (timeouts : Nat)
  | filterError (task : Personality) (event : Event) (action : Action)
  | degradedMode (active : Bool) (reason : String)
  | clientChange (name : String) (client : UInt32) (registered : Bool)
  deriving DecidableEq, Repr

namespace AuditRecord

def warns : AuditRecord → Bool
  | denied .. | filterError .. | degradedMode .. => true
  | timeoutAllowed .. | clientChange .. => false

def level (record : AuditRecord) : String :=
  if record.warns then "WARN" else "INFO"

/-- An event without a path shows as unknown. -/
def subjectText (event : Event) : String :=
  event.subject.getD "<unknown>"

def opening (kind : String) (task : Personality) (event : Event) : List (String × AuditField) :=
  [("event", .text kind), ("operation", .text event.operation.name),
    ("subject", .text (subjectText event)), ("pid", .number task.pid.toInt)]

def fields : AuditRecord → List (String × AuditField)
  | denied task event code vetted =>
      opening "denied" task event ++
        [("fs_type", .text event.fsType), ("uid", .number task.uid.toNat),
          ("comm", .text task.comm), ("errno", .text code.render), ("vetted", .flag vetted)]
  | timeoutAllowed task event timeouts =>
      opening "timeout_allowed" task event ++
        [("comm", .text task.comm), ("timeouts", .number timeouts)]
  | filterError task event action =>
      opening "filter_error" task event ++ [("result", .text action.name)]
  | degradedMode active reason =>
      [("event", .text "degraded_mode"), ("active", .flag active), ("reason", .text reason)]
  | clientChange name client registered =>
      [("event", .text (if registered then "client_registered" else "client_unregistered")),
        ("client", .text name), ("client_id", .number client.toNat)]

end AuditRecord

end Interception
