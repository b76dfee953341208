import Interception.Audit
import Interception.Report
import Interception.Settings
import Interception.Switch

/-!
The log of noteworthy verdicts. It never changes a verdict; once the chain
has settled it records denials and the timeouts that let an operation
through.
-/

namespace Interception

structure ActionLog where
  enabled : Bool
  logged : Nat
  deriving DecidableEq, Repr

namespace ActionLog

def name : String := "ActionLog"

def ofEnabled (enabled : Bool) : ActionLog := ⟨enabled, 0⟩

/-- A close interrupted by a signal is tried again by its caller and leaves
no record. -/
def retriedClose (report : Report) (event : Event) : Bool :=
  !report.vetted && event.operation == .closeFile && report.code == some Errno.ERESTARTSYS

def record? (report : Report) (task : Personality) (event : Event) : Option AuditRecord :=
  if retriedClose report event then none
  else
    match report.action with
    | .timeout =>
        if report.code = some Errno.ETIME then some (.denied task event Errno.ETIME false)
        else some (.timeoutAllowed task event report.timeouts)
    | .deny => some (.denied task event (report.code.getD Errno.EACCES) report.vetted)
    | _ => none

def conclude (log : ActionLog) (report : Report) (task : Personality) (event : Event) :
    ActionLog × List AuditRecord :=
  match record? report task event with
  | some record => ({ log with logged := log.logged + 1 }, [record])
  | none => (log, [])

def settings (log : ActionLog) : List Setting :=
  [.free "status" (Switch.render log.enabled)]

def set (log : ActionLog) (key value : String) : Except SettingError ActionLog :=
  if key = "status" then
    match Switch.parse? value with
    | some enabled => .ok { log with enabled }
    | none => .error (.invalidValue key value .notSwitch)
  else .error (.unknownKey name key)

end ActionLog

end Interception
