import Interception.Audit
import Interception.Duration
import Interception.Report
import Interception.Settings
import Interception.Switch

/-!
Degraded mode. Consecutive vetting timeouts are counted; at the threshold
the processor begins to answer every event itself with its fallback, so that
callers do not pile up behind a client that has gone silent. Once per probe
interval one event is let through to vetting, and a verdict from there ends
the mode. Times are milliseconds of a clock that the caller reads.
-/

namespace Interception

inductive Fallback
  | allow
  | deny
  deriving DecidableEq, Repr

namespace Fallback

def name : Fallback → String
  | allow => "allow"
  | deny => "deny"

def action : Fallback → Action
  | allow => .allow
  | deny => .deny

def code : Fallback → Option Errno
  | allow => none
  | deny => some Errno.EACCES

def ofWord? (word : String) : Option Fallback :=
  [allow, deny].find? fun fallback => fallback.name = Text.lower word

end Fallback

structure Degraded where
  enabled : Bool
  count : Nat
  threshold : Nat
  fallback : Fallback
  probeInterval : Nat
  active : Bool
  lastProbe : Option Nat
  trips : Nat
  gauge : Nat
  deriving DecidableEq, Repr

namespace Degraded

def name : String := "DegradedModeProcessor"

def ofSettings (enabled : Bool) (threshold : Nat) (fallback : Fallback) (probeInterval : Nat) :
    Degraded :=
  ⟨enabled, 0, max threshold 1, fallback, probeInterval, false, none, 0, 0⟩

def enter (mode : Degraded) (now : Nat) (reason : String) : Degraded × List AuditRecord :=
  if mode.active then (mode, [])
  else
    ({ mode with active := true, lastProbe := some now, trips := mode.trips + 1, gauge := 1 },
      [.degradedMode true reason])

def leave (mode : Degraded) (reason : String) : Degraded × List AuditRecord :=
  if mode.active then
    ({ mode with active := false, lastProbe := none, gauge := 0 }, [.degradedMode false reason])
  else (mode, [])

/-- Whether an event may go to vetting now. Without an interval none may. -/
def probeDue (mode : Degraded) (now : Nat) : Bool :=
  mode.probeInterval != 0 &&
    match mode.lastProbe with
    | some last => mode.probeInterval ≤ now - last
    | none => true

def examine (mode : Degraded) (now : Nat) (report : Report) : Degraded × Report :=
  if mode.active then
    if mode.probeDue now then ({ mode with lastProbe := some now }, report)
    else (mode, report.conclude mode.fallback.action mode.fallback.code)
  else (mode, report)

def countTimeouts (mode : Degraded) (timeouts : Nat) : Degraded :=
  { mode with count := min (mode.count + max timeouts 1) Text.limit32 }

def tripReason (mode : Degraded) : String :=
  toString mode.count ++ " consecutive vetting timeouts"

/-- Learns from a settled report. The processor's own verdicts teach it
nothing. -/
def conclude (mode : Degraded) (now : Nat) (report : Report) (decidedBy : Option String) :
    Degraded × List AuditRecord :=
  if decidedBy = some name then (mode, [])
  else
    match report.action with
    | .timeout =>
        let counted := mode.countTimeouts report.timeouts
        if counted.threshold ≤ counted.count then counted.enter now counted.tripReason
        else (counted, [])
    | .next => (mode, [])
    | _ =>
        let reset := { mode with count := 0 }
        if report.vetted then reset.leave "vetting answered" else (reset, [])

def enable (mode : Degraded) : Degraded × List AuditRecord :=
  ({ mode with enabled := true }, [])

def disable (mode : Degraded) : Degraded × List AuditRecord :=
  { mode with enabled := false, count := 0 }.leave "processor disabled"

def settings (mode : Degraded) : List Setting := [
  .free "status" (Switch.render mode.enabled),
  .free "threshold" (toString mode.threshold),
  .free "active" (toString mode.active),
  .free "fallback" mode.fallback.name,
  .free "probe-interval" (toString mode.probeInterval),
  .lockedAt "timeouts" (toString mode.count)]

def setActive (mode : Degraded) (now : Nat) (active : Bool) : Degraded × List AuditRecord :=
  if active then mode.enter now "forced by configuration"
  else { mode with count := 0 }.leave "cleared by configuration"

def parseThreshold (value : String) : Except Refusal Nat :=
  match Text.readNat Text.limit32 (Text.trim value) with
  | .ok 0 => .error .belowOne
  | .ok threshold => .ok threshold
  | .error _ => .error .notNumber

def update (mode : Degraded) (now : Nat) (value : String) :
    String → Option (Except Refusal (Degraded × List AuditRecord))
  | "status" => some <|
      match Switch.parse? value with
      | some true => .ok mode.enable
      | some false => .ok mode.disable
      | none => .error .notSwitch
  | "threshold" => some ((parseThreshold value).map fun threshold =>
      ({ mode with threshold }, []))
  | "active" => some <|
      match Switch.parse? value with
      | some active => .ok (mode.setActive now active)
      | none => .error .notFlag
  | "fallback" => some <|
      match Fallback.ofWord? value with
      | some fallback => .ok ({ mode with fallback }, [])
      | none => .error (.badFallback value)
  | "probe-interval" => some <|
      match Duration.parse value with
      | .ok probeInterval => .ok ({ mode with probeInterval }, [])
      | .error cause => .error (.badDuration cause)
  | _ => none

def set (mode : Degraded) (now : Nat) (key value : String) :
    Except SettingError (Degraded × List AuditRecord) :=
  if key = "timeouts" then .error (.readOnly key)
  else
    match mode.update now value key with
    | some (.ok changed) => .ok changed
    | some (.error reason) => .error (.invalidValue key value reason)
    | none => .error (.unknownKey name key)

end Degraded

end Interception
