import Interception.Proofs.Host.Shielding

/-!
Runs of events through the service, of which any number may be under way at a
time. What the processor does in them is read off the moments in which an event
begins or goes on: when the mode was entered, when its probes came, which events
it answered itself, and whose end took it out of the mode.
-/

namespace Interception.Host

/-- An event begins or goes on: which one it is, who else is under way, what it
found and left, and its verdict if it has ended. -/
structure Moment where
  number : Nat
  begins : Bool
  others : List Nat
  before : Host
  after : Host
  verdict : Option Report

def verdict? : Run Host Report → Option Report
  | .done _ report => some report
  | .asleep .. => none

/-- Events that wait for vetting, each with its number. -/
abbrev Sleepers : Type := List (Nat × (Bool → Host → Run Host Report))

structure Stage where
  host : Host
  sleepers : Sleepers

def Stage.after (sleepers : Sleepers) (number : Nat) : Run Host Report → Stage
  | .done host _ => ⟨host, sleepers⟩
  | .asleep host _ resume => ⟨host, (number, resume) :: sleepers⟩

def Moment.of (begins : Bool) (host : Host) (sleepers : Sleepers) (number : Nat)
    (run : Run Host Report) : Moment :=
  ⟨number, begins, sleepers.map Prod.fst, host, run.state, verdict? run⟩

namespace Moment

/-- An event begins in the mode and is let through to vetting. -/
def probe (moment : Moment) : Bool :=
  moment.begins && moment.before.degraded.probes moment.before.clock

/-- The mode ends. -/
def leaves (moment : Moment) : Bool :=
  moment.before.degraded.active && !moment.after.degraded.active

end Moment

/-- When the mode was entered that is on at the end, and when its probes came;
the latest time first. -/
def marks : List Moment → List Nat
  | [] => []
  | moment :: earlier =>
      if moment.after.degraded.active then
        if moment.before.degraded.active then
          if moment.probe then moment.before.clock :: marks earlier else marks earlier
        else [moment.before.clock]
      else []

variable {first host later : Host} {sleepers : Sleepers} {moments : List Moment} {stage : Stage}
  {number : Nat}

/-- What a turn makes of the processor it met. -/
structure Turned (met after : Host) : Prop where
  chain : after.chain = met.chain
  tuned : Degraded.Tuned met.degraded after.degraded
  standing : after.degraded.active = true →
    (met.degraded.active = true ∧ after.degraded.lastProbe = met.degraded.lastProbe) ∨
    (met.degraded.active = false ∧ after.degraded.lastProbe = some met.clock)

variable {mode : Degraded} {moment : Moment}

end Interception.Host
