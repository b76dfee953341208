import Interception.Action
import Interception.Errno
import Interception.Text.Number

/-!
The verdict record that one event carries through the filter chain. The
first terminal action written into it stays; the error code, the vetting
mark and the timeout count may still change.
-/

namespace Interception

structure Report where
  action : Action
  code : Option Errno
  vetted : Bool
  timeouts : Nat
  deriving DecidableEq, Repr

namespace Report

def fresh : Report := ⟨.next, none, false, 0⟩

def final (report : Report) : Bool :=
  report.action.terminal

/-- A settled report keeps its action. -/
def recommend (report : Report) (action : Action) : Report :=
  if report.final then report else { report with action }

/-- A settled report keeps its action and its code. -/
def conclude (report : Report) (action : Action) (code : Option Errno) : Report :=
  if report.final then report else { report with action, code }

def setCode (report : Report) (code : Errno) : Report :=
  { report with code := some code }

def setVetted (report : Report) (vetted : Bool) : Report :=
  { report with vetted }

/-- The count stays at the largest 32-bit value once it gets there. -/
def recordTimeouts (report : Report) (count : Nat) : Report :=
  { report with timeouts := min (report.timeouts + count) Text.limit32 }

def recordTimeout (report : Report) : Report :=
  report.recordTimeouts 1

end Report

end Interception
