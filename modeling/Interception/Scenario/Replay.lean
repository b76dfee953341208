import Interception.Document.Basic
import Interception.Host.Threads
import Interception.Scenario.Basic

/-!
Replaying a scenario on a host. Every step runs to its end before the next
one begins; automatic clients answer what the step is asked meanwhile.
-/

namespace Interception

structure StepResult where
  step : Nat
  op : String
  target : String
  ok : Bool
  result : String
  /-- Milliseconds of the clock that the step took. -/
  elapsed : Nat
  deriving DecidableEq, Repr

namespace StepResult

def fields (result : StepResult) : List (String × Document) := [
  ("step", result.step), ("op", result.op), ("target", result.target), ("ok", result.ok),
  ("result", result.result), ("elapsed_ms", result.elapsed)]

end StepResult

/-- The threads of a replay, and the files opened and not closed yet, the
latest first. -/
structure Replay where
  threads : Threads (Except Errno (Option OpenFile))
  handles : List (String × OpenFile)

namespace Replay

def ofHost (host : Host) : Replay := ⟨.ofHost host, []⟩

def host (replay : Replay) : Host := replay.threads.host

def setHost (replay : Replay) (host : Host) : Replay :=
  { replay with threads := { replay.threads with host } }

def success : Bool × String := (true, "ok")

def failed (message : String) : Bool × String := (false, message)

/-- Runs a call of the replay's own thread. -/
def call (replay : Replay) (body : Syscall Host (Option OpenFile)) :
    Except Errno (Option OpenFile) × Replay :=
  let (answer, threads) := replay.threads.run body.run
  (answer.getD (.ok none), { replay with threads })

def unit (replay : Replay) (body : Syscall Host Unit) : (Bool × String) × Replay :=
  match replay.call (do body; return none) with
  | (.ok _, later) => (success, later)
  | (.error errno, later) => (failed errno.render, later)

def caller : Caller := ⟨"main", none, false⟩

def openFile (replay : Replay) (task : Personality) (path : String) (flags : UInt32) :
    (Bool × String) × Replay :=
  match replay.call (some <$> Host.openFile caller task path flags) with
  | (.ok file, later) =>
      (success, { later with handles := (file.toList.map (path, ·)) ++ later.handles })
  | (.error errno, later) => (failed errno.render, later)

def closeFile (replay : Replay) (task : Personality) (path : String) :
    (Bool × String) × Replay :=
  match replay.handles.lookup path with
  | none => (failed "no open handle", replay)
  | some file =>
      { replay with handles := replay.handles.eraseP (·.1 == path) }.unit
        (Host.closeFile caller task file)

def addFile (replay : Replay) (mount name : String) : (Bool × String) × Replay :=
  match replay.host.kernel.addFile mount name with
  | .ok (_, kernel) => (success, replay.setHost { replay.host with kernel })
  | .error errno => (failed errno.render, replay)

def set (replay : Replay) (component key value : String) : (Bool × String) × Replay :=
  match Host.setSetting caller replay.host component key value with
  | .ok host => (success, replay.setHost host)
  | .error error => (failed error.message, replay)

def perform (replay : Replay) : Step → (Bool × String) × Replay
  | .openFile task path flags => replay.openFile task path flags
  | .closeFile task path => replay.closeFile task path
  | .mount task device dir fsType flags =>
      replay.unit (Host.mount caller task device dir fsType flags)
  | .umount task dir => replay.unit (Host.umount caller task dir)
  | .addFile mount name => replay.addFile mount name
  | .propagation mount count =>
      (success, replay.setHost { replay.host with
        kernel := replay.host.kernel.setPropagation mount count })
  | .set component key value => replay.set component key value
  | .sleep time => (success, { replay with threads := replay.threads.sleep time })

def performFrom (replay : Replay) (number : Nat) : List Step → List StepResult × Replay
  | [] => ([], replay)
  | step :: rest =>
      let ((ok, result), later) := replay.perform step
      let (results, final) := later.performFrom (number + 1) rest
      let elapsed := later.host.clock - replay.host.clock
      (⟨number, step.name, step.target, ok, result, elapsed⟩ :: results, final)

/-- Performs the steps in order. -/
def run (replay : Replay) (steps : List Step) : List StepResult × Replay :=
  replay.performFrom 0 steps

/-- Registers an automatic client for every group. -/
def enlist (replay : Replay) (pid : Int32) (policy : Vetting.PathPolicy) :
    Except Vetting.VettingError Replay :=
  (replay.threads.enlist caller "simulate" 255 pid policy).map fun (_, threads) =>
    { replay with threads }

/-- Ends the automatic clients; the answer counts what each one answered. -/
def dismiss (replay : Replay) : List Nat × Replay :=
  let (answered, threads) := replay.threads.stopAuto
  (answered, { replay with threads })

/-- Shuts the service down; the answer counts the filesystems restored. -/
def shutdown (replay : Replay) : Except Patch.PatchError Nat × Replay :=
  let restoring : Threads (Except Patch.PatchError Nat) :=
    ⟨replay.host, [], replay.threads.auto, replay.threads.link⟩
  let (restored, threads) := restoring.run Host.shutdown
  (restored.getD (.ok 0),
    { replay with threads := ⟨threads.host, [], threads.auto, threads.link⟩ })

end Replay

end Interception
