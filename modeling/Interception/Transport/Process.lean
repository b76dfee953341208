import Interception.Transport.Client
import Interception.Transport.Server
import Interception.Vetting.PathPolicy

/-!
Client processes that answer by a policy. A process connects, trying again
after growing delays, answers requests until it has answered enough or the
server hangs up, and exits with a code.
-/

namespace Interception.Transport

structure ProcessPlan where
  name : String
  groups : UInt8
  policy : Vetting.PathPolicy
  codec : Wire.Codec
  retry : RetryPolicy
  deriving DecidableEq, Repr

inductive Phase
  /-- Attempts count from one; the next one is due at a time of the clock. -/
  | connecting (attempt due : Nat)
  | registering (attempt : Nat)
  | serving
  | exited (code : Nat)
  deriving DecidableEq, Repr

structure ClientProcess where
  label : String
  plan : ProcessPlan
  /-- Requests to answer before leaving. -/
  remaining : Option Nat
  phase : Phase
  deriving DecidableEq, Repr

namespace ClientProcess

def start (label : String) (plan : ProcessPlan) (remaining : Option Nat) (clock : Nat) :
    ClientProcess :=
  ⟨label, plan, remaining, .connecting 1 clock⟩

/-- A process that has ended without ever connecting. -/
def ended (label : String) (code : Nat) : ClientProcess :=
  ⟨label, ⟨"", 0, ⟨[], .allow, 0⟩, .standard, .standard⟩, none, .exited code⟩

def exit (process : ClientProcess) (code : Nat) : ClientProcess :=
  { process with phase := .exited code }

/-- After a failed attempt: wait for the next one, or give up. -/
def failed (process : ClientProcess) (attempt clock : Nat) : ClientProcess :=
  if attempt < process.plan.retry.maxAttempts then
    { process with
      phase := .connecting (attempt + 1) (clock + (process.plan.retry.delayAfter attempt).millis) }
  else process.exit 1

def attempt (process : ClientProcess) (number clock : Nat) (server : Server) :
    ClientProcess × Server :=
  match server.connect process.label 0 with
  | none => (process.failed number clock, server)
  | some opened =>
      match Client.opening process.plan.codec process.plan.name process.plan.groups with
      | .error _ => (process.failed number clock, opened.hangUp process.label)
      | .ok bytes =>
          ({ process with phase := .registering number }, opened.push process.label bytes)

def awaitReply (process : ClientProcess) (number clock : Nat) (server : Server) :
    Option (ClientProcess × Server) :=
  match server.pull process.plan.codec process.label with
  | (.nothing, _) => none
  | (.packet (.ok (.registered _)), later) => some ({ process with phase := .serving }, later)
  | (_, later) => some (process.failed number clock, later.hangUp process.label)

/-- Sends a last packet, unless the server is gone already. -/
def sayGoodbye (process : ClientProcess) (server : Server) : ClientProcess × Server :=
  match server.connection? process.label, process.plan.codec.encode .goodbye with
  | some connection, .ok bytes =>
      if connection.closed then (process.exit 1, server)
      else (process.exit 0, (server.push process.label bytes).hangUp process.label)
  | _, _ => (process.exit 1, server)

def answer (process : ClientProcess) (request : Vetting.Request) (server : Server) :
    ClientProcess × Server :=
  let response := process.plan.policy.answer request
  match server.connection? process.label, process.plan.codec.encode (.response response) with
  | some connection, .ok bytes =>
      if connection.closed then (process.exit 1, server)
      else
        ({ process with remaining := process.remaining.map (· - 1) },
          server.push process.label bytes)
  | _, _ => (process.exit 1, server.hangUp process.label)

def serve (process : ClientProcess) (server : Server) : Option (ClientProcess × Server) :=
  if process.remaining = some 0 then some (process.sayGoodbye server)
  else
    match server.pull process.plan.codec process.label with
    | (.nothing, _) => none
    | (.ended, later) => some (process.exit 0, later.hangUp process.label)
    | (.packet (.ok (.request asked)), later) => some (process.answer asked later)
    | (.packet _, later) => some (process, later)

/-- One thing that a process can do now, if there is any. -/
def advance (process : ClientProcess) (clock : Nat) (server : Server) :
    Option (ClientProcess × Server) :=
  match process.phase with
  | .connecting number due => if due ≤ clock then some (process.attempt number clock server) else none
  | .registering number => process.awaitReply number clock server
  | .serving => process.serve server
  | .exited _ => none

/-- When a process that waits for its next attempt goes on. -/
def due? (process : ClientProcess) : Option Nat :=
  match process.phase with
  | .connecting _ due => some due
  | _ => none

def code? (process : ClientProcess) : Option Nat :=
  match process.phase with
  | .exited code => some code
  | _ => none

end ClientProcess

def advanceProcesses (clock : Nat) (server : Server) :
    List ClientProcess → Bool × Server × List ClientProcess
  | [] => (false, server, [])
  | process :: rest =>
      match process.advance clock server with
      | some (moved, later) =>
          let (_, final, others) := advanceProcesses clock later rest
          (true, final, moved :: others)
      | none =>
          let (any, final, others) := advanceProcesses clock server rest
          (any, final, process :: others)

/-- A server and the processes that may connect to it. -/
structure Link where
  server : Server
  processes : List ClientProcess

namespace Link

/-- No service at all. -/
def idle : Link := ⟨{ Server.ofCodec .standard with serving := false }, []⟩

def ofCodec (codec : Wire.Codec) : Link := ⟨.ofCodec codec, []⟩

def round (link : Link) (host : Host) : Bool × Host × Link :=
  let (served, later, server) := link.server.round host
  let (moved, final, processes) := advanceProcesses later.clock server link.processes
  (served || moved, later, ⟨final, processes⟩)

/-- The earliest time after now at which a process goes on by itself. -/
def nextDue (link : Link) (clock : Nat) : Option Nat :=
  (link.processes.filterMap ClientProcess.due?).filter (clock < ·) |>.min?

def process? (link : Link) (label : String) : Option ClientProcess :=
  link.processes.reverse.find? (·.label == label)

end Link

end Interception.Transport
