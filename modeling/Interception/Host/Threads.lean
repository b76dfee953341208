import Interception.Host.Service
import Interception.Transport.Process

/-!
Threads over one host. A thread runs its call until it sleeps; after every
step all threads that can go on do so, automatic clients answer what they
can fetch and connections are served, until nothing more happens. Time passes only when somebody
sleeps it away: a caller that waits for its own sleeping call moves the
clock to that call's deadline.
-/

namespace Interception

inductive Thread (Value : Type) : Type
  | finished (value : Value)
  | sleeping (sleep : Sleep) (resume : Bool → Host → Run Host Value)

/-- A client whose own thread answers every request by a policy. -/
structure AutoClient where
  id : Vetting.ClientId
  policy : Vetting.PathPolicy
  answered : Nat

structure Threads (Value : Type) where
  host : Host
  pool : List (String × Thread Value)
  auto : List AutoClient
  link : Transport.Link

namespace Threads

variable {Value : Type}

def ofHost (host : Host) : Threads Value := ⟨host, [], [], .idle⟩

/-- The thread that a run has come to, and the state it left. -/
def settled : Run Host Value → Host × Thread Value
  | .done host value => (host, .finished value)
  | .asleep host sleep resume => (host, .sleeping sleep resume)

/-- Whether a sleeper may go on before its time is up. -/
def ready (host : Host) (sleep : Sleep) : Bool :=
  match sleep.wait with
  | .verdict ticket token =>
      match host.vetting.board.get? ticket with
      | some found => found.stirred && (host.ending token ticket false).isSome
      | none => true
  | .work client groups =>
      match (host.vetting.board.fetch client groups).1 with
      | .ok none => false
      | _ => true
  | .drained entry => host.table.isDrained entry
  | .idle => host.active == 0

/-- A waiter that looks at its ticket and sleeps on. -/
def look (host : Host) (sleep : Sleep) : Host :=
  match sleep.wait with
  | .verdict ticket _ =>
      { host with vetting.board := host.vetting.board.setStirred ticket false }
  | _ => host

/-- Lets one thread go on if it can. -/
def advanceThread (host : Host) : Thread Value → Bool × Host × Thread Value
  | .finished value => (false, host, .finished value)
  | .sleeping sleep resume =>
      if ready host sleep then
        let (later, thread) := settled (resume false host)
        (true, later, thread)
      else (false, look host sleep, .sleeping sleep resume)

def advancePool (host : Host) :
    List (String × Thread Value) → Bool × Host × List (String × Thread Value)
  | [] => (false, host, [])
  | (id, thread) :: rest =>
      let (moved, later, thread) := advanceThread host thread
      let (others, final, rest) := advancePool later rest
      (moved || others, final, (id, thread) :: rest)

def autoCaller : Caller := ⟨"auto", none, false⟩

/-- An automatic client answers one request, if there is one. -/
def answerOne (host : Host) (client : AutoClient) : Bool × Host × AutoClient :=
  match host.vetting.fetchGroups client.id with
  | .error _ => (false, host, client)
  | .ok groups =>
      match host.vetting.fetchPass client.id groups with
      | (.ok (some request), vetting) =>
          let (_, vetting) := vetting.respond client.id (client.policy.answer request)
          (true, { host with vetting }, { client with answered := client.answered + 1 })
      | (_, vetting) => (false, { host with vetting }, client)

def answerAll (host : Host) : List AutoClient → Bool × Host × List AutoClient
  | [] => (false, host, [])
  | client :: rest =>
      let (moved, later, client) := answerOne host client
      let (others, final, rest) := answerAll later rest
      (moved || others, final, client :: rest)

/-- Registers an automatic client. -/
def enlist (threads : Threads Value) (caller : Caller) (name : String) (groups : UInt8)
    (pid : Int32) (policy : Vetting.PathPolicy) :
    Except Vetting.VettingError (Vetting.ClientId × Threads Value) := do
  let (id, vetting, records) ← threads.host.vetting.register name groups pid
  let host := { threads.host with vetting }.note caller records
  return (id, { threads with host, auto := threads.auto ++ [⟨id, policy, 0⟩] })

/-- An automatic client leaves. -/
def retireAuto (host : Host) (client : AutoClient) : Host :=
  let (_, vetting, records) := host.vetting.unregister client.id
  { host with vetting }.note autoCaller records

/-- Ends all automatic clients; the answer counts what each one answered. -/
def stopAuto (threads : Threads Value) : List Nat × Threads Value :=
  (threads.auto.map (·.answered),
    { threads with host := threads.auto.foldl retireAuto threads.host, auto := [] })

/-- Automatic clients leave a board that has been shut down. -/
def dropAuto (threads : Threads Value) : Threads Value :=
  if threads.host.vetting.board.closed then threads.stopAuto.2 else threads

/-- One round over all threads, automatic clients and connections. -/
def round (threads : Threads Value) : Bool × Threads Value :=
  let (moved, host, pool) := advancePool threads.host threads.pool
  let (answered, host, auto) := answerAll host threads.auto
  let (served, host, link) := threads.link.round host
  (moved || answered || served, dropAuto ⟨host, pool, auto, link⟩)

/-- Rounds until nothing more happens, or so many at most. -/
def settle : Nat → Threads Value → Threads Value
  | 0, threads => threads
  | rounds + 1, threads =>
      match threads.round with
      | (true, later) => settle rounds later
      | (false, later) => later

/-- More rounds than a settling of these threads takes: each call sleeps a
few times, each entry is drained once and each request is delivered once. -/
def rounds (threads : Threads Value) : Nat :=
  64 + 16 * (threads.pool.length + threads.host.table.entries.length +
    threads.host.vetting.board.live.length + threads.link.server.connections.length +
    threads.link.processes.length)

def settleAll (threads : Threads Value) : Threads Value :=
  threads.settle threads.rounds

/-- Ends the sleep of a thread whose deadline has come. -/
def expireThread (host : Host) : Thread Value → Host × Thread Value
  | .finished value => (host, .finished value)
  | .sleeping sleep resume =>
      match sleep.deadline with
      | some deadline =>
          if deadline ≤ host.clock then settled (resume true host)
          else (host, .sleeping sleep resume)
      | none => (host, .sleeping sleep resume)

def expirePool (host : Host) :
    List (String × Thread Value) → Host × List (String × Thread Value)
  | [] => (host, [])
  | (id, thread) :: rest =>
      let (later, thread) := expireThread host thread
      let (final, rest) := expirePool later rest
      (final, (id, thread) :: rest)

/-- Moves the clock and ends every sleep that is due. -/
def advanceTo (threads : Threads Value) (time : Nat) : Threads Value :=
  let moved := { threads.host with clock := max threads.host.clock time }
  let (host, pool) := expirePool moved threads.pool
  settleAll { threads with host, pool }

def sleep (threads : Threads Value) (time : Nat) : Threads Value :=
  threads.advanceTo (threads.host.clock + time)

/-- Starts a thread. -/
def spawn (threads : Threads Value) (id : String) (call : Call Host Value) : Threads Value :=
  let (host, thread) := settled (call.start threads.host)
  settleAll { threads with host, pool := threads.pool ++ [(id, thread)] }

def thread? (threads : Threads Value) (id : String) : Option (Thread Value) :=
  threads.pool.lookup id

def isFinished : Thread Value → Bool
  | .finished _ => true
  | .sleeping .. => false

def removeThread (threads : Threads Value) (id : String) : Threads Value :=
  { threads with pool := threads.pool.filter (·.1 != id) }

/-- Waits for a thread and takes its value. Each sleep of the thread costs
one move of the clock, and there are only so many. -/
def joinWithin : Nat → Threads Value → String → Option Value × Threads Value
  | 0, threads, _ => (none, threads)
  | moves + 1, threads, id =>
      match threads.thread? id with
      | none => (none, threads)
      | some (.finished value) => (some value, threads.removeThread id)
      | some (.sleeping sleep _) =>
          match sleep.deadline with
          | none => (none, threads)
          | some deadline => joinWithin moves (threads.advanceTo deadline) id

def join (threads : Threads Value) (id : String) : Option Value × Threads Value :=
  joinWithin 64 threads id

/-- Lets time pass until a test holds or no process is left that would go on
by itself, or so many times at most. -/
def awaitWithin (test : Threads Value → Bool) : Nat → Threads Value → Threads Value
  | 0, threads => threads
  | moves + 1, threads =>
      if test threads then threads
      else
        match threads.link.nextDue threads.host.clock with
        | some due => awaitWithin test moves (threads.advanceTo due)
        | none => threads

def await (threads : Threads Value) (test : Threads Value → Bool) : Threads Value :=
  threads.settleAll.awaitWithin test 64

/-- Changes the connections and lets what follows from it happen. -/
def modifyLink (threads : Threads Value) (change : Transport.Link → Transport.Link) :
    Threads Value :=
  settleAll { threads with link := change threads.link }

def modifyServer (threads : Threads Value) (change : Transport.Server → Transport.Server) :
    Threads Value :=
  threads.modifyLink fun link => { link with server := change link.server }

def startProcess (threads : Threads Value) (process : Transport.ClientProcess) : Threads Value :=
  threads.modifyLink fun link => { link with processes := link.processes ++ [process] }

/-- Runs a call on a thread of its own and waits for it. -/
def run (threads : Threads Value) (call : Call Host Value) : Option Value × Threads Value :=
  (threads.spawn "" call).join ""

end Threads

end Interception
