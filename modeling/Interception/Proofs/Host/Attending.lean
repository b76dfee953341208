import Interception.Host.Threads
import Interception.Proofs.Host.Turns

/-!
Clients beside a host. Whoever connects, fetches, answers or leaves changes
who is registered with vetting, what is on its board and what is recorded,
and nothing else. So a call that ends at once, run on a thread of its own,
answers as it does without any threads, and leaves the host as it did up to
what the clients have changed. Where nobody attends, nothing is changed.
-/

namespace Interception

namespace Host

/-- What clients leave alone of a host. -/
structure Beside (host later : Host) : Prop where
  kernel : later.kernel = host.kernel
  table : later.table = host.table
  clock : later.clock = host.clock
  chain : later.chain = host.chain
  hook : later.hook = host.hook
  degraded : later.degraded = host.degraded
  enabled : later.vetting.enabled = host.vetting.enabled
  rules : later.vetting.rules = host.vetting.rules

variable {host middle later : Host}

theorem Beside.refl (host : Host) : Beside host host := ⟨rfl, rfl, rfl, rfl, rfl, rfl, rfl, rfl⟩

theorem Beside.trans (first : Beside host middle) (second : Beside middle later) :
    Beside host later :=
  ⟨second.kernel.trans first.kernel, second.table.trans first.table,
    second.clock.trans first.clock, second.chain.trans first.chain, second.hook.trans first.hook,
    second.degraded.trans first.degraded, second.enabled.trans first.enabled,
    second.rules.trans first.rules⟩

/-- Where time has passed, too. -/
theorem beside_later {time : Nat} (before : Nat)
    (first : Beside { host with clock := before } middle)
    (second : Beside { middle with clock := time } later) :
    Beside { host with clock := time } later :=
  ⟨second.kernel.trans first.kernel, second.table.trans first.table, second.clock,
    second.chain.trans first.chain, second.hook.trans first.hook,
    second.degraded.trans first.degraded, second.enabled.trans first.enabled,
    second.rules.trans first.rules⟩

theorem beside_noted (beside : Beside host later) (caller : Caller) (records : List AuditRecord) :
    Beside host (later.note caller records) :=
  ⟨beside.kernel, beside.table, beside.clock, beside.chain, beside.hook, beside.degraded,
    beside.enabled, beside.rules⟩

theorem beside_moved {move : Vetting.Move} {vetting : Vetting.Controller}
    (moved : Moved move host.vetting vetting) : Beside host { host with vetting } :=
  ⟨rfl, rfl, rfl, rfl, rfl, rfl, moved.enabled, moved.rules⟩

/-- A client that is not there cannot leave. -/
theorem unregister_beside (host : Host) (id : Vetting.ClientId) (caller : Caller) :
    Beside host ({ host with vetting := (host.vetting.unregister id).2.1 }.note caller
      (host.vetting.unregister id).2.2) := by
  apply beside_noted
  rcases same : host.vetting.unregister id with ⟨left, vetting, records⟩
  cases left with
  | true =>
      obtain ⟨orphaned, moved⟩ := unregister_moved same
      exact beside_moved moved
  | false =>
      unfold Vetting.Controller.unregister at same
      split at same <;> cases same
      exact Beside.refl host

theorem respond_beside (host : Host) (id : Vetting.ClientId) (response : Vetting.Response) :
    Beside host { host with vetting := (host.vetting.respond id response).2 } :=
  beside_moved (respond_moved host.vetting id response)

theorem fetchPass_beside (host : Host) (id : Vetting.ClientId) (groups : Vetting.GroupMask) :
    Beside host { host with vetting := (host.vetting.fetchPass id groups).2 } :=
  beside_moved (fetchPass_moved host.vetting id groups)

end Host

/-! ### Connections -/

namespace Transport.Server

open Host

variable {host later : Host} {connection after : Connection}

theorem countRejected_beside (host : Host) (reason : Reason) :
    Beside host (countRejected host reason) := ⟨rfl, rfl, rfl, rfl, rfl, rfl, rfl, rfl⟩

theorem welcome_beside (server : Server)
    (moved : server.welcome host connection = some (later, after)) : Beside host later := by
  unfold welcome at moved
  split at moved
  · split at moved <;> cases moved
    exact Beside.refl host
  · cases moved
    exact Beside.refl host
  · cases moved
    exact countRejected_beside host _
  · split at moved
    · rename_i registered
      cases moved
      exact beside_noted (beside_moved (register_moved registered)) caller _
    · cases moved
      exact Beside.refl host
  · cases moved
    exact countRejected_beside host _

theorem received_beside (server : Server) (id : Vetting.ClientId) (received : List Received) :
    ∀ state : Host × Connection,
      Beside state.1 (received.foldl (server.applyReceived id) state).1 := by
  induction received with
  | nil => exact fun state => Beside.refl state.1
  | cons first rest rest_beside =>
      rintro ⟨host, connection⟩
      have heard : Beside host (server.applyReceived id (host, connection) first).1 := by
        cases first with
        | response answer => exact respond_beside host id answer
        | rejected reason message => exact countRejected_beside host reason
      exact heard.trans (rest_beside _)

theorem listen_beside (server : Server) (id : Vetting.ClientId)
    (moved : server.listen id host connection = some (later, after)) : Beside host later := by
  -- Answers are applied first, whatever becomes of the connection then.
  have heard := received_beside server id (read server.codec connection.inbox).received
    (host, connection)
  unfold listen at moved
  split at moved
  · cases moved
    exact unregister_beside host id caller
  · simp only at moved
    split at moved
    · cases moved
      exact heard.trans (unregister_beside _ id caller)
    · cases moved
      exact heard.trans ((countRejected_beside _ _).trans (unregister_beside _ id caller))
    · split at moved
      · cases moved
        exact heard.trans (unregister_beside _ id caller)
      · split at moved <;> cases moved
        exact heard

theorem deliver_beside (server : Server) (id : Vetting.ClientId)
    (moved : server.deliver id host connection = some (later, after)) : Beside host later := by
  unfold deliver at moved
  split at moved
  · cases moved
  · split at moved
    · cases moved
    · rename_i groups _
      have fetched := fetchPass_beside host id groups
      split at moved
      · rename_i found
        rw [found] at fetched
        cases moved
        exact fetched
      · cases moved

theorem advance_beside (server : Server)
    (moved : server.advance host connection = some (later, after)) : Beside host later := by
  unfold advance at moved
  split at moved
  · cases moved
  · split at moved
    · exact welcome_beside server moved
    · rename_i id _
      cases heard : server.listen id host connection with
      | some state =>
          rw [heard] at moved
          cases moved
          exact listen_beside server id heard
      | none =>
          rw [heard] at moved
          exact deliver_beside server id moved

theorem advanceAll_beside (server : Server) (connections : List Connection) :
    ∀ host, Beside host (server.advanceAll host connections).2.1 := by
  induction connections with
  | nil => exact Beside.refl
  | cons connection rest rest_beside =>
      intro host
      unfold advanceAll
      cases moved : server.advance host connection with
      | none => exact rest_beside host
      | some state => exact (advance_beside server moved).trans (rest_beside state.1)

end Transport.Server

/-! ### Rounds -/

namespace Threads

open Host

variable {Value : Type} {threads : Threads Value}

theorem answerOne_beside (host : Host) (client : AutoClient) :
    Beside host (answerOne host client).2.1 := by
  unfold answerOne
  split
  · exact Beside.refl host
  · rename_i groups _
    have fetched := fetchPass_beside host client.id groups
    split
    · rename_i found
      rw [found] at fetched
      exact fetched.trans (respond_beside _ client.id _)
    · rename_i found
      rw [found] at fetched
      exact fetched

theorem answerAll_beside (clients : List AutoClient) :
    ∀ host, Beside host (answerAll host clients).2.1 := by
  induction clients with
  | nil => exact Beside.refl
  | cons client rest rest_beside =>
      exact fun host => (answerOne_beside host client).trans (rest_beside _)

theorem retireAuto_beside (clients : List AutoClient) :
    ∀ host, Beside host (clients.foldl retireAuto host) := by
  induction clients with
  | nil => exact Beside.refl
  | cons client rest rest_beside =>
      exact fun host => (unregister_beside host client.id autoCaller).trans (rest_beside _)

theorem dropAuto_beside (threads : Threads Value) :
    Beside threads.host threads.dropAuto.host ∧ threads.dropAuto.pool = threads.pool := by
  unfold dropAuto
  split
  · exact ⟨retireAuto_beside threads.auto threads.host, rfl⟩
  · exact ⟨Beside.refl threads.host, rfl⟩

/-- No thread is asleep. -/
def Awake (pool : List (String × Thread Value)) : Prop :=
  ∀ thread ∈ pool, ∃ value, thread.2 = .finished value

theorem advancePool_awake {pool : List (String × Thread Value)} (awake : Awake pool) (host : Host) :
    advancePool host pool = (false, host, pool) := by
  induction pool with
  | nil => rfl
  | cons thread rest rest_still =>
      obtain ⟨id, thread⟩ := thread
      obtain ⟨value, finished⟩ := awake (id, thread) (by simp)
      obtain rfl : thread = .finished value := finished
      have others := rest_still fun other member => awake other (List.mem_cons_of_mem _ member)
      simp only [advancePool, advanceThread, others]
      rfl

theorem expirePool_awake {pool : List (String × Thread Value)} (awake : Awake pool) (host : Host) :
    expirePool host pool = (host, pool) := by
  induction pool with
  | nil => rfl
  | cons thread rest rest_still =>
      obtain ⟨id, thread⟩ := thread
      obtain ⟨value, finished⟩ := awake (id, thread) (by simp)
      obtain rfl : thread = .finished value := finished
      have others := rest_still fun other member => awake other (List.mem_cons_of_mem _ member)
      simp only [expirePool, expireThread, others]

/-- No client is there to answer, and none is to come. -/
structure Unattended (threads : Threads Value) : Prop where
  auto : threads.auto = []
  connections : threads.link.server.connections = []
  processes : threads.link.processes = []

theorem unattended_host (unattended : Unattended threads) (host : Host) :
    Unattended { threads with host } :=
  ⟨unattended.auto, unattended.connections, unattended.processes⟩

/-- What ensues on a step leaves the threads' host to the clients. -/
structure Ensues (threads later : Threads Value) : Prop where
  beside : Beside threads.host later.host
  pool : later.pool = threads.pool
  unattended : Unattended threads → later = threads

theorem round_ensues (awake : Awake threads.pool) : Ensues threads threads.round.2 := by
  have still := advancePool_awake awake threads.host
  have answered := answerAll_beside threads.auto threads.host
  have served := Transport.Server.advanceAll_beside threads.link.server
    threads.link.server.connections (answerAll threads.host threads.auto).2.1
  obtain ⟨dropped, pool⟩ := dropAuto_beside
    (⟨(threads.link.round (answerAll threads.host threads.auto).2.1).2.1, threads.pool,
      (answerAll threads.host threads.auto).2.2,
      (threads.link.round (answerAll threads.host threads.auto).2.1).2.2⟩ : Threads Value)
  constructor
  case beside =>
    rw [round, still]
    exact answered.trans (served.trans dropped)
  case pool =>
    rw [round, still]
    exact pool
  case unattended =>
    obtain ⟨host, pool, auto, ⟨codec, serving, connections⟩, processes⟩ := threads
    rintro ⟨rfl, rfl, rfl⟩
    rw [round, still]
    show dropAuto _ = _
    unfold dropAuto
    split <;> rfl

theorem settle_ensues (rounds : Nat) :
    ∀ threads : Threads Value, Awake threads.pool → Ensues threads (threads.settle rounds) := by
  induction rounds with
  | zero => exact fun threads _ => ⟨Beside.refl threads.host, rfl, fun _ => rfl⟩
  | succ rounds rest_ensues =>
      intro threads awake
      have first := round_ensues awake
      unfold settle
      rcases same : threads.round with ⟨moved, later⟩
      rw [same] at first
      cases moved with
      | false => exact first
      | true =>
          have rest := rest_ensues later (first.pool ▸ awake)
          refine ⟨first.beside.trans rest.beside, rest.pool.trans first.pool, ?_⟩
          intro unattended
          obtain rfl : later = threads := first.unattended unattended
          exact rest.unattended unattended

/-! ### Calls that end at once -/

/-- A thread that ends at once leaves what its call leaves. -/
theorem run_done {call : Call Host Value} {value : Value} {later : Host}
    (idle : threads.pool = []) (ran : call threads.host = .done later value) :
    ∃ left, threads.run call = (some value, left) ∧ Ensues { threads with host := later } left := by
  have spawned : threads.spawn "" call = settleAll
      { threads with host := later, pool := [("", .finished value)] } := by
    rw [spawn, Call.start, ran, idle]
    rfl
  -- The thread has finished before the rounds begin, so none of them wakes it.
  have ensues := settle_ensues
    (rounds { threads with host := later, pool := [("", .finished value)] })
    { threads with host := later, pool := [("", .finished value)] } (by simp [Awake])
  have pool : (threads.spawn "" call).pool = [("", .finished value)] := by
    rw [spawned]
    exact ensues.pool
  refine ⟨(threads.spawn "" call).removeThread "", ?_, ?_⟩
  · rw [run, join, joinWithin, thread?, pool]
    rfl
  · constructor
    case beside =>
      rw [spawned]
      exact ensues.beside
    case pool =>
      rw [removeThread, pool, idle]
      rfl
    case unattended =>
      intro unattended
      have same : settleAll { threads with host := later, pool := [("", .finished value)] } =
          { threads with host := later, pool := [("", .finished value)] } :=
        ensues.unattended ⟨unattended.auto, unattended.connections, unattended.processes⟩
      rw [spawned, same, removeThread, idle]
      rfl

theorem advanceTo_ensues (idle : threads.pool = []) (time : Nat) :
    Ensues { threads with host.clock := max threads.host.clock time } (threads.advanceTo time) := by
  have awake : Awake threads.pool := by simp [Awake, idle]
  rw [advanceTo, expirePool_awake awake]
  exact settle_ensues _ _ awake

theorem sleep_ensues (idle : threads.pool = []) (time : Nat) :
    Ensues { threads with host.clock := threads.host.clock + time } (threads.sleep time) := by
  have moved := advanceTo_ensues idle (threads.host.clock + time)
  rw [Nat.max_eq_right (Nat.le_add_right _ _)] at moved
  exact moved

/-- However long a test has to be awaited, only time passes beside what the
clients do. -/
theorem awaitWithin_beside (test : Threads Value → Bool) (moves : Nat) :
    ∀ threads : Threads Value, threads.pool = [] → ∃ time,
      Beside { threads.host with clock := time } (awaitWithin test moves threads).host ∧
        (awaitWithin test moves threads).pool = [] := by
  induction moves with
  | zero => exact fun threads idle => ⟨threads.host.clock, Beside.refl threads.host, idle⟩
  | succ moves rest_beside =>
      intro threads idle
      unfold awaitWithin
      split
      · exact ⟨threads.host.clock, Beside.refl threads.host, idle⟩
      · split
        · rename_i due _
          have moved := advanceTo_ensues idle due
          obtain ⟨time, beside, idle'⟩ :=
            rest_beside (threads.advanceTo due) (moved.pool.trans idle)
          exact ⟨time, beside_later _ moved.beside beside, idle'⟩
        · exact ⟨threads.host.clock, Beside.refl threads.host, idle⟩

end Threads

end Interception
