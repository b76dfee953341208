import Interception.Host.Service
import Interception.Proofs.Transport.Framing
import Interception.Proofs.Transport.Writing

/-!
What the read loop of a registered client does. The frames that headers cut
from the client's bytes decide it: each response is taken to the controller,
each other packet and each body that does not decode is counted and answered,
until a goodbye, a faulty header or the end of the stream ends the connection.
The bytes may arrive in any pieces, and between them others act on the host and
queue packets for the client.
-/

namespace Interception.Transport

open Wire

variable {codec : Codec} {server : Server} {id : Vetting.ClientId}

/-! ### Deeds -/

inductive Deed
  | hear (item : Received)
  | count (reason : Reason)
  | leave
  deriving DecidableEq, Repr

namespace Deed

def depart (id : Vetting.ClientId) (host : Host) : Host :=
  { host with vetting := (host.vetting.unregister id).2.1 }.note Server.caller
    (host.vetting.unregister id).2.2

def on (id : Vetting.ClientId) (host : Host) : Deed → Host
  | hear (.response answer) => { host with vetting := (host.vetting.respond id answer).2 }
  | hear (.rejected reason _) | count reason => Server.countRejected host reason
  | leave => depart id host

/-- What is queued for the client in answer. -/
def replies : Deed → List Packet
  | hear (.rejected _ message) => [.error message]
  | hear (.response _) | count _ | leave => []

end Deed

/-- The deeds that a stream asks for once it has ended. -/
def deeds (codec : Codec) (fault : Option WireError) : List (List UInt8) → List Deed
  | [] => (fault.toList.map fun error => .count (Reason.ofError error)) ++ [.leave]
  | body :: rest =>
      match judge (codec.decode body) with
      | some item => .hear item :: deeds codec fault rest
      | none => [.leave]

/-- The cut of what is left goes on the cut of what was taken. -/
theorem Took.cut {stream rest : List UInt8} {items : List Received}
    {bodies : List (List UInt8)} {fault : Option WireError} (took : Took codec stream items rest)
    (cut : Cut codec rest bodies fault) :
    ∃ first, Cut codec stream (first ++ bodies) fault ∧
      deeds codec fault (first ++ bodies) = items.map .hear ++ deeds codec fault bodies := by
  induction took with
  | done => exact ⟨[], cut, rfl⟩
  | @frame header body stream rest item items framed judged later later_cut =>
      obtain ⟨first, whole, same⟩ := later_cut cut
      refine ⟨body :: first, .frame framed whole, ?_⟩
      rw [List.cons_append, deeds, judged]
      exact congrArg _ same

/-! ### Acts -/

/-- What others do between two looks of the read loop. -/
structure Meanwhile where
  change : Host → Host
  packets : List Packet

inductive Act
  | own (deed : Deed)
  | others (meanwhile : Meanwhile)

namespace Act

def own? : Act → Option Deed
  | own deed => some deed
  | others _ => none

def others? : Act → Option Meanwhile
  | own _ => none
  | others meanwhile => some meanwhile

def on (id : Vetting.ClientId) (host : Host) : Act → Host
  | own deed => deed.on id host
  | others meanwhile => meanwhile.change host

end Act

/-- The packets queued for the client, up to its leaving. -/
def queued : List Act → List Packet
  | [] => []
  | .own .leave :: _ => []
  | .own deed :: rest => deed.replies ++ queued rest
  | .others meanwhile :: rest => meanwhile.packets ++ queued rest

theorem queued_heard (items : List Received) (acts : List Act) :
    queued ((items.map Deed.hear).map Act.own ++ acts) =
      (items.map Deed.hear).flatMap Deed.replies ++ queued acts := by
  induction items with
  | nil => rfl
  | cons item rest rest_heard =>
      simp only [List.map_cons, List.cons_append, queued, rest_heard, List.flatMap_cons,
        List.append_assoc]

theorem queued_staying {acts : List Act} (staying : .leave ∉ acts.filterMap Act.own?)
    (more : List Act) : queued (acts ++ more) = queued acts ++ queued more := by
  induction acts with
  | nil => rfl
  | cons act rest rest_staying =>
      cases act with
      | own deed =>
          simp only [List.filterMap_cons, Act.own?, List.mem_cons, not_or] at staying
          cases deed with
          | leave => exact absurd rfl staying.1
          | hear | count => simp [queued, rest_staying staying.2]
      | others meanwhile =>
          simp only [List.filterMap_cons, Act.own?] at staying
          simp [queued, rest_staying staying]

/-- Nothing is queued after leaving. -/
theorem queued_left {acts : List Act} (left : .leave ∈ acts.filterMap Act.own?)
    (more : List Act) : queued (acts ++ more) = queued acts := by
  induction acts with
  | nil => cases left
  | cons act rest rest_left =>
      cases act with
      | own deed =>
          simp only [List.filterMap_cons, Act.own?, List.mem_cons] at left
          cases deed with
          | leave => rfl
          | hear | count =>
              have left := left.resolve_left Deed.noConfusion
              simp [queued, rest_left left]
      | others meanwhile =>
          simp only [List.filterMap_cons, Act.own?] at left
          simp [queued, rest_left left]

/-! ### One look at the inbox -/

theorem received_heard (server : Server) (id : Vetting.ClientId) (items : List Received) :
    ∀ host connection, items.foldl (server.applyReceived id) (host, connection) =
      ((items.map Deed.hear).foldl (Deed.on id) host,
        connection.send server.codec ((items.map Deed.hear).flatMap Deed.replies)) := by
  induction items with
  | nil =>
      intro host connection
      simp [Connection.send_nil]
  | cons item rest rest_heard =>
      intro host connection
      rw [List.foldl_cons]
      cases item with
      | response answer => exact rest_heard _ _
      | rejected reason message =>
          rw [Server.applyReceived, rest_heard, Connection.send_send]
          rfl

/-- How the reading of an inbox ends the connection, if it does. -/
def lastDeeds (ended : Bool) : Ending → Option (List Deed)
  | .goodbye => some [.leave]
  | .unsynchronized error => some [.count (Reason.ofError error), .leave]
  | .pending _ => if ended then some [.leave] else none

theorem listen_ends (serving : server.serving = true) (host : Host) {connection : Connection}
    {items : List Received} {ending : Ending} {last : List Deed}
    (reads : read server.codec connection.inbox = ⟨items, ending⟩)
    (ends : lastDeeds connection.ended ending = some last) :
    server.listen id host connection =
      some ((items.map Deed.hear ++ last).foldl (Deed.on id) host,
        (connection.send server.codec ((items.map Deed.hear).flatMap Deed.replies)).close) := by
  simp only [Server.listen, serving, Bool.not_true, Bool.false_eq_true, if_false, reads,
    received_heard, List.foldl_append]
  cases ending with
  | goodbye =>
      cases ends
      rfl
  | unsynchronized error =>
      cases ends
      rfl
  | pending rest =>
      simp only [lastDeeds] at ends
      split at ends
      · rename_i ended
        cases ends
        simp only [ended, if_true]
        rfl
      · cases ends

theorem listen_waits (serving : server.serving = true) (host : Host) {connection : Connection}
    {items : List Received} {rest : List UInt8}
    (reads : read server.codec connection.inbox = ⟨items, .pending rest⟩)
    (unread : items = [] → rest = connection.inbox) (standing : connection.ended = false) :
    (server.listen id host connection).getD (host, connection) =
      ((items.map Deed.hear).foldl (Deed.on id) host,
        { connection.send server.codec ((items.map Deed.hear).flatMap Deed.replies) with
          inbox := rest }) := by
  simp only [Server.listen, serving, Bool.not_true, Bool.false_eq_true, if_false, reads,
    received_heard, standing]
  cases items with
  | nil => simp [Connection.send_nil, unread]
  | cons item items => simp

/-! ### Progress -/

/-- Whatever arrives later, these are the deeds. -/
def Settled (codec : Codec) (stream : List UInt8) (done : List Deed) : Prop :=
  ∀ more, ∃ bodies fault, Cut codec (stream ++ more) bodies fault ∧ deeds codec fault bodies = done

/-- How far a stream has been read: its whole frames have been taken and the
loop waits for more, or everything that it asks for has been done. -/
inductive Progress (codec : Codec) (stream : List UInt8) : List Deed → Connection → Prop
  | reading {connection : Connection} (items : List Received)
      (took : Took codec stream items connection.inbox)
      (unfinished : Unfinished codec connection.inbox) (opened : connection.closed = false)
      (standing : connection.ended = false) : Progress codec stream (items.map .hear) connection
  | spent {connection : Connection} {done : List Deed} (settled : Settled codec stream done)
      (left : .leave ∈ done) (closed : connection.closed = true) :
      Progress codec stream done connection

section

variable {stream rest : List UInt8} {items : List Received} {done : List Deed}
  {connection : Connection}

theorem Settled.append (settled : Settled codec stream done) (bytes : List UInt8) :
    Settled codec (stream ++ bytes) done := by
  intro more
  rw [List.append_assoc]
  exact settled (bytes ++ more)

theorem Settled.after (took : Took codec stream items rest) {bytes : List UInt8}
    (settled : Settled codec (rest ++ bytes) done) :
    Settled codec (stream ++ bytes) (items.map .hear ++ done) := by
  intro more
  obtain ⟨bodies, fault, cut, rfl⟩ := settled more
  rw [List.append_assoc] at cut ⊢
  obtain ⟨first, whole, same⟩ := (took.append (bytes ++ more)).cut cut
  exact ⟨_, fault, whole, same⟩

theorem Progress.after (took : Took codec stream items rest) {bytes : List UInt8}
    (progress : Progress codec (rest ++ bytes) done connection) :
    Progress codec (stream ++ bytes) (items.map .hear ++ done) connection := by
  cases progress with
  | reading later further unfinished opened standing =>
      rw [← List.map_append]
      exact .reading _ ((took.append bytes).trans further) unfinished opened standing
  | spent settled left closed =>
      exact .spent (settled.after took) (List.mem_append_right _ left) closed

theorem stops_settled {ending : Ending} {last : List Deed} (stops : Stops codec rest ending)
    (ends : lastDeeds false ending = some last) : Settled codec rest last ∧ .leave ∈ last := by
  cases stops with
  | pending unfinished => cases ends
  | @goodbye header body rest framed judged =>
      cases ends
      refine ⟨fun more => ?_, List.mem_cons_self⟩
      obtain ⟨bodies, fault, later⟩ := cut_exists codec (rest ++ more)
      rw [List.append_assoc, List.append_assoc]
      exact ⟨_, fault, .frame framed later, by rw [deeds, judged]⟩
  | fault faulty =>
      cases ends
      refine ⟨fun more => ?_, List.mem_cons_of_mem _ List.mem_cons_self⟩
      rw [List.append_assoc]
      exact ⟨_, _, .fault faulty, rfl⟩

end

/-- One look at the inbox does what the bytes in it ask for. -/
theorem listen_progress (serving : server.serving = true) (host : Host) {connection : Connection}
    (opened : connection.closed = false) (standing : connection.ended = false) :
    ∃ done, ((server.listen id host connection).getD (host, connection)).1 =
        done.foldl (Deed.on id) host ∧
      ((server.listen id host connection).getD (host, connection)).2.wire =
        (connection.send server.codec (queued (done.map .own))).wire ∧
      Progress server.codec connection.inbox done
        ((server.listen id host connection).getD (host, connection)).2 := by
  obtain ⟨rest, took, stops⟩ := read_took server.codec connection.inbox
  cases reads : read server.codec connection.inbox with
  | mk items ending =>
      rw [reads] at took stops
      have replies (last : List Deed) (silent : queued (last.map .own) = []) :
          queued ((items.map Deed.hear ++ last).map .own) =
            (items.map Deed.hear).flatMap Deed.replies := by
        rw [List.map_append, queued_heard, silent, List.append_nil]
      cases ends : lastDeeds false ending with
      | some last =>
          obtain ⟨settled, left⟩ := stops_settled stops ends
          have silent : queued (last.map .own) = [] := by
            cases stops <;> cases ends <;> rfl
          rw [listen_ends serving host reads (standing ▸ ends)]
          refine ⟨items.map Deed.hear ++ last, rfl, by rw [replies last silent]; rfl, ?_⟩
          have whole := Settled.after took (settled.append [])
          rw [List.append_nil] at whole
          exact .spent whole (List.mem_append_right _ left) rfl
      | none =>
          cases stops with
          | goodbye | fault => cases ends
          | pending unfinished =>
              have sent := @Connection.send_keeps server.codec connection
                ((items.map Deed.hear).flatMap Deed.replies)
              have silent := replies [] rfl
              rw [List.append_nil] at silent
              rw [listen_waits serving host reads took.nothing standing]
              refine ⟨items.map Deed.hear, rfl, by rw [silent]; rfl, ?_⟩
              exact .reading items took unfinished (sent.1.trans opened) (sent.2.2.trans standing)

/-! ### Whole streams -/

def Connection.arrive (bytes : List UInt8) (connection : Connection) : Connection :=
  { connection with inbox := connection.inbox ++ bytes }

def Connection.hangUp (connection : Connection) : Connection := { connection with ended := true }

/-- Others act, bytes arrive, and the read loop looks at what has come. -/
def Server.turn (server : Server) (id : Vetting.ClientId) (state : Host × Connection)
    (turn : Meanwhile × List UInt8) : Host × Connection :=
  let host := turn.1.change state.1
  let connection := state.2.send server.codec turn.1.packets
  if connection.closed then (host, connection)
  else
    (server.listen id host (connection.arrive turn.2)).getD (host, connection.arrive turn.2)

/-- The client hangs up, and the read loop looks once more. -/
def Server.finish (server : Server) (id : Vetting.ClientId) (state : Host × Connection) :
    Host × Connection :=
  if state.2.closed then state
  else (server.listen id state.1 state.2.hangUp).getD (state.1, state.2.hangUp)

/-- The state to which a run of the read loop has come, told as acts. -/
structure Told (server : Server) (id : Vetting.ClientId) (start : Host × Connection)
    (turns : List (Meanwhile × List UInt8)) (acts : List Act) (state : Host × Connection) :
    Prop where
  others : acts.filterMap Act.others? = turns.map Prod.fst
  host : state.1 = acts.foldl (Act.on id) start.1
  wire : state.2.wire = (start.2.send server.codec (queued acts)).wire
  progress : Progress server.codec (turns.flatMap Prod.snd) (acts.filterMap Act.own?) state.2

theorem told_start {start : Host × Connection} (unread : start.2.inbox = [])
    (opened : start.2.closed = false) (standing : start.2.ended = false) :
    Told server id start [] [] start := by
  refine ⟨rfl, rfl, by rw [queued, Connection.send_nil], ?_⟩
  refine .reading [] ?_ (.header ?_) opened standing
  · rw [unread]
    exact .done
  · rw [unread]
    exact Nat.zero_lt_succ 3

theorem own_acts (deeds : List Deed) : (deeds.map Act.own).filterMap Act.own? = deeds := by
  induction deeds with
  | nil => rfl
  | cons deed rest rest_acts => simp [Act.own?, rest_acts]

theorem heard_stays (items : List Received) : Deed.leave ∉ items.map Deed.hear := by simp

section

variable {start state : Host × Connection} {turns : List (Meanwhile × List UInt8)}
  {acts : List Act}

/-- Once the connection is closed, only others act. -/
theorem told_closed (told : Told server id start turns acts state)
    (left : .leave ∈ acts.filterMap Act.own?) (closed : state.2.closed = true)
    (settled : Settled server.codec (turns.flatMap Prod.snd) (acts.filterMap Act.own?))
    (turn : Meanwhile × List UInt8) :
    Told server id start (turns ++ [turn]) (acts ++ [.others turn.1])
      (server.turn id state turn) := by
  have idle : server.turn id state turn = (turn.1.change state.1, state.2) := by
    simp [Server.turn, Connection.send_closed closed, closed]
  have own : (acts ++ [Act.others turn.1]).filterMap Act.own? = acts.filterMap Act.own? := by
    rw [List.filterMap_append]
    exact List.append_nil _
  rw [idle]
  constructor
  case others => simp [told.others, Act.others?]
  case host => simp [told.host, Act.on]
  case wire =>
    rw [queued_left left]
    exact told.wire
  case progress =>
    rw [own, List.flatMap_append]
    exact .spent (settled.append _) left closed

/-- On an open connection others act, and the read loop does what has come. -/
theorem told_reading (serving : server.serving = true) (opened : start.2.closed = false)
    (told : Told server id start turns acts state) {items : List Received}
    (own : acts.filterMap Act.own? = items.map .hear)
    (took : Took server.codec (turns.flatMap Prod.snd) items state.2.inbox)
    (still : state.2.closed = false) (standing : state.2.ended = false)
    (turn : Meanwhile × List UInt8) :
    ∃ more, Told server id start (turns ++ [turn]) (acts ++ more) (server.turn id state turn) := by
  have sent := @Connection.send_keeps server.codec state.2 turn.1.packets
  have heard := @listen_progress server id serving (turn.1.change state.1)
    ((state.2.send server.codec turn.1.packets).arrive turn.2) (sent.1.trans still)
    (sent.2.2.trans standing)
  have looks : server.turn id state turn = (server.listen id (turn.1.change state.1)
      ((state.2.send server.codec turn.1.packets).arrive turn.2)).getD (turn.1.change state.1,
        (state.2.send server.codec turn.1.packets).arrive turn.2) := by
    simp [Server.turn, sent.1, still]
  rw [← looks] at heard
  obtain ⟨done, host, wire, progress⟩ := heard
  refine ⟨.others turn.1 :: done.map .own, ?_⟩
  constructor
  case others => simp [told.others, Act.others?]
  case host => simp [host, told.host, Act.on, List.foldl_map]
  case wire =>
    have staying : .leave ∉ acts.filterMap Act.own? := own ▸ heard_stays items
    have opens : (start.2.send server.codec (queued acts)).closed = false :=
      (@Connection.send_keeps server.codec start.2 (queued acts)).1.trans opened
    -- What others queue goes out as on a connection that has sent everything before.
    have before : (state.2.send server.codec turn.1.packets).wire =
        ((start.2.send server.codec (queued acts)).send server.codec turn.1.packets).wire :=
      Connection.send_wire (still.trans opens.symm) told.wire turn.1.packets
    have alike : ((state.2.send server.codec turn.1.packets).arrive turn.2).closed =
        ((start.2.send server.codec (queued acts)).send server.codec turn.1.packets).closed := by
      rw [Connection.send_send]
      have batches := @Connection.send_keeps server.codec start.2 (queued acts ++ turn.1.packets)
      exact (sent.1.trans still).trans (batches.1.trans opened).symm
    rw [wire, queued_staying staying, queued, ← Connection.send_send, ← Connection.send_send]
    exact Connection.send_wire alike before _
  case progress =>
    rw [Connection.arrive, sent.2.1] at progress
    have whole := progress.after took
    rw [List.filterMap_append, own, List.filterMap_cons, own_acts, List.flatMap_append]
    simpa [Act.own?] using whole

theorem told_turn (serving : server.serving = true) (opened : start.2.closed = false)
    (told : Told server id start turns acts state) (turn : Meanwhile × List UInt8) :
    ∃ more, Told server id start (turns ++ [turn]) (acts ++ more) (server.turn id state turn) := by
  have progress := told.progress
  generalize own : acts.filterMap Act.own? = done at progress
  cases progress with
  | reading items took unfinished still standing =>
      exact told_reading serving opened told own took still standing turn
  | spent settled left closed =>
      subst own
      exact ⟨_, told_closed told left closed settled turn⟩

theorem told_turns (serving : server.serving = true) (opened : start.2.closed = false)
    (told : Told server id start turns acts state) (later : List (Meanwhile × List UInt8)) :
    ∃ more, Told server id start (turns ++ later) (acts ++ more)
      (later.foldl (server.turn id) state) := by
  induction later generalizing turns acts state with
  | nil => exact ⟨[], by simpa using told⟩
  | cons turn rest rest_turns =>
      obtain ⟨first, further⟩ := told_turn serving opened told turn
      obtain ⟨others, whole⟩ := rest_turns further
      refine ⟨first ++ others, ?_⟩
      rw [← List.append_assoc, List.append_cons]
      exact whole

/-- A run in which the client hangs up at last: the bodies of its frames and
the fault that stopped the cutting, if one did, decide what the loop did. -/
structure Finished (server : Server) (id : Vetting.ClientId) (start : Host × Connection)
    (turns : List (Meanwhile × List UInt8)) (bodies : List (List UInt8))
    (fault : Option WireError) (acts : List Act) (final : Host × Connection) : Prop where
  cut : Cut server.codec (turns.flatMap Prod.snd) bodies fault
  own : acts.filterMap Act.own? = deeds server.codec fault bodies
  others : acts.filterMap Act.others? = turns.map Prod.fst
  host : final.1 = acts.foldl (Act.on id) start.1
  wire : final.2.wire = (start.2.send server.codec (queued acts)).wire
  closed : final.2.closed = true

theorem told_finish (serving : server.serving = true)
    (told : Told server id start turns acts state) :
    ∃ bodies fault acts, Finished server id start turns bodies fault acts
      (server.finish id state) := by
  have progress := told.progress
  generalize own : acts.filterMap Act.own? = done at progress
  cases progress with
  | spent settled left closed =>
      have same : server.finish id state = state := by rw [Server.finish, if_pos closed]
      obtain ⟨bodies, fault, cut, all⟩ := settled []
      rw [List.append_nil] at cut
      rw [same]
      exact ⟨bodies, fault, acts, cut, own.trans all.symm, told.others, told.host, told.wire,
        closed⟩
  | reading items took unfinished still standing =>
      -- The rest is never completed.
      have reads := read_incomplete (front_unfinished unfinished)
      have heard := @listen_ends server id serving state.1 state.2.hangUp [] _ _ reads rfl
      have looks : server.finish id state =
          (Deed.depart id state.1, state.2.hangUp.close) := by
        simp [Server.finish, still, heard, Connection.send_nil, Deed.on]
      obtain ⟨bodies, cut, all⟩ := took.cut (.ended unfinished)
      rw [List.append_nil] at cut all
      have staying : .leave ∉ acts.filterMap Act.own? := own ▸ heard_stays items
      rw [looks]
      refine ⟨bodies, none, acts ++ [.own .leave], ?_⟩
      constructor
      case cut => exact cut
      case own =>
        rw [List.filterMap_append, own, all]
        rfl
      case others => simp [told.others, Act.others?]
      case host => simp [told.host, Act.on, Deed.on]
      case wire =>
        rw [queued_staying staying, queued, List.append_nil]
        exact told.wire
      case closed => rfl

end

/-- Whatever a registered client sends and however it arrives, the read loop
does what the frames ask for that headers cut from the bytes, in order and
among whatever others do meanwhile: it takes each response to the controller,
counts each other body once and queues one error packet for it, and at the
first goodbye, faulty header or end the client leaves. On the wire all that was
queued arrives if and only if all of it fits. -/
theorem read_loop_follows_frames (serving : server.serving = true) (id : Vetting.ClientId)
    {start : Host × Connection} (unread : start.2.inbox = []) (opened : start.2.closed = false)
    (standing : start.2.ended = false) (turns : List (Meanwhile × List UInt8)) :
    let final := server.finish id (turns.foldl (server.turn id) start)
    ∃ bodies fault acts,
      (∀ others other, Cut server.codec (turns.flatMap Prod.snd) others other ↔
        others = bodies ∧ other = fault) ∧
      Finished server id start turns bodies fault acts final ∧
      (start.2.writing = true →
        final.2.outbox =
          start.2.outbox ++ frames ((queued acts).takeWhile (Fits server.codec)) ∧
        (final.2.outbox = start.2.outbox ++ frames (queued acts) ↔
          ∀ packet ∈ queued acts, Fits server.codec packet = true)) := by
  intro final
  obtain ⟨acts, told⟩ := told_turns serving opened (told_start unread opened standing) turns
  rw [List.nil_append] at told
  obtain ⟨bodies, fault, acts, finished⟩ := told_finish serving told
  refine ⟨bodies, fault, acts, fun others other => ⟨cut_unique finished.cut, ?_⟩, finished, ?_⟩
  · rintro ⟨rfl, rfl⟩
    exact finished.cut
  · intro running
    have outbox : final.2.outbox =
        start.2.outbox ++ frames ((queued acts).takeWhile (Fits server.codec)) := by
      have wire := finished.wire
      rw [Connection.send_open opened running] at wire
      exact congrArg Prod.fst wire
    refine ⟨outbox, ?_⟩
    rw [outbox, List.append_cancel_left_eq]
    exact takeWhile_frames_all_iff (queued acts)

/-! The answer to a packet of nearly the greatest size does not fit, and so the
body after it, which does not decode, is not answered either. -/

theorem queued_quiet {acts : List Act}
    (quiet : ∀ meanwhile ∈ acts.filterMap Act.others?, meanwhile.packets = []) :
    queued acts = queued ((acts.filterMap Act.own?).map .own) := by
  induction acts with
  | nil => rfl
  | cons act rest rest_quiet =>
      cases act with
      | own deed =>
          have same := rest_quiet quiet
          cases deed <;> simp [queued, Act.own?, same]
      | others meanwhile =>
          simp only [List.filterMap_cons, Act.others?, List.mem_cons, forall_eq_or_imp] at quiet
          rw [queued, quiet.1, List.nil_append]
          exact rest_quiet quiet.2

theorem escape_length (character : Char) : 1 ≤ (Text.escape character).toList.length := by
  unfold Text.escape
  repeat' split
  all_goals simp [Char.toString]

theorem length_le_quoted (text : String) :
    text.toList.length ≤ (Text.quoted text).toList.length := by
  simp only [Text.quoted, String.toList_append, String.toList_join, List.length_append]
  induction text.toList with
  | nil => exact Nat.zero_le _
  | cons character rest rest_quoted =>
      have escaped := escape_length character
      simp only [List.map_cons, List.flatMap_cons, List.length_append, List.length_cons] at *
      omega

theorem long_unexpected_misfit {text : String} (long : codec.limit < text.toList.length + 37) :
    Fits codec (.error ("unexpected packet " ++ (Packet.error text).shown)) = false := by
  apply long_error_misfit
  have quoted := length_le_quoted text
  simp [Packet.shown, shownRecord]
  omega

/-- What a writer puts on the wire is cut into the bodies of its packets. -/
theorem frames_cut (bounded : codec.limit ≤ largestLimit) {packets : List Packet}
    (fit : ∀ packet ∈ packets, Fits codec packet = true) {rest : List UInt8}
    {bodies : List (List UInt8)} {fault : Option WireError} (cut : Cut codec rest bodies fault) :
    Cut codec (frames packets ++ rest) (packets.map body ++ bodies) fault := by
  induction packets with
  | nil => exact cut
  | cons packet others others_cut =>
      have within : (body packet).length ≤ codec.limit := by
        simpa [Fits] using fit packet List.mem_cons_self
      have framed : Framed codec (putNat headerLength (body packet).length) (body packet) := by
        refine ⟨Codec.length_putNat _ _, Codec.littleEndian_putNat _ _ ?_,
          putBody_ne_nil protocolVersion packet, within⟩
        simp only [largestLimit, headerLength] at *
        omega
      have later := others_cut fun packet member => fit packet (List.mem_cons_of_mem _ member)
      simpa [frames, Codec.frame] using Cut.frame framed later

theorem letters_bytes (count : Nat) : (utf8Bytes (letters count)).length = count := by
  rw [utf8Bytes, letters, String.toList_ofList]
  induction count with
  | zero => rfl
  | succ count count_bytes =>
      rw [List.replicate_succ, List.flatMap_cons, List.length_append, count_bytes]
      exact Nat.add_comm 1 count

def garbled : List UInt8 := [1, 2, 3]

theorem garbled_cut : Cut ⟨1024⟩ (Codec.frame garbled) [garbled] none := by
  have framed : Framed ⟨1024⟩ (putNat headerLength 3) garbled :=
    ⟨rfl, rfl, List.cons_ne_nil _ _, by decide⟩
  exact .frame framed (.ended (.header (Nat.zero_lt_succ 3)))

theorem unexpected_deeds {text : String} (fits : Fits ⟨1024⟩ (.error text) = true) :
    deeds ⟨1024⟩ none [body (.error text), garbled] =
      [.hear (unexpected (.error text)), .hear (refused (.malformed .missingBytes)), .leave] := by
  have within : (body (.error text)).length ≤ 1024 := by simpa [Fits] using fits
  have first : (⟨1024⟩ : Codec).decode (body (.error text)) = .ok (.error text) :=
    (Codec.decode_ok_iff (by decide) _ _).mpr
      ⟨putBody_ne_nil protocolVersion _, within, [], (List.append_nil _).symm⟩
  have second : (⟨1024⟩ : Codec).decode garbled = .error (.malformed .missingBytes) := rfl
  simp [deeds, first, second, judge]

def strictServer : Server := .ofCodec ⟨1024⟩

def enlisted : Connection := { Connection.fresh "c" 1 with client := some 1 }

def lull : Meanwhile := ⟨fun host => host, []⟩

def silencing (text : String) : List (Meanwhile × List UInt8) :=
  [(lull, frames [.error text] ++ Codec.frame garbled)]

theorem misfit_reply_silences :
    Cut ⟨1024⟩ ((silencing (letters 1000)).flatMap Prod.snd)
        [body (.error (letters 1000)), garbled] none ∧
      (strictServer.finish 1 ((silencing (letters 1000)).foldl (strictServer.turn 1)
        (Host.bare Kernel.empty, enlisted))).2.outbox = [] := by
  have fits : Fits ⟨1024⟩ (.error (letters 1000)) = true := by
    simp [Fits, body, putBody, putPacket, putText, put32, Codec.length_putNat, letters_bytes]
  have misfit : Fits strictServer.codec
      (.error ("unexpected packet " ++ (Packet.error (letters 1000)).shown)) = false := by
    apply long_unexpected_misfit
    rw [letters_length]
    decide
  generalize letters 1000 = text at fits misfit ⊢
  have cut : Cut ⟨1024⟩ ((silencing text).flatMap Prod.snd) [body (.error text), garbled] none := by
    rw [silencing, List.flatMap_singleton]
    exact @frames_cut ⟨1024⟩ (by decide) [.error text] (by simpa using fits) _ _ _ garbled_cut
  refine ⟨cut, ?_⟩
  obtain ⟨bodies, fault, acts, only, finished, written⟩ := @read_loop_follows_frames strictServer
    rfl 1 (Host.bare Kernel.empty, enlisted) rfl rfl rfl (silencing text)
  obtain ⟨rfl, rfl⟩ := (only _ _).mp cut
  have quiet : ∀ meanwhile ∈ acts.filterMap Act.others?, meanwhile.packets = [] := by
    rw [finished.others]
    simp [silencing, lull]
  have queue := queued_quiet quiet
  rw [finished.own] at queue
  have answers : queued acts = [.error ("unexpected packet " ++ (Packet.error text).shown),
      .error (WireError.malformed .missingBytes).message] :=
    queue.trans (congrArg (fun deeds => queued (deeds.map .own)) (unexpected_deeds fits))
  have stopped : (queued acts).takeWhile (Fits strictServer.codec) = [] := by
    rw [answers, List.takeWhile_cons, if_neg (Bool.eq_false_iff.mp misfit)]
  have outbox := (written rfl).1
  rw [stopped] at outbox
  exact outbox

end Interception.Transport
