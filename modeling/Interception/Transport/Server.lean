import Interception.Host.Rounds
import Interception.Transport.Stream

/-!
The vetting server: connections of clients to a host's controller. A
connection registers once, is then sent the requests of its groups and
answers them. When it ends, its client is unregistered, and with the client
go the tickets that it held.
-/

namespace Interception.Transport

open Wire

/-- One connection, seen from the server. -/
structure Connection where
  label : String
  pid : Int32
  client : Option Vetting.ClientId
  /-- Bytes sent by the peer and not read yet. -/
  inbox : List UInt8
  /-- Bytes for the peer that it has not taken yet. -/
  outbox : List UInt8
  /-- Whether the peer has hung up. -/
  ended : Bool
  writing : Bool
  fetching : Bool
  closed : Bool

structure Server where
  codec : Codec
  serving : Bool
  connections : List Connection

namespace Connection

def fresh (label : String) (pid : Int32) : Connection :=
  ⟨label, pid, none, [], [], false, true, true, false⟩

/-- Queues packets for the peer. -/
def send (codec : Codec) (packets : List Packet) (connection : Connection) : Connection :=
  if connection.writing && !connection.closed then
    let (bytes, running) := write codec packets
    { connection with outbox := connection.outbox ++ bytes, writing := running }
  else connection

def close (connection : Connection) : Connection :=
  { connection with closed := true, inbox := [] }

/-- Whether the peer will get nothing more. -/
def exhausted (connection : Connection) : Bool :=
  connection.closed || !connection.writing

end Connection

namespace Server

def ofCodec (codec : Codec) : Server := ⟨codec, true, []⟩

/-- The caller that the server's own threads are. -/
def caller : Caller := ⟨"server", none, false⟩

def countRejected (host : Host) (reason : Reason) : Host :=
  { host with rejected := host.rejected.bump [reason.name] }

/-- Takes the first packet of a connection, which has to register. -/
def welcome (server : Server) (host : Host) (connection : Connection) :
    Option (Host × Connection) :=
  match front server.codec connection.inbox with
  | .incomplete => if connection.ended then some (host, connection.close) else none
  | .badLength _ => some (host, connection.close)
  | .frame (.error error) _ =>
      some (countRejected host (Reason.ofError error), connection.close)
  | .frame (.ok (.register name groups)) rest =>
      match host.vetting.register name groups connection.pid with
      | .ok (id, vetting, records) =>
          some ({ host with vetting }.note caller records,
            { connection with client := some id, inbox := rest }.send server.codec
              [.registered id])
      | .error error =>
          some (host, (connection.send server.codec [.error error.message]).close)
  | .frame (.ok other) _ =>
      let message := "expected Register, got " ++ other.shown
      some (countRejected host .unexpected,
        (connection.send server.codec [.error message]).close)

def applyReceived (server : Server) (id : Vetting.ClientId) (state : Host × Connection) :
    Received → Host × Connection
  | .response answer =>
      let (host, connection) := state
      ({ host with vetting := (host.vetting.respond id answer).2 }, connection)
  | .rejected reason message =>
      let (host, connection) := state
      (countRejected host reason, connection.send server.codec [.error message])

/-- Ends the connection of a registered client. -/
def leave (id : Vetting.ClientId) (host : Host) (connection : Connection) : Host × Connection :=
  let (_, vetting, records) := host.vetting.unregister id
  ({ host with vetting }.note caller records, connection.close)

/-- Reads on from a registered client, if there is anything to do. -/
def listen (server : Server) (id : Vetting.ClientId) (host : Host) (connection : Connection) :
    Option (Host × Connection) :=
  if !server.serving then some (leave id host connection)
  else
    let reading := read server.codec connection.inbox
    let (heard, after) := reading.received.foldl (server.applyReceived id) (host, connection)
    match reading.ending with
    | .goodbye => some (leave id heard after)
    | .unsynchronized error =>
        some (leave id (countRejected heard (Reason.ofError error)) after)
    | .pending rest =>
        if connection.ended then some (leave id heard after)
        else if reading.received.isEmpty then none
        else some (heard, { after with inbox := rest })

/-- Fetches one request for a client and queues it. Fetching ends once there
is no writer to queue it with. -/
def deliver (server : Server) (id : Vetting.ClientId) (host : Host) (connection : Connection) :
    Option (Host × Connection) :=
  if !connection.fetching then none
  else
    match host.vetting.fetchGroups id with
    | .error _ => none
    | .ok groups =>
        match host.vetting.fetchPass id groups with
        | (.ok (some request), vetting) =>
            some ({ host with vetting },
              { connection.send server.codec [.request request] with
                fetching := connection.writing })
        | _ => none

/-- One thing that a connection can do now, if there is any. -/
def advance (server : Server) (host : Host) (connection : Connection) :
    Option (Host × Connection) :=
  if connection.closed then none
  else
    match connection.client with
    | none => server.welcome host connection
    | some id => (server.listen id host connection).orElse fun _ => server.deliver id host connection

def advanceAll (server : Server) (host : Host) : List Connection → Bool × Host × List Connection
  | [] => (false, host, [])
  | connection :: rest =>
      match server.advance host connection with
      | some (later, moved) =>
          let (_, final, others) := advanceAll server later rest
          (true, final, moved :: others)
      | none =>
          let (any, final, others) := advanceAll server host rest
          (any, final, connection :: others)

/-- One round over all connections. -/
def round (server : Server) (host : Host) : Bool × Host × Server :=
  let (any, later, connections) := server.advanceAll host server.connections
  (any, later, { server with connections })

/-! ### The peers' side -/

/-- The latest connection of a label. -/
def connection? (server : Server) (label : String) : Option Connection :=
  server.connections.reverse.find? (·.label == label)

def modifyLast (label : String) (change : Connection → Connection) :
    List Connection → List Connection
  | [] => []
  | connection :: rest =>
      if connection.label == label && !rest.any (·.label == label) then change connection :: rest
      else connection :: modifyLast label change rest

def modify (server : Server) (label : String) (change : Connection → Connection) : Server :=
  { server with connections := modifyLast label change server.connections }

/-- Opens a connection, unless the server has been shut down. -/
def connect (server : Server) (label : String) (pid : Int32) : Option Server :=
  if server.serving then
    some { server with connections := server.connections ++ [.fresh label pid] }
  else none

def push (server : Server) (label : String) (bytes : List UInt8) : Server :=
  server.modify label fun connection =>
    if connection.closed then connection
    else { connection with inbox := connection.inbox ++ bytes }

def hangUp (server : Server) (label : String) : Server :=
  server.modify label fun connection => { connection with ended := true, outbox := [] }

/-- What a peer reads next: a frame, the end of the stream, or nothing yet. -/
inductive Pulled
  | packet (result : Except WireError Packet)
  | ended
  | nothing

/-- Takes one frame from the bytes for a peer. -/
def pull (server : Server) (codec : Codec) (label : String) : Pulled × Server :=
  match server.connection? label with
  | none => (.ended, server)
  | some connection =>
      match front codec connection.outbox with
      | .frame result rest =>
          (.packet result, server.modify label fun connection =>
            { connection with outbox := rest })
      | .badLength error => (.packet (.error error), server)
      | .incomplete => (if connection.exhausted then .ended else .nothing, server)

/-- Ends the service: registered clients leave, and nobody connects. -/
def shutdown (server : Server) : Server :=
  { server with serving := false }

end Server

end Interception.Transport
