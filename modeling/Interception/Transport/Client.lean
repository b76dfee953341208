import Interception.Retry
import Interception.Transport.Stream
import Interception.Vetting.Clients

/-!
The client's side of a connection. Registering waits for one reply; after
that the client takes requests and passes over everything else. A stream
that ends between frames has been closed by the server.
-/

namespace Interception.Transport

open Wire

inductive ClientError
  | refused (message : String)
  | unexpectedReply (packet : Packet)
  | closed
  | bodyMissing
  | wire (error : WireError)
  deriving DecidableEq, Repr

def ClientError.message : ClientError → String
  | refused message => "Registration refused: " ++ message
  | unexpectedReply packet => "Unexpected reply to registration: " ++ packet.shown
  | closed => "Connection closed during registration"
  | bodyMissing => "Failed to read frame body"
  | wire error => error.message

/-- What a client reads from a stream that has come to its end. -/
inductive Next
  | packet (result : Except WireError Packet) (rest : List UInt8)
  | ended
  | failed (error : ClientError) (rest : List UInt8)

/-- A header cut short counts as the end, a body cut short does not. A bad
length costs the header alone. -/
def next (codec : Codec) (bytes : List UInt8) : Next :=
  match front codec bytes with
  | .frame packet rest => .packet packet rest
  | .badLength error => .failed (.wire error) (bytes.drop headerLength)
  | .incomplete => if bytes.length < headerLength then .ended else .failed .bodyMissing []

/-- The reply to a registration. -/
def registered (codec : Codec) (bytes : List UInt8) :
    Except ClientError (Vetting.ClientId × List UInt8) :=
  match next codec bytes with
  | .packet (.ok (.registered id)) rest => .ok (id, rest)
  | .packet (.ok (.error message)) _ => .error (.refused message)
  | .packet (.ok other) _ => .error (.unexpectedReply other)
  | .packet (.error error) _ => .error (.wire error)
  | .ended => .error .closed
  | .failed error _ => .error error

/-- The next request among the packets of a stream, and what follows it. -/
def nextRequest (codec : Codec) : Nat → List UInt8 →
    Except ClientError (Option Vetting.Request) × List UInt8
  | 0, bytes => (.ok none, bytes)
  | fuel + 1, bytes =>
      match next codec bytes with
      | .packet (.ok (.request asked)) rest => (.ok (some asked), rest)
      | .packet _ rest => nextRequest codec fuel rest
      | .ended => (.ok none, [])
      | .failed error rest => (.error error, rest)

/-- A client on a stream whose bytes are all there. -/
structure Client where
  codec : Codec
  id : Vetting.ClientId
  unread : List UInt8
  sent : List UInt8

namespace Client

/-- The registration that opens a connection. -/
def opening (codec : Codec) (name : String) (groups : UInt8) : Except ClientError (List UInt8) :=
  (codec.encode (.register name groups)).mapError .wire

/-- Registers on a stream that will carry these bytes. -/
def connect (codec : Codec) (name : String) (groups : UInt8) (stream : List UInt8) :
    Except ClientError Client := do
  let sent ← opening codec name groups
  let (id, unread) ← registered codec stream
  return ⟨codec, id, unread, sent⟩

/-- Connects as a policy says, each attempt to a stream of its own. -/
def connectWithRetry (policy : RetryPolicy) (codec : Codec) (name : String) (groups : UInt8)
    (stream : Nat → List UInt8) : RetryPolicy.Account ClientError Client :=
  policy.run fun attempt => connect codec name groups (stream attempt)

def nextRequest (client : Client) : Except ClientError (Option Vetting.Request) × Client :=
  let (result, unread) :=
    Transport.nextRequest client.codec (client.unread.length + 1) client.unread
  (result, { client with unread })

def send (client : Client) (packet : Packet) : Except ClientError Unit × Client :=
  match client.codec.encode packet with
  | .ok frame => (.ok (), { client with sent := client.sent ++ frame })
  | .error error => (.error (.wire error), client)

def respond (client : Client) (response : Vetting.Response) : Except ClientError Unit × Client :=
  client.send (.response response)

def goodbye (client : Client) : Except ClientError Unit × Client :=
  client.send .goodbye

end Client

end Interception.Transport
