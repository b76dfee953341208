import Interception.Wire.Packet
import Interception.Wire.Utf8

/-!
Bodies of packets. A body is the protocol version followed by the packet:
integers have fixed width and stand with their low byte first, a text is its
length in bytes and then its bytes, an optional value is marked by a zero or
a one, and a choice is the number of the alternative taken. `put` writes
each part and `take` reads it back from the front.
-/

namespace Interception.Wire

def protocolVersion : UInt32 := 1

/-! ### Writing -/

def putNat : Nat → Nat → List UInt8
  | 0, _ => []
  | width + 1, value => UInt8.ofNat value :: putNat width (value / 256)

def put8 (value : UInt8) : List UInt8 := [value]

def put32 (value : UInt32) : List UInt8 := putNat 4 value.toNat

def put64 (value : UInt64) : List UInt8 := putNat 8 value.toNat

def putSigned (value : Int32) : List UInt8 := put32 value.toUInt32

def putBool (value : Bool) : List UInt8 := if value then [1] else [0]

def putText (text : String) : List UInt8 :=
  putNat 8 (utf8Bytes text).length ++ utf8Bytes text

def putOption {Value : Type} (put : Value → List UInt8) : Option Value → List UInt8
  | none => [0]
  | some value => 1 :: put value

def operationIndex : Operation → Nat
  | .openFile => 0
  | .closeFile => 1
  | .execFile => 2
  | .mount => 3
  | .umount => 4

def putOperation (operation : Operation) : List UInt8 := putNat 4 (operationIndex operation)

def decisionIndex : Vetting.Decision → Nat
  | .allow => 0
  | .deny => 1

def putDecision (decision : Vetting.Decision) : List UInt8 := putNat 4 (decisionIndex decision)

def putPersonality (task : Personality) : List UInt8 :=
  putSigned task.pid ++ putSigned task.tid ++ put32 task.uid ++ put32 task.euid ++
    put32 task.gid ++ put32 task.egid ++ putText task.comm

def putRequest (request : Vetting.Request) : List UInt8 :=
  put64 request.ticket ++ putOperation request.operation ++ putOption putText request.path ++
    putText request.fsType ++ put64 request.flags ++ putBool request.writable ++
    put64 request.device ++ put64 request.inode ++ putPersonality request.personality

def putResponse (response : Vetting.Response) : List UInt8 :=
  put64 response.ticket ++ putDecision response.decision ++
    putOption putSigned response.code

def putPacket : Packet → List UInt8
  | .register name groups => putNat 4 0 ++ putText name ++ put8 groups
  | .registered client => putNat 4 1 ++ put32 client
  | .request asked => putNat 4 2 ++ putRequest asked
  | .response answer => putNat 4 3 ++ putResponse answer
  | .error message => putNat 4 4 ++ putText message
  | .goodbye => putNat 4 5

def putBody (version : UInt32) (packet : Packet) : List UInt8 :=
  put32 version ++ putPacket packet

def body (packet : Packet) : List UInt8 := putBody protocolVersion packet

/-! ### Reading -/

/-- What is wrong with a body. -/
inductive Defect
  | missingBytes
  | missingText
  | badChoice (found count : Nat)
  | badBool (found : Nat)
  | badTag (found : Nat)
  | badText (error : Utf8Error)
  | truncated (got announced : Nat)
  deriving DecidableEq, Repr

def Defect.message : Defect → String
  | missingBytes => "io error: unexpected end of file"
  | missingText => "io error: "
  | badChoice found count =>
      "invalid value: integer " ++ "\x60" ++ toString found ++ "\x60" ++
        ", expected variant index 0 <= i < " ++ toString count
  | badBool found => "invalid u8 while decoding bool, expected 0 or 1, found " ++ toString found
  | badTag found => "tag for enum is not valid, found " ++ toString found
  | badText error => "string is not valid utf8: " ++ error.message
  | truncated got announced =>
      "truncated frame: " ++ toString got ++ " of " ++ toString announced ++ " bytes"

abbrev Take (Value : Type) := StateT (List UInt8) (Except Defect) Value

/-- The integer of the next bytes, low byte first. -/
def takeNat : Nat → Take Nat
  | 0 => pure 0
  | width + 1 => do
      match ← get with
      | [] => throw .missingBytes
      | byte :: rest =>
          set rest
          return byte.toNat + 256 * (← takeNat width)

def take8 : Take UInt8 := UInt8.ofNat <$> takeNat 1

def take32 : Take UInt32 := UInt32.ofNat <$> takeNat 4

def take64 : Take UInt64 := UInt64.ofNat <$> takeNat 8

def takeSigned : Take Int32 := UInt32.toInt32 <$> take32

def takeBool : Take Bool := do
  match ← takeNat 1 with
  | 0 => return false
  | 1 => return true
  | found => throw (.badBool found)

def takeText : Take String := do
  let length ← takeNat 8
  let bytes ← get
  if bytes.length < length then throw .missingText
  set (bytes.drop length)
  match decodeUtf8 (bytes.take length) with
  | .ok text => return text
  | .error error => throw (.badText error)

def takeOption {Value : Type} (take : Take Value) : Take (Option Value) := do
  match ← takeNat 1 with
  | 0 => return none
  | 1 => some <$> take
  | found => throw (.badTag found)

def takeOperation : Take Operation := do
  match ← takeNat 4 with
  | 0 => return .openFile
  | 1 => return .closeFile
  | 2 => return .execFile
  | 3 => return .mount
  | 4 => return .umount
  | found => throw (.badChoice found 5)

def takeDecision : Take Vetting.Decision := do
  match ← takeNat 4 with
  | 0 => return .allow
  | 1 => return .deny
  | found => throw (.badChoice found 2)

def takePersonality : Take Personality := do
  return ⟨← takeSigned, ← takeSigned, ← take32, ← take32, ← take32, ← take32, ← takeText⟩

def takeRequest : Take Vetting.Request := do
  return ⟨← take64, ← takeOperation, ← takeOption takeText, ← takeText, ← take64, ← takeBool,
    ← take64, ← take64, ← takePersonality⟩

def takeResponse : Take Vetting.Response := do
  return ⟨← take64, ← takeDecision, ← takeOption takeSigned⟩

def takePacket : Take Packet := do
  match ← takeNat 4 with
  | 0 => return .register (← takeText) (← take8)
  | 1 => return .registered (← take32)
  | 2 => return .request (← takeRequest)
  | 3 => return .response (← takeResponse)
  | 4 => return .error (← takeText)
  | 5 => return .goodbye
  | found => throw (.badChoice found 6)

def takeBody : Take (UInt32 × Packet) := do
  return (← take32, ← takePacket)

end Interception.Wire
