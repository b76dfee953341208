import Interception.Wire.Body

/-!
Frames: four bytes of length and a body no longer than the limit of the
codec. The version of a body is judged once the whole body has been read.
Bytes after the packet are ignored.
-/

namespace Interception.Wire

def smallestLimit : Nat := 1024

def largestLimit : Nat := 32768

def headerLength : Nat := 4

inductive WireError
  | empty
  | tooLarge (size limit : Nat)
  | invalidLimit (limit : Nat)
  | versionMismatch (got : UInt32)
  | malformed (defect : Defect)
  deriving DecidableEq, Repr

def WireError.message : WireError → String
  | empty => "empty packet"
  | tooLarge size limit => "packet of " ++ toString size ++ " bytes exceeds limit of " ++
      toString limit ++ " bytes"
  | invalidLimit limit => "packet size limit " ++ toString limit ++ " outside " ++
      toString smallestLimit ++ "..=" ++ toString largestLimit
  | versionMismatch got => "protocol version mismatch: expected " ++ toString protocolVersion ++
      ", got " ++ toString got
  | malformed defect => "malformed packet: " ++ defect.message

structure Codec where
  limit : Nat
  deriving DecidableEq, Repr

namespace Codec

def standard : Codec := ⟨largestLimit⟩

def ofLimit (limit : Nat) : Except WireError Codec :=
  if smallestLimit ≤ limit ∧ limit ≤ largestLimit then .ok ⟨limit⟩
  else .error (.invalidLimit limit)

def frame (bytes : List UInt8) : List UInt8 :=
  putNat headerLength bytes.length ++ bytes

def encode (codec : Codec) (packet : Packet) : Except WireError (List UInt8) :=
  let bytes := body packet
  if bytes.length ≤ codec.limit then .ok (frame bytes)
  else .error (.tooLarge bytes.length codec.limit)

/-- The value of bytes, low byte first. -/
def littleEndian : List UInt8 → Nat
  | [] => 0
  | byte :: rest => byte.toNat + 256 * littleEndian rest

/-- The body length that a header announces. -/
def bodyLength (codec : Codec) (header : List UInt8) : Except WireError Nat :=
  let size := littleEndian header
  if size = 0 then .error .empty
  else if codec.limit < size then .error (.tooLarge size codec.limit)
  else .ok size

def decode (codec : Codec) (bytes : List UInt8) : Except WireError Packet :=
  if bytes = [] then .error .empty
  else if codec.limit < bytes.length then .error (.tooLarge bytes.length codec.limit)
  else
    match takeBody.run bytes with
    | .error defect => .error (.malformed defect)
    | .ok ((version, packet), _) =>
        if version = protocolVersion then .ok packet else .error (.versionMismatch version)

/-- Reads a frame in one piece. Bytes past the announced length are ignored. -/
def decodeFrame (codec : Codec) (bytes : List UInt8) : Except WireError Packet :=
  if bytes.length < headerLength then .error .empty
  else
    match codec.bodyLength (bytes.take headerLength) with
    | .error error => .error error
    | .ok size =>
        let rest := bytes.drop headerLength
        if rest.length < size then .error (.malformed (.truncated rest.length size))
        else codec.decode (rest.take size)

end Codec

end Interception.Wire
