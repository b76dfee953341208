import Interception.Wire.Codec

/-!
Frames on a byte stream. A reader takes whole frames from the front of what
it has received; a bad length leaves it without a place to go on from, while
a bad body costs only its own frame. A writer turns queued packets into
frames until one of them does not fit.
-/

namespace Interception.Transport

open Wire

/-- What stands at the front of the bytes received. -/
inductive Front
  | incomplete
  | badLength (error : WireError)
  | frame (packet : Except WireError Packet) (rest : List UInt8)

def front (codec : Codec) (bytes : List UInt8) : Front :=
  if bytes.length < headerLength then .incomplete
  else
    match codec.bodyLength (bytes.take headerLength) with
    | .error error => .badLength error
    | .ok size =>
        let rest := bytes.drop headerLength
        if rest.length < size then .incomplete
        else .frame (codec.decode (rest.take size)) (rest.drop size)

theorem front_rest_lt {codec : Codec} {bytes rest : List UInt8}
    {packet : Except WireError Packet} (found : front codec bytes = .frame packet rest) :
    rest.length < bytes.length := by
  unfold front at found
  split at found
  · simp at found
  · rename_i long
    split at found
    · simp at found
    · simp only at found
      split at found
      · simp at found
      · injection found with _ same
        subst same
        simp only [headerLength, List.length_drop] at long ⊢
        omega

/-- Why a packet was rejected, as it is counted. -/
inductive Reason
  | empty
  | tooLarge
  | invalidLimit
  | version
  | malformed
  | unexpected
  deriving DecidableEq, Repr

namespace Reason

def name : Reason → String
  | empty => "empty"
  | tooLarge => "too_large"
  | invalidLimit => "invalid_limit"
  | version => "version"
  | malformed => "malformed"
  | unexpected => "unexpected"

def ofError : WireError → Reason
  | .empty => empty
  | .tooLarge .. => tooLarge
  | .invalidLimit .. => invalidLimit
  | .versionMismatch .. => version
  | .malformed .. => malformed

end Reason

/-- What one frame of a registered client amounts to. -/
inductive Received
  | response (answer : Vetting.Response)
  | rejected (reason : Reason) (message : String)
  deriving DecidableEq, Repr

inductive Ending
  /-- The rest is the beginning of a frame. -/
  | pending (rest : List UInt8)
  | goodbye
  | unsynchronized (error : WireError)
  deriving DecidableEq, Repr

structure Reading where
  received : List Received
  ending : Ending
  deriving DecidableEq, Repr

def Reading.after (first : Received) (reading : Reading) : Reading :=
  { reading with received := first :: reading.received }

def unexpected (packet : Packet) : Received :=
  .rejected .unexpected ("unexpected packet " ++ packet.shown)

def refused (error : WireError) : Received :=
  .rejected (Reason.ofError error) error.message

/-- Reads what a registered client has sent. -/
def read (codec : Codec) (bytes : List UInt8) : Reading :=
  match found : front codec bytes with
  | .incomplete => ⟨[], .pending bytes⟩
  | .badLength error => ⟨[], .unsynchronized error⟩
  | .frame packet rest =>
      have := front_rest_lt found
      match packet with
      | .error error => (read codec rest).after (refused error)
      | .ok .goodbye => ⟨[], .goodbye⟩
      | .ok (.response answer) => (read codec rest).after (.response answer)
      | .ok other => (read codec rest).after (unexpected other)
termination_by bytes.length

/-- The frames of queued packets, and whether the writer still runs: it ends
at the first packet that does not fit. -/
def write (codec : Codec) : List Packet → List UInt8 × Bool
  | [] => ([], true)
  | packet :: rest =>
      match codec.encode packet with
      | .error _ => ([], false)
      | .ok frame =>
          let (frames, running) := write codec rest
          (frame ++ frames, running)

end Interception.Transport
