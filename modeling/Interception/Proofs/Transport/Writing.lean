import Interception.Proofs.Wire.Grammar
import Interception.Transport.Server
import Mathlib.Data.List.TakeWhile

/-!
What a connection's writer puts on the wire. Packets are queued in batches:
error packets by the reader, requests by the fetcher. The writer frames them in
order and stops for good at the first one whose body does not fit the codec,
while the connection stays open and its client registered.
-/

namespace Interception.Transport

open Wire

variable {codec : Codec}

/-- Whether the body of a packet is within the limit of a codec. -/
def Fits (codec : Codec) (packet : Packet) : Bool :=
  decide ((body packet).length ≤ codec.limit)

/-- Packets as they stand on the wire. -/
def frames (packets : List Packet) : List UInt8 :=
  packets.flatMap fun packet => Codec.frame (body packet)

theorem frames_append (packets others : List Packet) :
    frames (packets ++ others) = frames packets ++ frames others :=
  List.flatMap_append

theorem frames_nil_iff (packets : List Packet) : frames packets = [] ↔ packets = [] := by
  cases packets with
  | nil => simp [frames]
  | cons packet rest =>
      have full : body packet ≠ [] := putBody_ne_nil protocolVersion packet
      simp [frames, Codec.frame, full]

/-- A message takes a byte at least for each of its characters. -/
theorem length_le_utf8Bytes (text : String) : text.toList.length ≤ (utf8Bytes text).length := by
  unfold utf8Bytes
  induction text.toList with
  | nil => exact Nat.le_refl _
  | cons character rest rest_bytes =>
      have positive := Char.utf8Size_pos character
      simp only [List.flatMap_cons, List.length_append, List.length_cons,
        String.length_utf8EncodeChar]
      omega

theorem long_error_misfit {text : String} (long : codec.limit < text.toList.length) :
    Fits codec (.error text) = false := by
  have bytes := length_le_utf8Bytes text
  simp only [Fits, body, putBody, putPacket, putText, List.length_append, decide_eq_false_iff_not]
  omega

/-! ### The writer -/

theorem write_fitting {packet : Packet} (rest : List Packet) (fits : Fits codec packet = true) :
    write codec (packet :: rest) =
      (Codec.frame (body packet) ++ (write codec rest).1, (write codec rest).2) := by
  have within : (body packet).length ≤ codec.limit := by simpa [Fits] using fits
  simp only [write, Codec.encode, if_pos within]

theorem write_misfit {packet : Packet} (rest : List Packet) (misfit : Fits codec packet = false) :
    write codec (packet :: rest) = ([], false) := by
  have beyond : ¬ (body packet).length ≤ codec.limit := by simpa [Fits] using misfit
  simp only [write, Codec.encode, if_neg beyond]

theorem write_prefix (codec : Codec) (packets : List Packet) :
    write codec packets =
      (frames (packets.takeWhile (Fits codec)), packets.all (Fits codec)) := by
  induction packets with
  | nil => rfl
  | cons packet rest rest_prefix =>
      cases fits : Fits codec packet with
      | false => simp [write_misfit rest fits, fits, frames]
      | true => simp [write_fitting rest fits, fits, rest_prefix, frames]

/-- A writer that has stopped writes nothing of what is queued later. -/
theorem write_append (codec : Codec) (packets others : List Packet) :
    write codec (packets ++ others) =
      if (write codec packets).2 then
        ((write codec packets).1 ++ (write codec others).1, (write codec others).2)
      else write codec packets := by
  induction packets with
  | nil => simp [write]
  | cons packet rest rest_append =>
      cases fits : Fits codec packet with
      | false => simp [write_misfit _ fits]
      | true =>
          simp only [List.cons_append, write_fitting _ fits, rest_append]
          split <;> simp

/-- All packets are written if and only if all fit. -/
theorem takeWhile_frames_all_iff (packets : List Packet) :
    frames (packets.takeWhile (Fits codec)) = frames packets ↔
      ∀ packet ∈ packets, Fits codec packet = true := by
  conv_lhs => rhs; rw [← List.takeWhile_append_dropWhile (p := Fits codec) (l := packets)]
  rw [frames_append, List.self_eq_append_right, frames_nil_iff, List.dropWhile_eq_nil_iff]

/-! ### Batches -/

namespace Connection

variable {connection : Connection}

theorem send_open (opened : connection.closed = false) (running : connection.writing = true)
    (packets : List Packet) :
    connection.send codec packets =
      { connection with
        outbox := connection.outbox ++ frames (packets.takeWhile (Fits codec))
        writing := packets.all (Fits codec) } := by
  simp [send, opened, running, write_prefix]

theorem send_mute (mute : connection.writing = false) (packets : List Packet) :
    connection.send codec packets = connection := by
  simp [send, mute]

theorem send_closed (closed : connection.closed = true) (packets : List Packet) :
    connection.send codec packets = connection := by
  simp [send, closed]

/-- Sending touches nothing but the bytes for the peer and the writer. -/
theorem send_keeps (packets : List Packet) :
    (connection.send codec packets).closed = connection.closed ∧
      (connection.send codec packets).inbox = connection.inbox ∧
      (connection.send codec packets).ended = connection.ended := by
  unfold send
  split <;> exact ⟨rfl, rfl, rfl⟩

/-- The bytes for the peer, and whether there will be more. -/
def wire (connection : Connection) : List UInt8 × Bool := (connection.outbox, connection.writing)

theorem send_wire {other : Connection} (closed : connection.closed = other.closed)
    (wires : connection.wire = other.wire) (packets : List Packet) :
    (connection.send codec packets).wire = (other.send codec packets).wire := by
  obtain ⟨outbox, writing⟩ := Prod.mk.inj wires
  unfold send
  rw [closed, writing]
  split
  · simp only [wire, outbox]
  · exact wires

theorem send_nil : connection.send codec [] = connection := by
  cases closed : connection.closed with
  | true => rw [send_closed closed]
  | false =>
      cases running : connection.writing with
      | false => rw [send_mute running]
      | true => simp [send_open closed running, frames, ← running]

/-- Two batches are as good as one. -/
theorem send_send (packets others : List Packet) :
    (connection.send codec packets).send codec others =
      connection.send codec (packets ++ others) := by
  cases closed : connection.closed with
  | true => rw [send_closed closed, send_closed closed, send_closed closed]
  | false =>
      cases running : connection.writing with
      | false => rw [send_mute running, send_mute running, send_mute running]
      | true =>
          cases still : (write codec packets).2 with
          | false => simp [send, closed, running, write_append, still]
          | true => simp [send, closed, running, write_append, still]

end Connection

/-! ### Connections -/

def letters (count : Nat) : String := String.ofList (List.replicate count 'e')

theorem letters_length (count : Nat) : (letters count).toList.length = count := by
  rw [letters, String.toList_ofList, List.length_replicate]

end Interception.Transport
