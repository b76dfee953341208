import Interception.Proofs.Wire.Reading
import Interception.Wire.Codec

/-!
The codec accepts exactly its grammar. A body is read as the packet it was
written for, with whatever follows it ignored; so bodies of different packets
differ, none is the beginning of another, and a version is told apart only
after the whole body has been read.
-/

namespace Interception.Wire

theorem body_injective {packet other : Packet} {trailing : List UInt8} {version : UInt32}
    (short : (body packet).length < addressable)
    (same : body packet = putBody version other ++ trailing) :
    version = protocolVersion ∧ other = packet ∧ trailing = [] := by
  have own := (reads_body (body packet) (protocolVersion, packet) [] short).mpr
    ⟨trivial, (List.append_nil _).symm⟩
  have found := (reads_body (body packet) (version, other) trailing short).mpr ⟨trivial, same⟩
  rw [own] at found
  cases found
  exact ⟨rfl, rfl, rfl⟩

theorem putBody_ne_nil (version : UInt32) (packet : Packet) : putBody version packet ≠ [] := by
  simp [putBody, put32, putNat]

namespace Codec

theorem ofLimit_bounds {limit : Nat} {codec : Codec} (legal : ofLimit limit = .ok codec) :
    codec.limit = limit ∧ smallestLimit ≤ limit ∧ limit ≤ largestLimit := by
  unfold ofLimit at legal
  split_ifs at legal with within
  cases legal
  exact ⟨rfl, within⟩

theorem length_putNat (width value : Nat) : (putNat width value).length = width := by
  induction width generalizing value with
  | zero => rfl
  | succ width ih => rw [putNat, List.length_cons, ih]

theorem littleEndian_putNat (width value : Nat) (small : value < 256 ^ width) :
    littleEndian (putNat width value) = value := by
  induction width generalizing value with
  | zero => rw [Nat.pow_zero] at small; simp [putNat, littleEndian]; omega
  | succ width ih =>
      rw [Nat.pow_succ] at small
      rw [putNat, littleEndian, ih _ (by omega), UInt8.toNat_ofNat']
      omega

theorem putNat_littleEndian (header : List UInt8) :
    putNat header.length (littleEndian header) = header := by
  induction header with
  | nil => rfl
  | cons byte rest ih =>
      have bound := byte.toNat_lt
      have first : UInt8.ofNat (littleEndian (byte :: rest)) = byte := by
        rw [← UInt8.toNat_inj, UInt8.toNat_ofNat', littleEndian]
        omega
      have others : littleEndian (byte :: rest) / 256 = littleEndian rest := by
        rw [littleEndian]
        omega
      rw [List.length_cons, putNat, first, others, ih]

section Bounded

variable {codec : Codec} (bounded : codec.limit ≤ largestLimit)

include bounded

theorem within_addressable {size : Nat} (within : size ≤ codec.limit) : size < addressable := by
  simp only [largestLimit, addressable] at *
  omega

theorem encode_ok_iff (packet : Packet) (framed : List UInt8) :
    codec.encode packet = .ok framed ↔
      (body packet).length ≤ codec.limit ∧
      ∃ header, header.length = headerLength ∧ littleEndian header = (body packet).length ∧
        framed = header ++ body packet := by
  simp only [encode, frame]
  constructor
  · intro written
    split_ifs at written with within
    cases written
    refine ⟨within, _, length_putNat _ _, littleEndian_putNat _ _ ?_, rfl⟩
    simp only [largestLimit, headerLength] at *
    omega
  · rintro ⟨within, header, four, announced, rfl⟩
    rw [if_pos within, ← announced, ← four, putNat_littleEndian]

/-- What a body within the limit is decoded to once it has been read. -/
theorem decode_read {bytes rest : List UInt8} {version : UInt32} {packet : Packet}
    (within : bytes.length ≤ codec.limit) (shape : bytes = putBody version packet ++ rest) :
    codec.decode bytes =
      if version = protocolVersion then .ok packet else .error (.versionMismatch version) := by
  -- A body is never empty: its version alone takes four bytes.
  have full : bytes ≠ [] := by
    rw [shape]
    exact List.append_ne_nil_of_left_ne_nil (putBody_ne_nil version packet) rest
  have read := (reads_body bytes (version, packet) rest (within_addressable bounded within)).mpr
    ⟨trivial, shape⟩
  rw [decode, if_neg full, if_neg (by omega), read]

/-- Only a body within the limit gets as far as its version. -/
theorem decode_shape {bytes : List UInt8} {result : Except WireError Packet}
    (decoded : codec.decode bytes = result)
    (judged : (∃ packet, result = .ok packet) ∨ ∃ version, result = .error (.versionMismatch version)) :
    bytes.length ≤ codec.limit ∧
      ∃ version packet trailing, bytes = putBody version packet ++ trailing := by
  unfold decode at decoded
  split_ifs at decoded with nothing oversized
  · grind
  · grind
  have within : bytes.length ≤ codec.limit := by omega
  refine ⟨within, ?_⟩
  cases read : takeBody.run bytes with
  | error defect =>
      rw [read] at decoded
      grind
  | ok found =>
      obtain ⟨⟨version, packet⟩, rest⟩ := found
      have shape := (reads_body _ _ _ (within_addressable bounded within)).mp read
      exact ⟨version, packet, rest, shape.2⟩

theorem decode_ok_iff (bytes : List UInt8) (packet : Packet) :
    codec.decode bytes = .ok packet ↔
      bytes ≠ [] ∧ bytes.length ≤ codec.limit ∧ ∃ trailing, bytes = body packet ++ trailing := by
  constructor
  · intro decoded
    obtain ⟨within, version, found, trailing, shape⟩ :=
      decode_shape bounded decoded (.inl ⟨packet, rfl⟩)
    have judged := decode_read bounded within shape
    rw [decoded] at judged
    split_ifs at judged with current
    cases judged
    refine ⟨?_, within, trailing, by rw [shape, current, body]⟩
    rw [shape]
    exact List.append_ne_nil_of_left_ne_nil (putBody_ne_nil version _) trailing
  · rintro ⟨_, within, trailing, shape⟩
    rw [decode_read bounded within shape, if_pos rfl]

theorem decode_mismatch_iff (bytes : List UInt8) (version : UInt32) :
    codec.decode bytes = .error (.versionMismatch version) ↔
      bytes.length ≤ codec.limit ∧ version ≠ protocolVersion ∧
        ∃ packet trailing, bytes = putBody version packet ++ trailing := by
  constructor
  · intro decoded
    obtain ⟨within, got, packet, trailing, shape⟩ :=
      decode_shape bounded decoded (.inr ⟨version, rfl⟩)
    have judged := decode_read bounded within shape
    rw [decoded] at judged
    split_ifs at judged with current
    cases judged
    exact ⟨within, current, packet, trailing, shape⟩
  · rintro ⟨within, other, packet, trailing, shape⟩
    rw [decode_read bounded within shape, if_neg other]

theorem decodeFrame_encode {packet : Packet} {framed : List UInt8} (trailing : List UInt8)
    (written : codec.encode packet = .ok framed) :
    codec.decodeFrame (framed ++ trailing) = .ok packet := by
  obtain ⟨within, header, four, announced, rfl⟩ := (encode_ok_iff bounded packet framed).mp written
  have full : 0 < (body packet).length :=
    List.length_pos_iff.mpr (putBody_ne_nil protocolVersion packet)
  have long : ¬ (header ++ body packet ++ trailing).length < headerLength := by
    simp only [List.length_append]
    omega
  have size : codec.bodyLength header = .ok (body packet).length := by
    unfold bodyLength
    simp only [announced]
    rw [if_neg (by omega), if_neg (by omega)]
  have whole : ¬ (body packet ++ trailing).length < (body packet).length := by simp
  unfold decodeFrame
  rw [if_neg long, ← four, List.append_assoc, List.take_left, size]
  simp only [List.drop_left, if_neg whole, List.take_left]
  exact (decode_ok_iff bounded _ _).mpr
    ⟨putBody_ne_nil protocolVersion packet, within, [], (List.append_nil _).symm⟩

/-- A body that stops early is never taken for a shorter one. -/
theorem decode_beginning {packet other : Packet} {front back : List UInt8}
    (short : (body packet).length < addressable) (split : body packet = front ++ back)
    (missing : back ≠ []) : codec.decode front ≠ .ok other := by
  intro decoded
  obtain ⟨_, _, trailing, shape⟩ := (decode_ok_iff bounded front other).mp decoded
  rw [shape, List.append_assoc] at split
  obtain ⟨_, _, nothing⟩ := body_injective short split
  exact missing (List.append_eq_nil_iff.mp nothing).2

end Bounded

/-- What a codec writes and what it accepts. -/
structure Exact (codec : Codec) : Prop where
  encodes : ∀ packet framed, codec.encode packet = .ok framed ↔
    (body packet).length ≤ codec.limit ∧
    ∃ header, header.length = headerLength ∧ littleEndian header = (body packet).length ∧
      framed = header ++ body packet
  decodes : ∀ bytes packet, codec.decode bytes = .ok packet ↔
    bytes ≠ [] ∧ bytes.length ≤ codec.limit ∧ ∃ trailing, bytes = body packet ++ trailing
  mismatches : ∀ bytes version, codec.decode bytes = .error (.versionMismatch version) ↔
    bytes.length ≤ codec.limit ∧ version ≠ protocolVersion ∧
      ∃ packet trailing, bytes = putBody version packet ++ trailing
  unframes : ∀ packet framed trailing, codec.encode packet = .ok framed →
    codec.decodeFrame (framed ++ trailing) = .ok packet
  /-- A length is written in eight bytes, so a longer body would not be one. -/
  early : ∀ packet front back other, (body packet).length < addressable →
    body packet = front ++ back → back ≠ [] → codec.decode front ≠ .ok other
  distinct : ∀ packet other, (body packet).length < addressable →
    body packet = body other → packet = other
  apart : ∀ packet other framed, codec.encode packet = .ok framed →
    codec.encode other = .ok framed → packet = other

/-- A codec with a legal limit frames every packet whose body fits and decodes
exactly the bytes that begin with a body. Every other version is reported and
nothing else is. -/
theorem codec_exact {limit : Nat} {codec : Codec} (legal : ofLimit limit = .ok codec) :
    Exact codec := by
  obtain ⟨same, _, most⟩ := ofLimit_bounds legal
  have bounded : codec.limit ≤ largestLimit := same ▸ most
  refine ⟨encode_ok_iff bounded, decode_ok_iff bounded, decode_mismatch_iff bounded,
    fun _ _ trailing => decodeFrame_encode bounded trailing,
    fun _ _ _ _ => decode_beginning bounded, ?_, ?_⟩
  · intro packet other short equal
    exact (body_injective short (equal.trans (List.append_nil _).symm)).2.1.symm
  · intro packet other framed written again
    have first := decodeFrame_encode bounded [] written
    have second := decodeFrame_encode bounded [] again
    exact Except.ok.inj (first.symm.trans second)

theorem standard_exact : ofLimit largestLimit = .ok standard ∧ Exact standard :=
  ⟨rfl, codec_exact (rfl : ofLimit largestLimit = .ok standard)⟩

end Codec

end Interception.Wire
