import Interception.Proofs.Wire.Characters
import Interception.Wire.Body
import Mathlib.Algebra.GroupWithZero.Nat
import Mathlib.Tactic.SplitIfs

/-!
What is read from the front of a body is what was written there. A reader is
tied to a writer for the values it admits: on any bytes it yields a value and
the rest exactly when the bytes are the value as written and then the rest.
Readers are put together field by field, and a choice by its number. Bytes are
fewer than an eight byte length can count.
-/

namespace Interception.Wire

def addressable : Nat := 2 ^ 64

def Reads {Value : Type} (take : Take Value) (admits : Value → Prop)
    (put : Value → List UInt8) : Prop :=
  ∀ bytes value rest, bytes.length < addressable →
    (take.run bytes = .ok (value, rest) ↔ admits value ∧ bytes = put value ++ rest)

theorem run_bind {Before After : Type} {take : Take Before} {next : Before → Take After}
    {bytes rest : List UInt8} {value : After} :
    (take >>= next).run bytes = .ok (value, rest) ↔
      ∃ before middle, take.run bytes = .ok (before, middle) ∧
        (next before).run middle = .ok (value, rest) := by
  rw [StateT.run_bind]
  cases take.run bytes with
  | error defect => simp [bind, Except.bind]
  | ok pair =>
      constructor
      · intro read
        exact ⟨pair.1, pair.2, rfl, read⟩
      · rintro ⟨before, middle, same, read⟩
        cases same
        exact read

theorem run_map {Before After : Type} {take : Take Before} {convert : Before → After}
    {bytes rest : List UInt8} {value : After} :
    (convert <$> take).run bytes = .ok (value, rest) ↔
      ∃ before, take.run bytes = .ok (before, rest) ∧ convert before = value := by
  rw [StateT.run_map]
  cases take.run bytes with
  | error defect => simp [Functor.map, Except.map]
  | ok pair => simp [Functor.map, Except.map, Prod.ext_iff]; grind

namespace Reads

variable {Part Whole : Type} {take : Take Part} {fits : Part → Prop} {put : Part → List UInt8}
  {next : Part → Take Whole} {admits : Whole → Prop} {putWhole putRest : Whole → List UInt8}

theorem done {whole : Whole} (only : ∀ value, admits value ↔ value = whole)
    (nothing : putRest whole = []) : Reads (pure whole) admits putRest := by
  intro bytes value rest _
  rw [only]
  simp only [StateT.run_pure]
  constructor
  · intro read
    cases read
    simp [nothing]
  · rintro ⟨rfl, rfl⟩
    simp [nothing]
    rfl

theorem never {defect : Defect} (none : ∀ value, ¬ admits value) :
    Reads (throw defect) admits putRest := by
  intro bytes value rest _
  constructor
  · intro read
    cases read
  · rintro ⟨admitted, _⟩
    exact absurd admitted (none value)

theorem bind {admitsRest : Part → Whole → Prop}
    (first : Reads take fits put)
    (second : ∀ part, fits part → Reads (next part) (admitsRest part) putRest)
    (known : ∀ whole, admits whole ↔ ∃ part, fits part ∧ admitsRest part whole)
    (split : ∀ part whole, admitsRest part whole → putWhole whole = put part ++ putRest whole) :
    Reads (take >>= next) admits putWhole := by
  intro bytes whole rest short
  rw [run_bind, known]
  constructor
  · rintro ⟨part, middle, read, onward⟩
    obtain ⟨fit, rfl⟩ := (first _ _ _ short).mp read
    have shorter : middle.length < addressable := by
      rw [List.length_append] at short
      omega
    obtain ⟨admitted, rfl⟩ := (second part fit _ _ _ shorter).mp onward
    exact ⟨⟨part, fit, admitted⟩, by rw [split part whole admitted, List.append_assoc]⟩
  · rintro ⟨⟨part, fit, admitted⟩, rfl⟩
    rw [split part whole admitted, List.append_assoc] at short ⊢
    have shorter : (putRest whole ++ rest).length < addressable := by
      rw [List.length_append] at short
      omega
    exact ⟨part, _, (first _ _ _ short).mpr ⟨fit, rfl⟩,
      (second part fit _ _ _ shorter).mpr ⟨admitted, rfl⟩⟩

/-- The part of a record that stands next. -/
theorem field (part : Whole → Part) (first : Reads take fits put)
    (fit : ∀ whole, admits whole → fits (part whole))
    (second : ∀ value, fits value →
      Reads (next value) (fun whole => admits whole ∧ part whole = value) putRest) :
    Reads (take >>= next) admits (fun whole => put (part whole) ++ putRest whole) := by
  refine bind first second ?_ ?_
  · intro whole
    exact ⟨fun admitted => ⟨part whole, fit whole admitted, admitted, rfl⟩,
      fun ⟨_, _, admitted, _⟩ => admitted⟩
  · rintro _ whole ⟨_, rfl⟩
    rfl

/-- A choice is read by its number. -/
theorem tagged {width : Nat} {next : Nat → Take Whole} (index : Whole → Nat)
    (number : Reads (takeNat width) (· < 256 ^ width) (putNat width))
    (small : ∀ whole, index whole < 256 ^ width)
    (second : ∀ tag, Reads (next tag) (fun whole => index whole = tag) putRest) :
    Reads (takeNat width >>= next) (fun _ => True)
      (fun whole => putNat width (index whole) ++ putRest whole) := by
  refine field index number (fun whole _ => small whole) ?_
  intro tag _
  simpa only [true_and] using second tag

/-- A choice of which nothing more is written. -/
theorem chosen {width : Nat} {next : Nat → Take Whole} (index : Whole → Nat)
    (number : Reads (takeNat width) (· < 256 ^ width) (putNat width))
    (small : ∀ whole, index whole < 256 ^ width)
    (second : ∀ tag, Reads (next tag) (fun whole => index whole = tag) (fun _ => [])) :
    Reads (takeNat width >>= next) (fun _ => True) (fun whole => putNat width (index whole)) := by
  simpa only [List.append_nil] using tagged index number small second

/-- A value kept in another form. -/
theorem through {convert : Part → Whole} (back : Whole → Part) (first : Reads take fits put)
    (fit : ∀ whole, fits (back whole)) (left : ∀ part, fits part → back (convert part) = part)
    (right : ∀ whole, convert (back whole) = whole) :
    Reads (convert <$> take) (fun _ => True) (fun whole => put (back whole)) := by
  intro bytes whole rest short
  rw [run_map]
  constructor
  · rintro ⟨part, read, rfl⟩
    obtain ⟨fit, rfl⟩ := (first _ _ _ short).mp read
    exact ⟨trivial, by simp only [left part fit]⟩
  · rintro ⟨_, rfl⟩
    exact ⟨back whole, (first _ _ _ short).mpr ⟨fit whole, rfl⟩, right whole⟩

/-- An alternative that carries the value just read. -/
theorem made (make : Part → Whole) (first : Reads take (fun _ => True) put)
    (known : ∀ whole, admits whole ↔ ∃ part, whole = make part)
    (same : ∀ part, putWhole (make part) = put part) :
    Reads (make <$> take) admits putWhole := by
  intro bytes whole rest short
  rw [run_map, known]
  constructor
  · rintro ⟨part, read, rfl⟩
    obtain ⟨_, rfl⟩ := (first _ _ _ short).mp read
    exact ⟨⟨part, rfl⟩, by rw [same]⟩
  · rintro ⟨⟨part, rfl⟩, rfl⟩
    rw [same] at short ⊢
    exact ⟨part, (first _ _ _ short).mpr ⟨trivial, rfl⟩, rfl⟩

end Reads

/-! ### Numbers -/

theorem takeNat_cons (width : Nat) (byte : UInt8) (rest : List UInt8) :
    (takeNat (width + 1)).run (byte :: rest) =
      ((fun value => byte.toNat + 256 * value) <$> takeNat width).run rest := rfl

theorem reads_nat (width : Nat) : Reads (takeNat width) (· < 256 ^ width) (putNat width) := by
  induction width with
  | zero => exact Reads.done (fun value => by rw [Nat.pow_zero]; omega) rfl
  | succ width ih =>
      intro bytes value rest short
      cases bytes with
      | nil =>
          constructor
          · intro read
            cases read
          · rintro ⟨_, same⟩
            cases same
      | cons byte bytes =>
          have shorter : bytes.length < addressable := Nat.lt_of_succ_lt short
          have bound := byte.toNat_lt
          -- The first byte is the number's remainder, the others its quotient.
          rw [takeNat_cons, run_map, putNat, List.cons_append, List.cons.injEq, Nat.pow_succ]
          constructor
          · rintro ⟨high, read, rfl⟩
            obtain ⟨small, rfl⟩ := (ih _ _ _ shorter).mp read
            refine ⟨by omega, ?_, ?_⟩
            · rw [← UInt8.toNat_inj, UInt8.toNat_ofNat']
              omega
            · rw [show (byte.toNat + 256 * high) / 256 = high by omega]
          · rintro ⟨small, first, others⟩
            have low : byte.toNat = value % 256 := by rw [first, UInt8.toNat_ofNat']
            exact ⟨value / 256, (ih _ _ _ shorter).mpr ⟨by omega, others⟩, by omega⟩

theorem reads_8 : Reads take8 (fun _ => True) put8 := by
  have same : put8 = fun value => putNat 1 value.toNat := by
    funext value
    rw [putNat, putNat, UInt8.ofNat_toNat, put8]
  rw [same]
  exact Reads.through UInt8.toNat (reads_nat 1) UInt8.toNat_lt
    (fun _ small => UInt8.toNat_ofNat_of_lt small) (fun _ => UInt8.ofNat_toNat)

theorem reads_32 : Reads take32 (fun _ => True) put32 :=
  Reads.through UInt32.toNat (reads_nat 4) UInt32.toNat_lt
    (fun _ small => UInt32.toNat_ofNat_of_lt small) (fun _ => UInt32.ofNat_toNat)

theorem reads_64 : Reads take64 (fun _ => True) put64 :=
  Reads.through UInt64.toNat (reads_nat 8) UInt64.toNat_lt
    (fun _ small => UInt64.toNat_ofNat_of_lt small) (fun _ => UInt64.ofNat_toNat)

theorem reads_signed : Reads takeSigned (fun _ => True) putSigned :=
  Reads.through Int32.toUInt32 reads_32 (fun _ => trivial) (fun _ _ => UInt32.toUInt32_toInt32 _)
    (fun _ => Int32.toInt32_toUInt32 _)

/-! ### Texts and alternatives -/

theorem takeText_run (bytes : List UInt8) :
    takeText.run bytes = match (takeNat 8).run bytes with
      | .error defect => .error defect
      | .ok (length, rest) =>
          if rest.length < length then .error .missingText
          else match decodeUtf8 (rest.take length) with
            | .ok text => .ok (text, rest.drop length)
            | .error error => .error (.badText error) := by
  rw [takeText, StateT.run_bind]
  cases (takeNat 8).run bytes with
  | error defect => rfl
  | ok pair =>
      obtain ⟨length, rest⟩ := pair
      simp only [bind, Except.bind, StateT.bind, StateT.run, get, getThe, MonadStateOf.get,
        StateT.get, pure, Except.pure, set]
      split
      · rfl
      · cases decodeUtf8 (rest.take length) <;> rfl

theorem reads_text : Reads takeText (fun _ => True) putText := by
  intro bytes text rest short
  rw [takeText_run]
  constructor
  · intro read
    split at read
    · cases read
    next length middle counted =>
      obtain ⟨_, rfl⟩ := (reads_nat 8 _ _ _ short).mp counted
      split_ifs at read
      split at read
      · next decoded =>
          cases read
          have same := (decodeUtf8_ok_iff _ _).mp decoded
          have size : (utf8Bytes text).length = length := by
            rw [← same, List.length_take]
            omega
          refine ⟨trivial, ?_⟩
          rw [putText, size, ← same, List.append_assoc, List.take_append_drop]
      · cases read
  · rintro ⟨_, rfl⟩
    rw [putText, List.append_assoc] at short ⊢
    -- Only here it matters that the bytes are few: their length has to fit.
    have small : (utf8Bytes text).length < 256 ^ 8 := by
      simp only [List.length_append, addressable] at short
      omega
    have counted := (reads_nat 8 _ _ _ short).mpr ⟨small, rfl⟩
    have enough : ¬ (utf8Bytes text ++ rest).length < (utf8Bytes text).length := by
      simp
    rw [counted]
    simp only [if_neg enough, List.take_left, List.drop_left,
      (decodeUtf8_ok_iff _ text).mpr rfl]

def boolIndex (value : Bool) : Nat := if value then 1 else 0

theorem reads_bool : Reads takeBool (fun _ => True) putBool := by
  have same : putBool = fun value => putNat 1 (boolIndex value) := by
    funext value
    cases value <;> rfl
  rw [same]
  refine Reads.chosen boolIndex (reads_nat 1) (by decide) ?_
  intro tag
  match tag with
  | 0 | 1 => exact Reads.done (by decide) rfl
  | tag + 2 => exact Reads.never fun value => by cases value <;> simp [boolIndex]

def optionIndex {Value : Type} (value : Option Value) : Nat := boolIndex value.isSome

def putContent {Value : Type} (put : Value → List UInt8) (value : Option Value) : List UInt8 :=
  (value.map put).getD []

theorem reads_option {Value : Type} {take : Take Value} {put : Value → List UInt8}
    (read : Reads take (fun _ => True) put) :
    Reads (takeOption take) (fun _ => True) (putOption put) := by
  have same : putOption put =
      fun value => putNat 1 (optionIndex value) ++ putContent put value := by
    funext value
    cases value <;> rfl
  rw [same]
  refine Reads.tagged optionIndex (reads_nat 1) (by simp [optionIndex, boolIndex]; grind) ?_
  intro tag
  match tag with
  | 0 => exact Reads.done (by intro value; cases value <;> simp [optionIndex, boolIndex]) rfl
  | 1 =>
      exact Reads.made some read (by intro value; cases value <;> simp [optionIndex, boolIndex])
        (fun _ => rfl)
  | tag + 2 =>
      exact Reads.never fun value => by cases value <;> simp [optionIndex, boolIndex]

theorem reads_operation : Reads takeOperation (fun _ => True) putOperation := by
  refine Reads.chosen operationIndex (reads_nat 4) (by intro value; cases value <;> decide) ?_
  intro tag
  match tag with
  | 0 | 1 | 2 | 3 | 4 => exact Reads.done (by intro value; cases value <;> decide) rfl
  | tag + 5 => exact Reads.never fun value => by cases value <;> simp [operationIndex]

theorem reads_decision : Reads takeDecision (fun _ => True) putDecision := by
  refine Reads.chosen decisionIndex (reads_nat 4) (by intro value; cases value <;> decide) ?_
  intro tag
  match tag with
  | 0 | 1 => exact Reads.done (by intro value; cases value <;> decide) rfl
  | tag + 2 => exact Reads.never fun value => by cases value <;> simp [decisionIndex]

/-! ### Records -/

theorem reads_pair {First Second : Type} {take : Take First} {next : Take Second}
    {put : First → List UInt8} {putNext : Second → List UInt8}
    (first : Reads take (fun _ => True) put) (second : Reads next (fun _ => True) putNext) :
    Reads (do return (← take, ← next)) (fun _ => True)
      (fun pair : First × Second => put pair.1 ++ putNext pair.2) := by
  have same : (fun pair : First × Second => put pair.1 ++ putNext pair.2) =
      fun pair => put pair.1 ++ (putNext pair.2 ++ []) := by
    funext pair
    rw [List.append_nil]
  rw [same]
  refine .field Prod.fst first (fun _ _ => trivial) fun left _ => ?_
  refine .field Prod.snd second (fun _ _ => trivial) fun right _ => ?_
  exact .done (fun pair => by cases pair; simp) rfl

theorem reads_personality : Reads takePersonality (fun _ => True) putPersonality := by
  have same : putPersonality = fun task => putSigned task.pid ++ (putSigned task.tid ++
      (put32 task.uid ++ (put32 task.euid ++ (put32 task.gid ++ (put32 task.egid ++
        (putText task.comm ++ [])))))) := by
    funext task
    simp only [putPersonality, List.append_assoc, List.append_nil]
  rw [same]
  refine .field Personality.pid reads_signed (fun _ _ => trivial) fun pid _ => ?_
  refine .field Personality.tid reads_signed (fun _ _ => trivial) fun tid _ => ?_
  refine .field Personality.uid reads_32 (fun _ _ => trivial) fun uid _ => ?_
  refine .field Personality.euid reads_32 (fun _ _ => trivial) fun euid _ => ?_
  refine .field Personality.gid reads_32 (fun _ _ => trivial) fun gid _ => ?_
  refine .field Personality.egid reads_32 (fun _ _ => trivial) fun egid _ => ?_
  refine .field Personality.comm reads_text (fun _ _ => trivial) fun comm _ => ?_
  exact .done (fun task => by cases task; simp [and_assoc]) rfl

theorem reads_request : Reads takeRequest (fun _ => True) putRequest := by
  have same : putRequest = fun request => put64 request.ticket ++
      (putOperation request.operation ++ (putOption putText request.path ++
        (putText request.fsType ++ (put64 request.flags ++ (putBool request.writable ++
          (put64 request.device ++ (put64 request.inode ++
            (putPersonality request.personality ++ [])))))))) := by
    funext request
    simp only [putRequest, List.append_assoc, List.append_nil]
  rw [same]
  refine .field Vetting.Request.ticket reads_64 (fun _ _ => trivial) fun ticket _ => ?_
  refine .field Vetting.Request.operation reads_operation (fun _ _ => trivial) fun kind _ => ?_
  refine .field Vetting.Request.path (reads_option reads_text) (fun _ _ => trivial) fun path _ => ?_
  refine .field Vetting.Request.fsType reads_text (fun _ _ => trivial) fun fsType _ => ?_
  refine .field Vetting.Request.flags reads_64 (fun _ _ => trivial) fun flags _ => ?_
  refine .field Vetting.Request.writable reads_bool (fun _ _ => trivial) fun writable _ => ?_
  refine .field Vetting.Request.device reads_64 (fun _ _ => trivial) fun device _ => ?_
  refine .field Vetting.Request.inode reads_64 (fun _ _ => trivial) fun inode _ => ?_
  refine .field Vetting.Request.personality reads_personality (fun _ _ => trivial) fun task _ => ?_
  exact .done (fun request => by cases request; simp [and_assoc]) rfl

theorem reads_response : Reads takeResponse (fun _ => True) putResponse := by
  have same : putResponse = fun response => put64 response.ticket ++
      (putDecision response.decision ++ (putOption putSigned response.code ++ [])) := by
    funext response
    simp only [putResponse, List.append_assoc, List.append_nil]
  rw [same]
  refine .field Vetting.Response.ticket reads_64 (fun _ _ => trivial) fun ticket _ => ?_
  refine .field Vetting.Response.decision reads_decision (fun _ _ => trivial) fun decision _ => ?_
  refine .field Vetting.Response.code (reads_option reads_signed) (fun _ _ => trivial)
    fun code _ => ?_
  exact .done (fun response => by cases response; simp [and_assoc]) rfl

/-! ### Packets -/

def packetIndex : Packet → Nat
  | .register _ _ => 0
  | .registered _ => 1
  | .request _ => 2
  | .response _ => 3
  | .error _ => 4
  | .goodbye => 5

def putFields : Packet → List UInt8
  | .register name groups => putText name ++ put8 groups
  | .registered client => put32 client
  | .request asked => putRequest asked
  | .response answer => putResponse answer
  | .error message => putText message
  | .goodbye => []

theorem putPacket_index (packet : Packet) :
    putPacket packet = putNat 4 (packetIndex packet) ++ putFields packet := by
  cases packet <;> simp [putPacket, packetIndex, putFields]

theorem packetIndex_small (packet : Packet) : packetIndex packet < 256 ^ 4 := by
  cases packet <;> simp [packetIndex]

theorem reads_packet : Reads takePacket (fun _ => True) putPacket := by
  rw [funext putPacket_index]
  refine .tagged packetIndex (reads_nat 4) packetIndex_small fun tag => ?_
  match tag with
  | 0 =>
      have joined : (do return Packet.register (← takeText) (← take8)) =
          (fun pair : String × UInt8 => Packet.register pair.1 pair.2) <$>
            (do return (← takeText, ← take8) : Take (String × UInt8)) := by
        simp only [map_bind, map_pure]
      simp only [joined]
      exact .made (fun pair : String × UInt8 => Packet.register pair.1 pair.2)
        (reads_pair reads_text reads_8)
        (by intro packet; cases packet <;> simp [packetIndex]) (fun _ => rfl)
  | 1 =>
      exact Reads.made Packet.registered reads_32
        (by intro packet; cases packet <;> simp [packetIndex]) (fun _ => rfl)
  | 2 =>
      exact .made Packet.request reads_request
        (by intro packet; cases packet <;> simp [packetIndex]) (fun _ => rfl)
  | 3 =>
      exact .made Packet.response reads_response
        (by intro packet; cases packet <;> simp [packetIndex]) (fun _ => rfl)
  | 4 =>
      exact .made Packet.error reads_text
        (by intro packet; cases packet <;> simp [packetIndex]) (fun _ => rfl)
  | 5 => exact .done (by intro packet; cases packet <;> simp [packetIndex]) rfl
  | tag + 6 => exact .never fun packet => by cases packet <;> simp [packetIndex]

theorem reads_body :
    Reads takeBody (fun _ => True) (fun versioned => putBody versioned.1 versioned.2) :=
  reads_pair reads_32 reads_packet

end Interception.Wire
