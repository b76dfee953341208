import Interception.Transport.Stream

/-!
How frames are cut from a stream. Headers cut a stream from the left into
whole frames, however their bodies decode, and a rest: the beginning of a
frame, or a header that announces nothing or too much. The reader takes
exactly these frames, up to the first goodbye, and it takes the same ones
however the bytes arrive.
-/

namespace Interception.Transport

open Wire

variable {codec : Codec}

/-- A whole frame. -/
structure Framed (codec : Codec) (header body : List UInt8) : Prop where
  four : header.length = headerLength
  announced : Codec.littleEndian header = body.length
  positive : body ≠ []
  within : body.length ≤ codec.limit

/-- The beginning of a frame that is not whole. -/
inductive Unfinished (codec : Codec) : List UInt8 → Prop
  | header {bytes : List UInt8} (few : bytes.length < headerLength) : Unfinished codec bytes
  | body {header bytes : List UInt8} (four : header.length = headerLength)
      (within : Codec.littleEndian header ≤ codec.limit)
      (few : bytes.length < Codec.littleEndian header) : Unfinished codec (header ++ bytes)

/-- A header after which nobody knows where the next frame begins. -/
inductive Faulty (codec : Codec) (header : List UInt8) : WireError → Prop
  | zero (four : header.length = headerLength) (announced : Codec.littleEndian header = 0) :
      Faulty codec header .empty
  | oversized (four : header.length = headerLength)
      (beyond : codec.limit < Codec.littleEndian header) :
      Faulty codec header (.tooLarge (Codec.littleEndian header) codec.limit)

/-- A stream is cut by headers from the left: the bodies of its whole frames,
and the error of the header that stops the cutting, if one does. -/
inductive Cut (codec : Codec) : List UInt8 → List (List UInt8) → Option WireError → Prop
  | ended {rest : List UInt8} (unfinished : Unfinished codec rest) : Cut codec rest [] none
  | fault {header rest : List UInt8} {error : WireError} (faulty : Faulty codec header error) :
      Cut codec (header ++ rest) [] (some error)
  | frame {header body rest : List UInt8} {bodies : List (List UInt8)} {fault : Option WireError}
      (framed : Framed codec header body) (later : Cut codec rest bodies fault) :
      Cut codec (header ++ (body ++ rest)) (body :: bodies) fault

/-! ### The front of a stream -/

theorem bodyLength_framed {header body : List UInt8} (framed : Framed codec header body) :
    codec.bodyLength header = .ok body.length := by
  have positive := List.length_pos_iff.mpr framed.positive
  have within := framed.within
  simp only [Codec.bodyLength, framed.announced]
  rw [if_neg (by omega), if_neg (by omega)]

theorem bodyLength_faulty {header : List UInt8} {error : WireError}
    (faulty : Faulty codec header error) : codec.bodyLength header = .error error := by
  cases faulty with
  | zero four announced => simp only [Codec.bodyLength, announced, if_true]
  | oversized four beyond =>
      simp only [Codec.bodyLength]
      rw [if_neg (by omega), if_pos beyond]

theorem faulty_four {header : List UInt8} {error : WireError}
    (faulty : Faulty codec header error) : header.length = headerLength := by
  cases faulty <;> assumption

theorem front_bad {header : List UInt8} {error : WireError} (four : header.length = headerLength)
    (bad : codec.bodyLength header = .error error) (rest : List UInt8) :
    front codec (header ++ rest) = .badLength error := by
  have long : ¬ (header ++ rest).length < headerLength := by
    simp only [List.length_append]
    omega
  simp only [front, if_neg long, List.take_left' four, bad]

theorem front_sized {header : List UInt8} {size : Nat} (four : header.length = headerLength)
    (sized : codec.bodyLength header = .ok size) (rest : List UInt8) :
    front codec (header ++ rest) =
      if rest.length < size then .incomplete
      else .frame (codec.decode (rest.take size)) (rest.drop size) := by
  have long : ¬ (header ++ rest).length < headerLength := by
    simp only [List.length_append]
    omega
  simp only [front, if_neg long, List.take_left' four, List.drop_left' four, sized]

theorem front_frame {header body : List UInt8} (framed : Framed codec header body)
    (rest : List UInt8) :
    front codec (header ++ (body ++ rest)) = .frame (codec.decode body) rest := by
  have whole : ¬ (body ++ rest).length < body.length := by
    simp only [List.length_append]
    omega
  rw [front_sized framed.four (bodyLength_framed framed), if_neg whole, List.take_left,
    List.drop_left]

theorem front_faulty {header : List UInt8} {error : WireError}
    (faulty : Faulty codec header error) (rest : List UInt8) :
    front codec (header ++ rest) = .badLength error :=
  front_bad (faulty_four faulty) (bodyLength_faulty faulty) rest

theorem front_unfinished {bytes : List UInt8} (unfinished : Unfinished codec bytes) :
    front codec bytes = .incomplete := by
  cases unfinished with
  | header few => rw [front, if_pos few]
  | @body header rest four within few =>
      have size : codec.bodyLength header = .ok (Codec.littleEndian header) := by
        simp only [Codec.bodyLength]
        rw [if_neg (by omega), if_neg (by omega)]
      rw [front_sized four size, if_pos few]

/-- What may stand at the front of a stream. -/
inductive Fronts (codec : Codec) : List UInt8 → Prop
  | unfinished {bytes : List UInt8} (unfinished : Unfinished codec bytes) : Fronts codec bytes
  | faulty {header rest : List UInt8} {error : WireError} (faulty : Faulty codec header error) :
      Fronts codec (header ++ rest)
  | frame {header body rest : List UInt8} (framed : Framed codec header body) :
      Fronts codec (header ++ (body ++ rest))

theorem fronts (codec : Codec) (bytes : List UInt8) : Fronts codec bytes := by
  by_cases few : bytes.length < headerLength
  · exact .unfinished (.header few)
  · have four : (bytes.take headerLength).length = headerLength := by
      rw [List.length_take]
      omega
    rw [← List.take_append_drop headerLength bytes]
    generalize bytes.take headerLength = header at four
    generalize bytes.drop headerLength = rest
    by_cases nothing : Codec.littleEndian header = 0
    · exact .faulty (.zero four nothing)
    · by_cases beyond : codec.limit < Codec.littleEndian header
      · exact .faulty (.oversized four beyond)
      · by_cases short : rest.length < Codec.littleEndian header
        · exact .unfinished (.body four (by omega) short)
        · rw [← List.take_append_drop (Codec.littleEndian header) rest]
          have size : (rest.take (Codec.littleEndian header)).length =
              Codec.littleEndian header := by
            rw [List.length_take]
            omega
          refine .frame ⟨four, size.symm, ?_, by omega⟩
          intro empty
          rw [empty, List.length_nil] at size
          exact nothing size.symm

/-! ### Every stream has one cut -/

theorem framed_longer {header body : List UInt8} (framed : Framed codec header body)
    (rest : List UInt8) : rest.length < (header ++ (body ++ rest)).length := by
  have positive := List.length_pos_iff.mpr framed.positive
  simp only [List.length_append]
  omega

theorem cut_exists (codec : Codec) (stream : List UInt8) :
    ∃ bodies fault, Cut codec stream bodies fault := by
  cases fronts codec stream with
  | unfinished unfinished => exact ⟨[], none, .ended unfinished⟩
  | faulty faulty => exact ⟨[], _, .fault faulty⟩
  | @frame header body rest framed =>
      obtain ⟨bodies, fault, later⟩ := cut_exists codec rest
      exact ⟨body :: bodies, fault, .frame framed later⟩
termination_by stream.length
decreasing_by simpa using framed_longer framed rest

theorem cut_unique {stream : List UInt8} {bodies others : List (List UInt8)}
    {fault other : Option WireError} (cut : Cut codec stream bodies fault)
    (again : Cut codec stream others other) : others = bodies ∧ other = fault := by
  induction cut generalizing others other with
  | ended unfinished =>
      have front := front_unfinished unfinished
      cases again with
      | ended => exact ⟨rfl, rfl⟩
      | fault faulty => simp [front_faulty faulty] at front
      | frame framed later => simp [front_frame framed] at front
  | @fault header rest error faulty =>
      have front := front_faulty faulty rest
      generalize header ++ rest = stream at front again
      cases again with
      | ended unfinished => simp [front_unfinished unfinished] at front
      | fault same =>
          rw [front_faulty same] at front
          cases front
          exact ⟨rfl, rfl⟩
      | frame framed later => simp [front_frame framed] at front
  | @frame header body rest bodies fault framed later unique =>
      have front := front_frame framed rest
      generalize same : header ++ (body ++ rest) = stream at front again
      cases again with
      | ended unfinished => simp [front_unfinished unfinished] at front
      | fault faulty => simp [front_faulty faulty] at front
      | @frame header' body' rest' bodies' fault' framed' later' =>
          -- Equal headers announce bodies of equal length.
          obtain ⟨rfl, tails⟩ := List.append_inj same (framed.four.trans framed'.four.symm)
          obtain ⟨rfl, rfl⟩ := List.append_inj tails
            (framed.announced.symm.trans framed'.announced)
          obtain ⟨rfl, rfl⟩ := unique later'
          exact ⟨rfl, rfl⟩

/-! ### What is taken from a stream -/

/-- What a body amounts to. A goodbye amounts to nothing: it ends the reading. -/
def judge : Except WireError Packet → Option Received
  | .error error => some (refused error)
  | .ok .goodbye => none
  | .ok (.response answer) => some (.response answer)
  | .ok other => some (unexpected other)

/-- Whole frames, none of them a goodbye, are taken from the front of a stream. -/
inductive Took (codec : Codec) : List UInt8 → List Received → List UInt8 → Prop
  | done {rest : List UInt8} : Took codec rest [] rest
  | frame {header body stream rest : List UInt8} {item : Received} {items : List Received}
      (framed : Framed codec header body) (judged : judge (codec.decode body) = some item)
      (later : Took codec stream items rest) :
      Took codec (header ++ (body ++ stream)) (item :: items) rest

namespace Took

variable {stream middle rest : List UInt8} {items others : List Received}

theorem nothing (took : Took codec stream items rest) (none : items = []) : rest = stream := by
  cases took with
  | done => rfl
  | frame => cases none

/-- Bytes that arrive later do not change what was taken. -/
theorem append (took : Took codec stream items rest) (more : List UInt8) :
    Took codec (stream ++ more) items (rest ++ more) := by
  induction took with
  | done => exact .done
  | frame framed judged later later_append =>
      rw [List.append_assoc, List.append_assoc]
      exact .frame framed judged later_append

theorem trans (first : Took codec stream items middle) (last : Took codec middle others rest) :
    Took codec stream (items ++ others) rest := by
  induction first with
  | done => exact last
  | frame framed judged later later_trans => exact .frame framed judged (later_trans last)

end Took

/-- Where the reading stops. -/
inductive Stops (codec : Codec) : List UInt8 → Ending → Prop
  | pending {rest : List UInt8} (unfinished : Unfinished codec rest) :
      Stops codec rest (.pending rest)
  | goodbye {header body rest : List UInt8} (framed : Framed codec header body)
      (judged : judge (codec.decode body) = none) : Stops codec (header ++ (body ++ rest)) .goodbye
  | fault {header rest : List UInt8} {error : WireError} (faulty : Faulty codec header error) :
      Stops codec (header ++ rest) (.unsynchronized error)

theorem read_incomplete {stream : List UInt8} (found : front codec stream = .incomplete) :
    read codec stream = ⟨[], .pending stream⟩ := by
  rw [read]
  split <;> simp_all

theorem read_badLength {stream : List UInt8} {error : WireError}
    (found : front codec stream = .badLength error) :
    read codec stream = ⟨[], .unsynchronized error⟩ := by
  rw [read]
  split <;> simp_all

theorem read_frame {stream rest : List UInt8} {packet : Except WireError Packet}
    (found : front codec stream = .frame packet rest) :
    read codec stream =
      match judge packet with
      | some item => (read codec rest).after item
      | none => ⟨[], .goodbye⟩ := by
  rw [read]
  split <;> rename_i same <;> rw [found] at same <;> cases same
  cases packet with
  | error error => rfl
  | ok packet => cases packet <;> rfl

/-- The reader takes whole frames until it stops. -/
theorem read_took (codec : Codec) (stream : List UInt8) :
    ∃ rest, Took codec stream (read codec stream).received rest ∧
      Stops codec rest (read codec stream).ending := by
  cases fronts codec stream with
  | unfinished unfinished =>
      rw [read_incomplete (front_unfinished unfinished)]
      exact ⟨stream, .done, .pending unfinished⟩
  | @faulty header rest error faulty =>
      rw [read_badLength (front_faulty faulty rest)]
      exact ⟨_, .done, .fault faulty⟩
  | @frame header body rest framed =>
      obtain ⟨left, took, stops⟩ := read_took codec rest
      rw [read_frame (front_frame framed rest)]
      cases judged : judge (codec.decode body) with
      | none => exact ⟨_, .done, .goodbye framed judged⟩
      | some item => exact ⟨left, .frame framed judged took, stops⟩
termination_by stream.length
decreasing_by simpa using framed_longer framed rest

end Interception.Transport
