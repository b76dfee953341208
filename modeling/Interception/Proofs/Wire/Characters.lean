import Interception.Wire.Utf8
import Mathlib.Data.List.Basic

/-!
Texts and their bytes. Reading bytes as a text succeeds on the bytes of a text
and on nothing else: the bounds on the second byte leave one sequence for each
character. Sequences are compared by the numbers of their bytes.
-/

namespace Interception.Wire

theorem continues_iff (byte : UInt8) :
    continues byte = true ↔ 128 ≤ byte.toNat ∧ byte.toNat < 192 := by
  simp only [continues, Bool.and_eq_true, decide_eq_true_eq, UInt8.le_iff_toNat_le,
    UInt8.reduceToNat]
  omega

theorem secondFits_iff (first second : UInt8) :
    secondFits first second = true ↔
      128 ≤ second.toNat ∧ second.toNat < 192 ∧
      (first.toNat = 0xe0 → 0xa0 ≤ second.toNat) ∧ (first.toNat = 0xed → second.toNat < 0xa0) ∧
      (first.toNat = 0xf0 → 0x90 ≤ second.toNat) ∧ (first.toNat = 0xf4 → second.toNat < 0x90) := by
  simp only [secondFits, beq_iff_eq, ← UInt8.toNat_inj, UInt8.reduceToNat]
  split
  · simp [UInt8.le_iff_toNat_le]; omega
  split
  · simp [UInt8.le_iff_toNat_le]; omega
  split
  · simp [UInt8.le_iff_toNat_le]; omega
  split
  · simp [UInt8.le_iff_toNat_le]; omega
  · rw [continues_iff]; omega

/-- First bytes by the length of the sequence they begin. -/
theorem sequenceLength_cases (first : UInt8) :
    sequenceLength first = 1 ∧ first.toNat < 0x80 ∨
    sequenceLength first = 2 ∧ 0xc2 ≤ first.toNat ∧ first.toNat < 0xe0 ∨
    sequenceLength first = 3 ∧ 0xe0 ≤ first.toNat ∧ first.toNat < 0xf0 ∨
    sequenceLength first = 4 ∧ 0xf0 ≤ first.toNat ∧ first.toNat < 0xf5 ∨
    sequenceLength first = 0 ∧ 0x80 ≤ first.toNat ∧
      (first.toNat < 0xc2 ∨ 0xf5 ≤ first.toNat) := by
  simp only [sequenceLength, UInt8.le_iff_toNat_le, UInt8.lt_iff_toNat_lt, UInt8.reduceToNat,
    Bool.and_eq_true, decide_eq_true_eq]
  split_ifs <;> omega

theorem low_split (byte : UInt8) (follows : 128 ≤ byte.toNat ∧ byte.toNat < 192) :
    byte.toNat = low byte + 128 ∧ low byte < 64 := by
  unfold low
  omega

/-! ### One character -/

theorem number_of_ofNat (number : Nat)
    (valid : number < 0xd800 ∨ 0xdfff < number ∧ number < 0x110000) :
    (Char.ofNat number).val.toNat = number := by
  have valid : number.isValidChar := valid
  rw [Char.ofNat, dif_pos valid]
  rfl

theorem byte_eq (byte : UInt8) {number : Nat} (same : number = byte.toNat) :
    UInt8.ofNat number = byte := by
  rw [same, UInt8.ofNat_toNat]

theorem encode_one {a : UInt8} (single : sequenceLength a = 1) :
    String.utf8EncodeChar (Char.ofNat a.toNat) = [a] := by
  have range := sequenceLength_cases a
  have number := number_of_ofNat a.toNat (by omega)
  rw [String.utf8EncodeChar, number, if_pos (by omega), UInt8.ofNat_toNat]

theorem encode_two {a b : UInt8} (double : sequenceLength a = 2) (fits : secondFits a b) :
    String.utf8EncodeChar (Char.ofNat (a.toNat % 32 * 64 + low b)) = [a, b] := by
  have range := sequenceLength_cases a
  rw [secondFits_iff] at fits
  have second := low_split b ⟨fits.1, fits.2.1⟩
  have number := number_of_ofNat (a.toNat % 32 * 64 + low b) (by omega)
  -- An overlong form would take the branch for one byte; the range excludes it.
  rw [String.utf8EncodeChar, number, if_neg (by omega), if_pos (by omega),
    byte_eq a (by omega), byte_eq b (by omega)]

theorem encode_three {a b c : UInt8} (triple : sequenceLength a = 3) (fits : secondFits a b)
    (last : continues c) :
    String.utf8EncodeChar (Char.ofNat (a.toNat % 16 * 4096 + low b * 64 + low c)) =
      [a, b, c] := by
  have range := sequenceLength_cases a
  rw [secondFits_iff] at fits
  have second := low_split b ⟨fits.1, fits.2.1⟩
  have third := low_split c ((continues_iff c).mp last)
  have number := number_of_ofNat (a.toNat % 16 * 4096 + low b * 64 + low c) (by omega)
  rw [String.utf8EncodeChar, number, if_neg (by omega), if_neg (by omega), if_pos (by omega),
    byte_eq a (by omega), byte_eq b (by omega),
    byte_eq c (by omega)]

theorem encode_four {a b c d : UInt8} (quadruple : sequenceLength a = 4) (fits : secondFits a b)
    (third : continues c) (last : continues d) :
    String.utf8EncodeChar
      (Char.ofNat (a.toNat % 8 * 262144 + low b * 4096 + low c * 64 + low d)) = [a, b, c, d] := by
  have range := sequenceLength_cases a
  rw [secondFits_iff] at fits
  have second := low_split b ⟨fits.1, fits.2.1⟩
  have third := low_split c ((continues_iff c).mp third)
  have fourth := low_split d ((continues_iff d).mp last)
  have number := number_of_ofNat (a.toNat % 8 * 262144 + low b * 4096 + low c * 64 + low d)
    (by omega)
  rw [String.utf8EncodeChar, number, if_neg (by omega), if_neg (by omega), if_neg (by omega),
    byte_eq a (by omega), byte_eq b (by omega),
    byte_eq c (by omega), byte_eq d (by omega)]

theorem decode_one {a : UInt8} (single : sequenceLength a = 1) (position : Nat)
    (rest : List UInt8) :
    decodeUtf8From position (a :: rest) =
      (decodeUtf8From (position + 1) rest).map (Char.ofNat a.toNat :: ·) := by
  rw [decodeUtf8From.eq_def]
  simp [single]

theorem decode_two {a b : UInt8} (double : sequenceLength a = 2) (fits : secondFits a b)
    (position : Nat) (rest : List UInt8) :
    decodeUtf8From position (a :: b :: rest) =
      (decodeUtf8From (position + 2) rest).map
        (Char.ofNat (a.toNat % 32 * 64 + low b) :: ·) := by
  rw [decodeUtf8From.eq_def]
  simp [double, fits]

theorem decode_three {a b c : UInt8} (triple : sequenceLength a = 3) (fits : secondFits a b)
    (last : continues c) (position : Nat) (rest : List UInt8) :
    decodeUtf8From position (a :: b :: c :: rest) =
      (decodeUtf8From (position + 3) rest).map
        (Char.ofNat (a.toNat % 16 * 4096 + low b * 64 + low c) :: ·) := by
  rw [decodeUtf8From.eq_def]
  simp [triple, fits, last]

theorem decode_four {a b c d : UInt8} (quadruple : sequenceLength a = 4) (fits : secondFits a b)
    (third : continues c) (last : continues d) (position : Nat) (rest : List UInt8) :
    decodeUtf8From position (a :: b :: c :: d :: rest) =
      (decodeUtf8From (position + 4) rest).map
        (Char.ofNat (a.toNat % 8 * 262144 + low b * 4096 + low c * 64 + low d) :: ·) := by
  rw [decodeUtf8From.eq_def]
  simp [quadruple, fits, third, last]

theorem byte_number {byte : UInt8} {number : Nat} (made : UInt8.ofNat number = byte)
    (small : number < 256) : byte.toNat = number := by
  rw [← made, UInt8.toNat_ofNat']
  exact Nat.mod_eq_of_lt small

theorem read_one {number : Nat} (small : number < 0x80) (position : Nat) (rest : List UInt8) :
    decodeUtf8From position (UInt8.ofNat number :: rest) =
      (decodeUtf8From (position + 1) rest).map (Char.ofNat number :: ·) := by
  generalize first : UInt8.ofNat number = a
  replace first := byte_number first (by omega)
  have range := sequenceLength_cases a
  rw [decode_one (by omega), first]

theorem read_two {number : Nat} (range : 0x80 ≤ number ∧ number < 0x800) (position : Nat)
    (rest : List UInt8) :
    decodeUtf8From position
        (UInt8.ofNat (number / 64 % 32 + 192) :: UInt8.ofNat (number % 64 + 128) :: rest) =
      (decodeUtf8From (position + 2) rest).map (Char.ofNat number :: ·) := by
  generalize first : UInt8.ofNat (number / 64 % 32 + 192) = a
  generalize second : UInt8.ofNat (number % 64 + 128) = b
  replace first := byte_number first (by omega)
  replace second := byte_number second (by omega)
  have double := sequenceLength_cases a
  have lower := low_split b (by omega)
  have fits : secondFits a b := by rw [secondFits_iff]; omega
  rw [decode_two (by omega) fits, show a.toNat % 32 * 64 + low b = number by omega]

theorem read_three {number : Nat} (range : 0x800 ≤ number ∧ number < 0x10000)
    (valid : number < 0xd800 ∨ 0xdfff < number) (position : Nat) (rest : List UInt8) :
    decodeUtf8From position
        (UInt8.ofNat (number / 4096 % 16 + 224) :: UInt8.ofNat (number / 64 % 64 + 128) ::
          UInt8.ofNat (number % 64 + 128) :: rest) =
      (decodeUtf8From (position + 3) rest).map (Char.ofNat number :: ·) := by
  generalize first : UInt8.ofNat (number / 4096 % 16 + 224) = a
  generalize second : UInt8.ofNat (number / 64 % 64 + 128) = b
  generalize third : UInt8.ofNat (number % 64 + 128) = c
  replace first := byte_number first (by omega)
  replace second := byte_number second (by omega)
  replace third := byte_number third (by omega)
  have triple := sequenceLength_cases a
  have lowSecond := low_split b (by omega)
  have lowThird := low_split c (by omega)
  -- The gap of the surrogates is the bound on what follows 0xed.
  have fits : secondFits a b := by rw [secondFits_iff]; omega
  have last : continues c := by rw [continues_iff]; omega
  rw [decode_three (by omega) fits last,
    show a.toNat % 16 * 4096 + low b * 64 + low c = number by omega]

theorem read_four {number : Nat} (range : 0x10000 ≤ number ∧ number < 0x110000) (position : Nat)
    (rest : List UInt8) :
    decodeUtf8From position
        (UInt8.ofNat (number / 262144 % 8 + 240) :: UInt8.ofNat (number / 4096 % 64 + 128) ::
          UInt8.ofNat (number / 64 % 64 + 128) :: UInt8.ofNat (number % 64 + 128) :: rest) =
      (decodeUtf8From (position + 4) rest).map (Char.ofNat number :: ·) := by
  generalize first : UInt8.ofNat (number / 262144 % 8 + 240) = a
  generalize second : UInt8.ofNat (number / 4096 % 64 + 128) = b
  generalize third : UInt8.ofNat (number / 64 % 64 + 128) = c
  generalize fourth : UInt8.ofNat (number % 64 + 128) = d
  replace first := byte_number first (by omega)
  replace second := byte_number second (by omega)
  replace third := byte_number third (by omega)
  replace fourth := byte_number fourth (by omega)
  have quadruple := sequenceLength_cases a
  have lowSecond := low_split b (by omega)
  have lowThird := low_split c (by omega)
  have lowFourth := low_split d (by omega)
  have fits : secondFits a b := by rw [secondFits_iff]; omega
  have middle : continues c := by rw [continues_iff]; omega
  have last : continues d := by rw [continues_iff]; omega
  rw [decode_four (by omega) fits middle last,
    show a.toNat % 8 * 262144 + low b * 4096 + low c * 64 + low d = number by omega]

/-- The sequence of a character is read back as that character, whatever follows. -/
theorem decode_character (position : Nat) (character : Char) (rest : List UInt8) :
    ∃ next, decodeUtf8From position (String.utf8EncodeChar character ++ rest) =
      (decodeUtf8From next rest).map (character :: ·) := by
  have valid : character.val.toNat < 0xd800 ∨
      0xdfff < character.val.toNat ∧ character.val.toNat < 0x110000 := character.valid
  have whole : Char.ofNat character.val.toNat = character := Char.ofNat_toNat character
  simp only [String.utf8EncodeChar]
  generalize character.val.toNat = number at valid whole
  subst whole
  split_ifs
  · exact ⟨_, read_one (by omega) position rest⟩
  · exact ⟨_, read_two (by omega) position rest⟩
  · exact ⟨_, read_three (by omega) (by omega) position rest⟩
  · exact ⟨_, read_four (by omega) position rest⟩

/-! ### Texts -/

theorem map_ok {Problem Before After : Type} {result : Except Problem Before}
    {convert : Before → After} {value : After} (read : result.map convert = .ok value) :
    ∃ before, result = .ok before ∧ convert before = value := by
  cases result with
  | error problem => cases read
  | ok before => exact ⟨before, rfl, Except.ok.inj read⟩

theorem decodeUtf8From_sound {position : Nat} {bytes : List UInt8} {characters : List Char}
    (read : decodeUtf8From position bytes = .ok characters) :
    bytes = characters.flatMap String.utf8EncodeChar := by
  fun_induction decodeUtf8From position bytes generalizing characters
  case case1 =>
    cases read
    rfl
  case case2 position a rest single ih =>
    obtain ⟨tail, inner, rfl⟩ := map_ok read
    rw [List.flatMap_cons, encode_one single, ← ih inner, List.singleton_append]
  case case4 position a double b rest fits ih =>
    obtain ⟨tail, inner, rfl⟩ := map_ok read
    rw [List.flatMap_cons, encode_two double fits, ← ih inner]
    rfl
  case case8 position a triple b fits c rest last ih =>
    obtain ⟨tail, inner, rfl⟩ := map_ok read
    rw [List.flatMap_cons, encode_three triple fits last, ← ih inner]
    rfl
  case case14 position a quadruple b fits c third d rest last ih =>
    obtain ⟨tail, inner, rfl⟩ := map_ok read
    rw [List.flatMap_cons, encode_four quadruple fits third last, ← ih inner]
    rfl
  -- what is left was rejected
  all_goals cases read

theorem decodeUtf8From_complete (position : Nat) (characters : List Char) :
    decodeUtf8From position (characters.flatMap String.utf8EncodeChar) = .ok characters := by
  induction characters generalizing position with
  | nil => rfl
  | cons character rest ih =>
      obtain ⟨next, read⟩ := decode_character position character
        (rest.flatMap String.utf8EncodeChar)
      rw [List.flatMap_cons, read, ih next]
      rfl

theorem decodeUtf8_ok_iff (bytes : List UInt8) (text : String) :
    decodeUtf8 bytes = .ok text ↔ bytes = utf8Bytes text := by
  constructor
  · intro read
    obtain ⟨characters, inner, rfl⟩ := map_ok read
    rw [utf8Bytes, String.toList_ofList]
    exact decodeUtf8From_sound inner
  · rintro rfl
    rw [decodeUtf8, utf8Bytes, decodeUtf8From_complete]
    exact congrArg Except.ok String.ofList_toList

end Interception.Wire
