/-!
Text as bytes. The decoder stops at the first byte that cannot continue a
character and says where that character began and how many of its bytes were
good, or that the input ended inside it.
-/

namespace Interception.Wire

structure Utf8Error where
  position : Nat
  /-- Length of the rejected sequence, or nothing when the input ended. -/
  length : Option Nat
  deriving DecidableEq, Repr

def Utf8Error.message (error : Utf8Error) : String :=
  match error.length with
  | some length => "invalid utf-8 sequence of " ++ toString length ++ " bytes from index " ++
      toString error.position
  | none => "incomplete utf-8 byte sequence from index " ++ toString error.position

def utf8Bytes (text : String) : List UInt8 :=
  text.toList.flatMap String.utf8EncodeChar

def continues (byte : UInt8) : Bool :=
  0x80 ≤ byte && byte ≤ 0xbf

/-- Bytes that may follow the first one of a sequence. Shorter forms of the
same character, surrogates and code points past the last are excluded here. -/
def secondFits (first second : UInt8) : Bool :=
  if first == 0xe0 then 0xa0 ≤ second && second ≤ 0xbf
  else if first == 0xed then 0x80 ≤ second && second ≤ 0x9f
  else if first == 0xf0 then 0x90 ≤ second && second ≤ 0xbf
  else if first == 0xf4 then 0x80 ≤ second && second ≤ 0x8f
  else continues second

/-- Bytes of the sequence that this one begins, or zero. -/
def sequenceLength (first : UInt8) : Nat :=
  if first < 0x80 then 1
  else if 0xc2 ≤ first && first ≤ 0xdf then 2
  else if 0xe0 ≤ first && first ≤ 0xef then 3
  else if 0xf0 ≤ first && first ≤ 0xf4 then 4
  else 0

def low (byte : UInt8) : Nat := byte.toNat % 64

def decodeUtf8From (position : Nat) : List UInt8 → Except Utf8Error (List Char)
  | [] => .ok []
  | a :: rest =>
      match sequenceLength a with
      | 1 => (decodeUtf8From (position + 1) rest).map (Char.ofNat a.toNat :: ·)
      | 2 =>
          match rest with
          | [] => .error ⟨position, none⟩
          | b :: rest =>
              if secondFits a b then
                (decodeUtf8From (position + 2) rest).map
                  (Char.ofNat (a.toNat % 32 * 64 + low b) :: ·)
              else .error ⟨position, some 1⟩
      | 3 =>
          match rest with
          | [] => .error ⟨position, none⟩
          | b :: rest =>
              if secondFits a b then
                match rest with
                | [] => .error ⟨position, none⟩
                | c :: rest =>
                    if continues c then
                      (decodeUtf8From (position + 3) rest).map
                        (Char.ofNat (a.toNat % 16 * 4096 + low b * 64 + low c) :: ·)
                    else .error ⟨position, some 2⟩
              else .error ⟨position, some 1⟩
      | 4 =>
          match rest with
          | [] => .error ⟨position, none⟩
          | b :: rest =>
              if secondFits a b then
                match rest with
                | [] => .error ⟨position, none⟩
                | c :: rest =>
                    if continues c then
                      match rest with
                      | [] => .error ⟨position, none⟩
                      | d :: rest =>
                          if continues d then
                            (decodeUtf8From (position + 4) rest).map
                              (Char.ofNat (a.toNat % 8 * 262144 + low b * 4096 + low c * 64 +
                                low d) :: ·)
                          else .error ⟨position, some 3⟩
                    else .error ⟨position, some 2⟩
              else .error ⟨position, some 1⟩
      | _ => .error ⟨position, some 1⟩

def decodeUtf8 (bytes : List UInt8) : Except Utf8Error String :=
  (decodeUtf8From 0 bytes).map String.ofList

end Interception.Wire
