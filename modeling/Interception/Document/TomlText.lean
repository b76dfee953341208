import Interception.Double.Basic
import Interception.Document.Basic
import Interception.Text.Hex

/-!
The pieces of TOML text: strings, names, numbers and the ends of lines. The
readers take what they need from the front of the text and return the rest.
-/

namespace Interception.Toml

abbrev Chars := List Char

/-- Writes the two characters that end a line as one. -/
def foldLineEnds : Chars → Chars
  | '\r' :: '\n' :: rest => '\n' :: foldLineEnds rest
  | c :: rest => c :: foldLineEnds rest
  | [] => []

def isInset (c : Char) : Bool := c == ' ' || c == '\t'

def skipInset (text : Chars) : Chars := text.dropWhile isInset

def inComment (c : Char) : Bool := c == '\t' || 32 ≤ c.toNat

/-- What follows the end of a line, with or without a comment. -/
def endLine (text : Chars) : Option Chars :=
  let rest :=
    match text with
    | '#' :: comment => comment.dropWhile inComment
    | _ => text
  match rest with
  | [] => some []
  | '\n' :: rest => some rest
  | _ => none

/-- Skips blanks, comments and the ends of lines. -/
def skipLines : Nat → Chars → Option Chars
  | 0, text => some text
  | fuel + 1, text =>
      match skipInset text with
      | '\n' :: rest => skipLines fuel rest
      | '#' :: rest => (endLine ('#' :: rest)).bind (skipLines fuel)
      | rest => some rest

/-- Skips whatever does not matter before the next item. -/
def skipToItem (text : Chars) : Option Chars := skipLines text.length text

/-! ### Strings -/

def inString (c : Char) : Bool := c == '\t' || (32 ≤ c.toNat && c.toNat != 127)

def hexNumber? (digits : Chars) : Option Nat :=
  digits.foldlM (fun value c => (Text.hexValue? c).map (value * 16 + ·)) 0

/-- A character by the digits of its code point. -/
def readCodePoint (count : Nat) (text : Chars) : Option (Chars × Chars) := do
  let code ← hexNumber? (text.take count)
  if count ≤ text.length ∧ code.isValidChar then
    return ([Char.ofNat code], text.drop count)
  else none

def isGap (c : Char) : Bool := isInset c || c == '\n'

/-- What a backslash stands for. At the end of a line in a long string it
joins the line with the next text. -/
def readEscape (triple : Bool) : Chars → Option (Chars × Chars)
  | '"' :: rest => some (['"'], rest)
  | '\\' :: rest => some (['\\'], rest)
  | 'b' :: rest => some (['\x08'], rest)
  | 'f' :: rest => some (['\x0c'], rest)
  | 'n' :: rest => some (['\n'], rest)
  | 'r' :: rest => some (['\r'], rest)
  | 't' :: rest => some (['\t'], rest)
  | 'u' :: rest => readCodePoint 4 rest
  | 'U' :: rest => readCodePoint 8 rest
  | text =>
      if triple then
        match skipInset text with
        | '\n' :: rest => some ([], rest.dropWhile isGap)
        | _ => none
      else none

/-- How many quotes beyond the closing ones belong to a long string. -/
def mostExtraQuotes : Nat := 2

/-- The text of a string up to its closing quote or quotes. -/
def readBody (quote : Char) (escapes triple : Bool) :
    Nat → Chars → Chars → Option (String × Chars)
  | 0, _, _ => none
  | fuel + 1, seen, text =>
      match text with
      | [] => none
      | c :: rest =>
          if c = quote then
            if triple then
              let more := (rest.takeWhile (· == quote)).length
              if more < 2 then
                readBody quote escapes triple fuel (List.replicate (more + 1) quote ++ seen)
                  (rest.drop more)
              else
                let extra := min mostExtraQuotes (more - 2)
                some (String.ofList (List.replicate extra quote ++ seen).reverse,
                  rest.drop (2 + extra))
            else some (String.ofList seen.reverse, rest)
          else if c = '\\' ∧ escapes then
            match readEscape triple rest with
            | some (chars, rest) => readBody quote escapes triple fuel (chars.reverse ++ seen) rest
            | none => none
          else if inString c ∨ (c = '\n' ∧ triple) then
            readBody quote escapes triple fuel (c :: seen) rest
          else none

structure Quoted where
  value : String
  triple : Bool
  rest : Chars

/-- A string after its first quote. The end of a line right after three quotes
does not count. -/
def readQuoted (quote : Char) (text : Chars) : Option Quoted :=
  let body (triple : Bool) (text : Chars) : Option Quoted :=
    (readBody quote (quote == '"') triple (text.length + 1) [] text).map fun (value, rest) =>
      ⟨value, triple, rest⟩
  match text with
  | first :: second :: rest =>
      if first = quote ∧ second = quote then
        match rest with
        | '\n' :: rest => body true rest
        | _ => body true rest
      else if first = quote then some ⟨"", false, second :: rest⟩
      else body false text
  | [first] => if first = quote then some ⟨"", false, []⟩ else none
  | [] => none

/-! ### Names -/

def isBare (c : Char) : Bool :=
  ('a' ≤ c && c ≤ 'z') || ('A' ≤ c && c ≤ 'Z') || ('0' ≤ c && c ≤ '9') || c == '_' || c == '-'

/-- A bare word, if there is one. -/
def readWord (text : Chars) : Option (Chars × Chars) :=
  match text.takeWhile isBare with
  | [] => none
  | word => some (word, text.dropWhile isBare)

def readQuotedName (quote : Char) (text : Chars) : Option (String × Chars) := do
  let found ← readQuoted quote text
  if found.triple then none else return (found.value, found.rest)

def readName : Chars → Option (String × Chars)
  | '"' :: rest => readQuotedName '"' rest
  | '\'' :: rest => readQuotedName '\'' rest
  | text => (readWord text).map fun (word, rest) => (String.ofList word, rest)

/-- Names with dots between them, and the blanks around each. -/
def readPath : Nat → Chars → Option (List String × Chars)
  | 0, _ => none
  | fuel + 1, text => do
      let (name, rest) ← readName (skipInset text)
      match skipInset rest with
      | '.' :: rest =>
          let (names, rest) ← readPath fuel rest
          return (name :: names, rest)
      | rest => return ([name], rest)

/-! ### Numbers -/

def digitOf? (radix : Nat) (c : Char) : Option Nat :=
  (Text.hexValue? c).filter (· < radix)

def valueOf (radix : Nat) (digits : Chars) : Nat :=
  digits.foldl (fun value c => value * radix + (digitOf? radix c).getD 0) 0

/-- The digits at the front of a word, which may have single underscores
between them, and what follows them. A zero may lead others only where that
is allowed. -/
def readDigits (radix : Nat) (zeros : Bool) :
    Bool → Bool → Bool → Chars → Option (Chars × Chars)
  | first, _, underscore, [] => if first || underscore then none else some ([], [])
  | first, zero, underscore, c :: rest =>
      if (digitOf? radix c).isSome then
        if !first && zero && !zeros then none
        else
          (readDigits radix zeros false (if first then c == '0' else zero) false rest).map
            fun (digits, rest) => (c :: digits, rest)
      else if c = '_' ∧ (first ∨ !underscore) then
        if first then none else readDigits radix zeros false zero true rest
      else if first || underscore then none
      else some ([], c :: rest)

def digitsOf (radix : Nat) (zeros : Bool) (word : Chars) : Option (Chars × Chars) :=
  readDigits radix zeros true false false word

/-- Digits behind a sign, if there is one. -/
def signedDigitsOf (zeros : Bool) : Chars → Option (Bool × Chars × Chars)
  | '-' :: word => (digitsOf 10 zeros word).map (true, ·)
  | word => (digitsOf 10 zeros word).map (false, ·)

def largest : Nat := 9223372036854775807

def readRadix (radix : Nat) (word : Chars) : Option Document :=
  match digitsOf radix true word with
  | some (digits, []) =>
      let value := valueOf radix digits
      if value ≤ largest then some (.integer value) else none
  | _ => none

def readInteger (word : Chars) : Option Document :=
  match signedDigitsOf false word with
  | some (negative, digits, []) =>
      let value := valueOf 10 digits
      if negative then if value ≤ largest + 1 then some (.integer (-value)) else none
      else if value ≤ largest then some (.integer value)
      else none
  | _ => none

/-- The exponent at the end of a real number. Its plus sign stands between two
words. -/
def readExponent (rest : Chars) : Chars → Option (Int × Chars)
  | [] => some (0, rest)
  | [mark] =>
      if mark = 'e' ∨ mark = 'E' then
        let rest :=
          match rest with
          | '+' :: rest => rest
          | _ => rest
        match readWord rest with
        | some (word, rest) =>
            match digitsOf 10 true word with
            | some (digits, []) => some (valueOf 10 digits, rest)
            | _ => none
        | none => none
      else none
  | mark :: word =>
      if mark = 'e' ∨ mark = 'E' then
        match signedDigitsOf true word with
        | some (negative, digits, []) =>
            let value : Int := valueOf 10 digits
            some (if negative then -value else value, rest)
        | _ => none
      else none

/-- A real number of a word and perhaps another one behind a point. -/
def readReal (word : Chars) (fraction : Option Chars) (rest : Chars) :
    Option (Document × Chars) := do
  let (negative, whole, left) ← signedDigitsOf false word
  let (places, tail) ←
    match fraction with
    | none => some ([], left)
    | some fraction => if left.isEmpty then digitsOf 10 true fraction else none
  let (exponent, rest) ← readExponent rest tail
  let size ← Magnitude.ofDecimal (valueOf 10 (whole ++ places)) (exponent - places.length)
  return (.real (.finite negative size), rest)

def realNames : List (String × Double) := [
  ("inf", .infinite false), ("-inf", .infinite true), ("nan", .undefined), ("-nan", .undefined)]

/-- The number that a word begins. -/
def readNumber (word rest : Chars) : Option (Document × Chars) :=
  match word, rest with
  | '0' :: 'x' :: digits, _ => (readRadix 16 digits).map (·, rest)
  | '0' :: 'o' :: digits, _ => (readRadix 8 digits).map (·, rest)
  | '0' :: 'b' :: digits, _ => (readRadix 2 digits).map (·, rest)
  | _, _ =>
      if word.contains 'e' || word.contains 'E' then readReal word none rest
      else
        match rest with
        | '.' :: later => (readWord later).bind fun (fraction, rest) =>
            readReal word (some fraction) rest
        | _ =>
            match realNames.lookup (String.ofList word) with
            | some value => some (.real value, rest)
            | none => (readInteger word).map (·, rest)

end Interception.Toml
