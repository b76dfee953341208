/-!
Text as it is left when it is not written to a terminal: control sequences
are taken out, and so are control characters other than blanks. A sequence
that is not ended goes on to the next one.
-/

namespace Interception.Text

/-- What the characters so far have begun. -/
inductive ControlMode
  | plain
  | escape
  /-- An escape with further marks, ended by a letter or digit. -/
  | marked
  /-- Parameters up to a letter. -/
  | sequence
  /-- A text for the terminal, which a bell may end. -/
  | title
  /-- A text that only another sequence ends. -/
  | message
  deriving DecidableEq, Repr

namespace ControlMode

def isControl (c : Char) : Bool := c.toNat < 32 || c.toNat == 127

def isBlankControl (c : Char) : Bool :=
  c == '\t' || c == '\n' || c == '\x0c' || c == '\r'

/-- What follows an escape. -/
def ofEscape (c : Char) : ControlMode :=
  if c = '[' then sequence
  else if c = ']' then title
  else if c = 'P' ∨ c = 'X' ∨ c = '^' ∨ c = '_' then message
  else if c.toNat < 0x30 then marked
  else plain

/-- Where a character leads that does not begin or abandon a sequence, and
whether it is part of the text that is left. -/
def next (mode : ControlMode) (c : Char) : ControlMode × Bool :=
  let texts := mode == title || mode == message
  if isBlankControl c && !texts then (plain, true)
  else if mode = .plain then (plain, !isControl c)
  else if c = '\x07' ∧ mode = title then (plain, false)
  else if isControl c ∨ 127 < c.toNat ∨ texts then (mode, false)
  else if mode = escape then (ofEscape c, false)
  else if mode = marked then (if c.toNat < 0x30 then marked else plain, false)
  else (if c.toNat < 0x40 then sequence else plain, false)

def step (mode : ControlMode) (c : Char) : ControlMode × Bool :=
  if c = '\x1b' then (escape, false)
  else if c = '\x18' ∨ c = '\x1a' then (plain, false)
  else mode.next c

def strip : ControlMode → List Char → List Char
  | _, [] => []
  | mode, c :: rest =>
      let (later, kept) := mode.step c
      if kept then c :: strip later rest else strip later rest

end ControlMode

/-- The text without control sequences. -/
def withoutControls (text : String) : String :=
  String.ofList (ControlMode.plain.strip text.toList)

end Interception.Text
