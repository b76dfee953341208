/-!
White space and the cutting of text. Every reader of settings trims its
input the same way: by the characters Unicode calls white space, not by the
ASCII blanks alone. The list forms carry the work; the string forms wrap
them.
-/

namespace Interception.Text

def isBlank (c : Char) : Bool :=
  let code := c.toNat
  (9 ≤ code && code ≤ 13) || code == 0x20 || code == 0x85 || code == 0xa0 ||
    code == 0x1680 || (0x2000 ≤ code && code ≤ 0x200a) || code == 0x2028 ||
    code == 0x2029 || code == 0x202f || code == 0x205f || code == 0x3000

def dropEndWhile (drop : Char → Bool) (text : List Char) : List Char :=
  (text.reverse.dropWhile drop).reverse

def trimChars (text : List Char) : List Char :=
  dropEndWhile isBlank (text.dropWhile isBlank)

def trim (text : String) : String :=
  String.ofList (trimChars text.toList)

/-- The text between cuts. A cut character belongs to no piece, and there is
one piece more than there are cuts. -/
def pieces (cut : Char → Bool) : List Char → List (List Char)
  | [] => [[]]
  | c :: rest =>
      if cut c then [] :: pieces cut rest
      else match pieces cut rest with
        | [] => [[c]]
        | piece :: more => (c :: piece) :: more

/-- The trimmed pieces that are not blank. -/
def items (cut : Char → Bool) (text : String) : List String :=
  ((pieces cut text.toList).map trimChars |>.filter (!·.isEmpty)).map String.ofList

/-- What follows `lead`, when the text begins with it. -/
def afterLead : List Char → List Char → Option (List Char)
  | [], text => some text
  | _ :: _, [] => none
  | l :: lead, c :: text => if l = c then afterLead lead text else none

def after (lead text : String) : Option String :=
  (afterLead lead.toList text.toList).map String.ofList

/-- What precedes `tail`, when the text ends with it. -/
def before (tail text : String) : Option String :=
  (afterLead tail.toList.reverse text.toList.reverse).map fun rest =>
    String.ofList rest.reverse

/-- A letter in lower case, if that is an ASCII letter. The kelvin sign is the
only character outside ASCII that has one. -/
def lowerChar (c : Char) : Char :=
  if c.toNat = 0x212a then 'k' else c.toLower

/-- Text in lower case, as far as it matters for words of ASCII letters. -/
def lower (text : String) : String :=
  String.ofList (text.toList.map lowerChar)

end Interception.Text
