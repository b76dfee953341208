import Interception.Text.Blank

/-!
Operations seen at the interception boundary and sets of them. A set shows
as one signed line per operation, in the order of `Operation.all`.
-/

namespace Interception

inductive Operation
  | openFile
  | closeFile
  | execFile
  | mount
  | umount
  deriving DecidableEq, Repr

namespace Operation

def all : List Operation := [openFile, closeFile, execFile, mount, umount]

def name : Operation → String
  | openFile => "open"
  | closeFile => "close"
  | execFile => "exec"
  | mount => "mount"
  | umount => "umount"

def verb : Operation → String
  | openFile => "opening"
  | closeFile => "closing"
  | execFile => "executing"
  | mount => "mounting"
  | umount => "unmounting"

/-- Whether the operation concerns a file rather than a whole filesystem. -/
def onFile : Operation → Bool
  | openFile | closeFile | execFile => true
  | mount | umount => false

def bit : Operation → Nat
  | openFile => 0x01
  | closeFile => 0x02
  | execFile => 0x04
  | mount => 0x10
  | umount => 0x20

/-- The operation of exactly this name. -/
def named? (word : String) : Option Operation :=
  all.find? fun operation => operation.name = word

/-- The operation of this name, whatever the case of its letters. -/
def ofName? (word : String) : Option Operation :=
  named? (Text.lower word)

/-- What is said about a word that names no operation. -/
def refusal (word : String) : String :=
  "Invalid filesystem operation: " ++ word

end Operation

abbrev OperationSet := Operation → Bool

namespace OperationSet

def empty : OperationSet := fun _ => false

def put (ops : OperationSet) (operation : Operation) (member : Bool) : OperationSet :=
  fun other => if other = operation then member else ops other

def bits (ops : OperationSet) : Nat :=
  Operation.all.foldl (fun bits operation => if ops operation then bits + operation.bit else bits) 0

def lines (ops : OperationSet) : List String :=
  Operation.all.map fun operation => (if ops operation then "+" else "-") ++ operation.name

def render (ops : OperationSet) : String :=
  "\n".intercalate (lines ops)

end OperationSet

end Interception
