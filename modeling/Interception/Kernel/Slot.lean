import Interception.Text.Number

/-!
Operation tables and the memory they live in. A table is known by its
number and name; a slot is one function pointer of a table. Six operations
can be hooked, and each hook has an address of its own that no native
function bears.
-/

namespace Interception

abbrev Addr := UInt64

namespace Addr

def null : Addr := 0

def render (addr : Addr) : String := Text.hex addr.toNat

end Addr

inductive Hook
  | openFile
  | release
  | lookup
  | create
  | atomicOpen
  | revalidate
  deriving DecidableEq, Repr

namespace Hook

def all : List Hook := [openFile, release, lookup, create, atomicOpen, revalidate]

def index : Hook → Nat
  | openFile => 0
  | release => 1
  | lookup => 2
  | create => 3
  | atomicOpen => 4
  | revalidate => 5

def base : Addr := 0xffffffffa0de0000

def addr (hook : Hook) : Addr :=
  base + UInt64.ofNat (hook.index * 0x10)

def ofAddr? (addr : Addr) : Option Hook :=
  all.find? fun hook => hook.addr = addr

/-- The slot a hook is put into. -/
def slotName : Hook → String
  | openFile => "open"
  | release => "release"
  | lookup => "lookup"
  | create => "create"
  | atomicOpen => "atomic_open"
  | revalidate => "d_revalidate"

def title : Hook → String
  | openFile => "Open"
  | release => "Release"
  | lookup => "Lookup"
  | create => "Create"
  | atomicOpen => "AtomicOpen"
  | revalidate => "Revalidate"

end Hook

/-- An address with the hook it belongs to, if any. -/
def Addr.describe (addr : Addr) : String :=
  match Hook.ofAddr? addr with
  | some hook => "FnAddr(" ++ addr.render ++ " = " ++ hook.title ++ " hook)"
  | none => "FnAddr(" ++ addr.render ++ ")"

structure Slot where
  table : Nat
  name : String
  hook : Hook
  deriving DecidableEq, Repr

structure FileTable where
  id : Nat
  name : String
  deriving DecidableEq, Repr

structure InodeTable where
  id : Nat
  name : String
  deriving DecidableEq, Repr

structure DentryTable where
  id : Nat
  name : String
  deriving DecidableEq, Repr

def FileTable.slot (table : FileTable) (hook : Hook) : Slot :=
  ⟨table.id, table.name, hook⟩

def InodeTable.slot (table : InodeTable) (hook : Hook) : Slot :=
  ⟨table.id, table.name, hook⟩

def DentryTable.slot (table : DentryTable) (hook : Hook) : Slot :=
  ⟨table.id, table.name, hook⟩

/-- Slot contents behind write protection. `depth` counts the nested regions
in which writing is allowed; a sealed memory lets nobody enter one. -/
structure Memory where
  content : Slot → Addr
  pokes : Nat
  depth : Nat
  isSealed : Bool

namespace Memory

def blank : Memory := ⟨fun _ => Addr.null, 0, 0, false⟩

def write (memory : Memory) (slot : Slot) (addr : Addr) : Memory :=
  { memory with content := fun other => if other = slot then addr else memory.content other }

/-- A counted write from inside an unprotected region. -/
def poke (memory : Memory) (slot : Slot) (addr : Addr) : Memory :=
  { memory.write slot addr with pokes := memory.pokes + 1 }

def unprotect (memory : Memory) : Memory := { memory with depth := memory.depth + 1 }

def protect (memory : Memory) : Memory := { memory with depth := memory.depth - 1 }

end Memory

end Interception
