import Interception.Identifier
import Interception.Vetting.Groups

/-!
Registered vetting clients, in the order in which they came. Names are
unique; identifiers are drawn from a 32-bit counter.
-/

namespace Interception.Vetting

abbrev ClientId := UInt32

structure Client where
  id : ClientId
  name : String
  groups : GroupMask
  pid : Int32
  deriving DecidableEq, Repr

structure Clients where
  members : List Client
  nextId : ClientId

namespace Clients

def none : Clients := ⟨[], 1⟩

def get? (clients : Clients) (id : ClientId) : Option Client :=
  clients.members.find? (·.id == id)

def count (clients : Clients) : Nat :=
  clients.members.length

def serves (clients : Clients) (group : Nat) : Bool :=
  clients.members.any (·.groups.contains group)

def hasPid (clients : Clients) (pid : Int32) : Bool :=
  clients.members.any (·.pid == pid)

def groupCounts (clients : Clients) : List Nat :=
  (List.range groupCount).map fun group =>
    (clients.members.filter (·.groups.contains group)).length

/-- Admits a client under a new identifier unless its name is taken. -/
def register? (clients : Clients) (name : String) (groups : GroupMask) (pid : Int32) :
    Option (ClientId × Clients) :=
  if clients.members.any (·.name == name) then .none
  else
    let (id, nextId) := Identifier.allocate (clients.members.map (·.id)) clients.nextId
    some (id, ⟨clients.members ++ [⟨id, name, groups, pid⟩], nextId⟩)

def unregister (clients : Clients) (id : ClientId) : Clients :=
  { clients with members := clients.members.filter (·.id != id) }

def renderClient (client : Client) : String :=
  toString client.id ++ " " ++ client.name ++ " " ++ Text.hexByte client.groups.bits.toNat ++ " " ++
    toString client.pid

def render (clients : Clients) : String :=
  "\n".intercalate (clients.members.map renderClient)

def renderGroups (clients : Clients) : String :=
  "\n".intercalate (clients.groupCounts.zipIdx.map fun (count, group) =>
    toString group ++ " " ++ toString count)

end Clients

end Interception.Vetting
