import Interception.Errno
import Interception.Event

/-!
What a vetting client is asked and what it answers.
-/

namespace Interception.Vetting

inductive Decision
  | allow
  | deny
  deriving DecidableEq, Repr

namespace Decision

def name : Decision → String
  | allow => "Allow"
  | deny => "Deny"

def ofWord? (word : String) : Option Decision :=
  let lowered := Text.lower word
  if lowered = "allow" then some allow
  else if lowered = "deny" then some deny
  else none

/-- What is said about a word that is no decision. -/
def refusal (word : String) : String :=
  "Invalid decision: " ++ word ++ " (expected allow or deny)"

end Decision

abbrev TicketId := UInt64

structure Request where
  ticket : TicketId
  operation : Operation
  path : Option String
  fsType : String
  flags : UInt64
  writable : Bool
  device : UInt64
  inode : UInt64
  personality : Personality
  deriving DecidableEq, Repr

structure Response where
  ticket : TicketId
  decision : Decision
  code : Option Int32
  deriving DecidableEq, Repr

/-- Only a positive error code of an answer counts. -/
def Response.errno (response : Response) : Option Errno :=
  (response.code.filter (· > 0)).map Errno.mk

/-- A mount point takes the place of the path, and what only a file has is
zero. -/
def Request.ofEvent (ticket : TicketId) (task : Personality) : Event → Request
  | .file info =>
      ⟨ticket, info.operation, info.path, info.fsType, info.flags.toUInt64, info.writable, info.device,
        info.inode, task⟩
  | .filesystem info =>
      ⟨ticket, info.operation, some info.mountPoint, info.fsType, info.flags, false, 0, 0, task⟩

end Interception.Vetting
