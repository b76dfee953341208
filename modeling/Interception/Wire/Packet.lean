import Interception.Text.Quoted
import Interception.Vetting.Request

/-!
Packets between a vetting server and its clients, and the text by which
messages show one that was not expected.
-/

namespace Interception.Wire

inductive Packet
  | register (name : String) (groups : UInt8)
  | registered (client : UInt32)
  | request (asked : Vetting.Request)
  | response (answer : Vetting.Response)
  | error (message : String)
  | goodbye
  deriving DecidableEq, Repr

/-- A record as shown: its name and its fields in order. -/
def shownRecord (name : String) (fields : List (String × String)) : String :=
  name ++ " \x7b " ++ ", ".intercalate (fields.map fun field => field.1 ++ ": " ++ field.2) ++
    " \x7d"

def shownOption (shown : Option String) : String :=
  match shown with
  | some text => "Some(" ++ text ++ ")"
  | none => "None"

def shownOperation : Operation → String
  | .openFile => "Open"
  | .closeFile => "Close"
  | .execFile => "Exec"
  | .mount => "Mount"
  | .umount => "Umount"

def shownPersonality (task : Personality) : String :=
  shownRecord "Personality" [("pid", toString task.pid), ("tid", toString task.tid),
    ("uid", toString task.uid), ("euid", toString task.euid), ("gid", toString task.gid),
    ("egid", toString task.egid), ("comm", Text.quoted task.comm)]

def shownRequest (request : Vetting.Request) : String :=
  shownRecord "VettingRequest" [("ticket_id", toString request.ticket),
    ("operation", shownOperation request.operation),
    ("path", shownOption (request.path.map Text.quoted)),
    ("fs_type", Text.quoted request.fsType), ("flags", toString request.flags),
    ("writable", toString request.writable), ("device", toString request.device),
    ("inode", toString request.inode), ("personality", shownPersonality request.personality)]

def shownResponse (response : Vetting.Response) : String :=
  shownRecord "VettingResponse" [("ticket_id", toString response.ticket),
    ("decision", response.decision.name),
    ("error_code", shownOption (response.code.map toString))]

def Packet.shown : Packet → String
  | register name groups =>
      shownRecord "Register" [("name", Text.quoted name), ("groups", toString groups)]
  | registered client => shownRecord "Registered" [("client_id", toString client)]
  | request asked => "Request(" ++ shownRequest asked ++ ")"
  | response answer => "Response(" ++ shownResponse answer ++ ")"
  | error message => shownRecord "Error" [("message", Text.quoted message)]
  | goodbye => "Goodbye"

end Interception.Wire
