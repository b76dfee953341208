import Interception.Document.Fields
import Interception.Report
import Interception.Wire.Packet

/-!
Documents of what passes between the parties: reports, events, requests,
responses and packets. A reader fills in what is left out.
-/

namespace Interception

def signedDocument (value : Int32) : Document :=
  .integer value.toInt

namespace Report

def document (report : Report) : Document := .table [
  ("action", report.action.name),
  ("code", .ofOption (fun code => signedDocument code.code) report.code),
  ("vetted", report.vetted), ("timeouts", report.timeouts)]

end Report

def errnoOf? (document : Document) : Option Errno :=
  (document.integer? "code").map fun code => ⟨Int32.ofInt code⟩

def actionOf (document : Document) : Action :=
  (Action.ofName? (document.textAt "action")).getD .next

/-- A report that has recorded its timeouts and was then concluded. -/
def Report.ofDocument (document : Document) : Report :=
  let timed := Report.fresh.recordTimeouts (document.countOr 0 "timeouts")
  (timed.conclude (actionOf document) (errnoOf? document)).setVetted
    (document.flagOr false "vetted")

namespace Personality

def document (task : Personality) : Document := .table [
  ("pid", signedDocument task.pid), ("tid", signedDocument task.tid),
  ("uid", task.uid.toNat), ("euid", task.euid.toNat), ("gid", task.gid.toNat),
  ("egid", task.egid.toNat), ("comm", task.comm)]

/-- A task by default has process 100 and one thread of the same number. -/
def ofDocument (document : Document) : Personality :=
  let pid := document.integerOr 100 "pid"
  let number (name : String) : UInt32 := UInt32.ofNat (document.countOr 0 name)
  ⟨Int32.ofInt pid, Int32.ofInt (document.integerOr pid "tid"), number "uid", number "euid",
    number "gid", number "egid", document.textOr "test" "comm"⟩

end Personality

def word64 (document : Document) (name : String) : UInt64 :=
  UInt64.ofNat (document.countOr 0 name)

namespace Event

def ofDocument (document : Document) : Event :=
  let operation := (Operation.ofName? (document.textAt "operation")).getD .openFile
  if document.textAt "kind" = "fs" then
    .filesystem ⟨operation, document.textAt "device_name", document.textAt "mount_point",
      document.textAt "fs_type", word64 document "flags", document.countOr 1 "propagation_count"⟩
  else
    let flags := UInt32.ofNat (document.countOr 0 "flags")
    .file ⟨operation, document.text? "path", flags,
      document.flagOr (writableFlags flags) "writable", word64 document "device",
      word64 document "inode", document.textAt "fs_type"⟩

end Event

namespace Vetting

namespace Request

def document (request : Request) : Document := .table [
  ("ticket_id", request.ticket.toNat), ("operation", Wire.shownOperation request.operation),
  ("path", .ofOption .text request.path), ("fs_type", request.fsType),
  ("flags", request.flags.toNat), ("writable", request.writable),
  ("device", request.device.toNat), ("inode", request.inode.toNat),
  ("personality", request.personality.document)]

def ofDocument (document : Document) : Request :=
  let shown := document.textAt "operation"
  ⟨word64 document "ticket_id",
    (Operation.all.find? (Wire.shownOperation · == shown)).getD .openFile,
    document.text? "path", document.textAt "fs_type", word64 document "flags",
    document.flagOr false "writable", word64 document "device", word64 document "inode",
    Personality.ofDocument (document.tableAt "personality")⟩

end Request

def decisionOf (document : Document) (name : String) : Decision :=
  (Decision.ofWord? (document.textAt name)).getD .allow

namespace Response

def document (response : Response) : Document := .table [
  ("ticket_id", response.ticket.toNat), ("decision", response.decision.name),
  ("error_code", .ofOption signedDocument response.code)]

def ofDocument (document : Document) : Response :=
  ⟨word64 document "ticket_id", decisionOf document "decision",
    (document.integer? "error_code").map Int32.ofInt⟩

end Response

end Vetting

namespace Wire.Packet

def document : Packet → Document
  | register name groups =>
      .table [("Register", .table [("name", name), ("groups", groups.toNat)])]
  | registered client => .table [("Registered", .table [("client_id", client.toNat)])]
  | request asked => .table [("Request", asked.document)]
  | response answer => .table [("Response", answer.document)]
  | error message => .table [("Error", .table [("message", message)])]
  | goodbye => "Goodbye"

def ofDocument : Document → Packet
  | .table [("Register", fields)] =>
      register (fields.textAt "name") (UInt8.ofNat (fields.countOr 0 "groups"))
  | .table [("Registered", fields)] => registered (UInt32.ofNat (fields.countOr 0 "client_id"))
  | .table [("Request", fields)] => request (Vetting.Request.ofDocument fields)
  | .table [("Response", fields)] => response (Vetting.Response.ofDocument fields)
  | .table [("Error", fields)] => error (fields.textAt "message")
  | _ => goodbye

end Wire.Packet

end Interception
