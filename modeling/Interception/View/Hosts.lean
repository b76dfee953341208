import Interception.Document.Basic
import Interception.Host.State
import Interception.Settings
import Interception.View.Messages

/-!
Documents of what a host holds: its mounts and files, the patched
filesystems, settings and the audit trail.
-/

namespace Interception

def Setting.document (setting : Setting) : Document :=
  .list [setting.key, setting.value, setting.locked]

def AuditField.document : AuditField → Document
  | text value => value
  | number value => .integer value
  | flag value => value

def AuditRecord.document (record : AuditRecord) : Document :=
  .table (("level", record.level) ::
    record.fields.map fun (name, field) => (name, field.document))

/-- The records of each thread in the order they were written. -/
def trailDocument (trail : List (String × AuditRecord)) : Document :=
  let ordered := trail.reverse
  let origins := ordered.foldl (fun seen entry =>
    if seen.contains entry.1 then seen else seen ++ [entry.1]) []
  .table (origins.map fun origin =>
    (origin, .list ((ordered.filter (·.1 == origin)).map (·.2.document))))

def Inode.document (inode : Inode) : Document := .table [
  ("ino", inode.ino), ("dev", inode.dev), ("regular", inode.regular), ("fs_type", inode.fsType)]

def MountPoint.document (point : MountPoint) : Document := .list [
  point.device, point.path, point.fsType, point.flags.toNat, point.propagation.toNat, point.root.ino]

namespace Patch

def Saved.document (saved : Saved) : Document := .table [
  ("f_ops", .ofOption (fun table => .text table.name) saved.fOps),
  ("i_ops", .ofOption (fun table => .text table.name) saved.iOps),
  ("d_ops", .ofOption (fun table => .text table.name) saved.dOps),
  ("open", saved.openFile.render), ("release", saved.release.render),
  ("lookup", saved.lookup.render), ("create", saved.create.render),
  ("atomic_open", saved.atomicOpen.render), ("revalidate", saved.revalidate.render),
  ("lookup_create_hooked", saved.lookupHooked), ("kind", saved.kind.letter)]

def Entry.document (entry : Entry) : Document := .table [
  ("fs_type", entry.fsType), ("hook_dops", entry.hookDentries), ("use_count", entry.uses.toNat),
  ("in_flight", entry.inFlight), ("state", entry.state.title), ("ops", entry.saved.document)]

def MountOutcome.document : MountOutcome → Document
  | installed pokes => .table [("installed", pokes)]
  | existing uses pokes => .table [("existing", uses), ("pokes", pokes)]

def ReleaseOutcome.document : ReleaseOutcome → Document
  | notTracked => "not_tracked"
  | released remaining => .table [("remaining", remaining)]
  | restored => "restored"

def Table.document (table : Table) : Document :=
  .list (table.entries.map fun entry => .list [entry.line, entry.state.title, entry.inFlight])

/-- An entry that is still in the table. -/
def Table.entryDocument (table : Table) (id : Option Nat) : Document :=
  .ofOption Entry.document (id.bind table.byId?)

def Table.InodeMatch.document (table : Table) (found : InodeMatch) : Document := .table [
  ("patch", table.entryDocument found.entry), ("lookup", found.lookup.render),
  ("create", found.create.render), ("atomic_open", found.atomicOpen.render)]

def Table.DentryMatch.document (table : Table) (found : DentryMatch) : Document := .table [
  ("patch", table.entryDocument found.entry), ("revalidate", found.revalidate.render)]

end Patch

namespace Host

def serviceDocument (host : Host) : Document := .table [
  ("active", host.active), ("tickets", host.vetting.board.live.length),
  ("clients", host.vetting.clients.count), ("degraded", host.degraded.active),
  ("timeouts", host.degraded.count), ("logged", host.log.logged)]

/-- What a host shows of itself. Without a service there is only the patch
table over its kernel. -/
def document (host : Host) (service : Bool) : Document :=
  .table ([("patches", host.table.document),
    ("calls", .list (host.kernel.calls.toList.map Document.count)),
    ("pokes", (host.kernel.memory.pokes : Document))] ++
    if service then [("svc", host.serviceDocument)] else [])

end Host

def Scripted.document (filter : Scripted) : Document := .list [
  filter.name, filter.seen, .list (filter.concluded.map (.ofOption .text))]

end Interception
