import Interception.Kernel.Slot
import Interception.NameSet
import Interception.Vetting.Groups
import Interception.View.Messages

/-!
Documents of single values: names and the numbers behind them, sets, rules
and addresses.
-/

namespace Interception

def Errno.document (errno : Errno) : Document := .table [
  ("display", errno.render), ("name", .ofOption .text errno.name?),
  ("code", signedDocument errno.code)]

def Action.document (action : Action) : Document := .table [
  ("text", action.name), ("terminal", action.terminal)]

def Operation.document (operation : Operation) : Document := .table [
  ("text", operation.name), ("verb", operation.verb), ("file", operation.onFile),
  ("mask", operation.bit)]

def OperationSet.document (ops : OperationSet) : Document := .table [
  ("bits", ops.bits), ("text", ops.render)]

/-- What an event says of itself, and the request it becomes. -/
def Event.document (event : Event) (request : Vetting.Request) : Document := .table [
  ("operation", event.operation.name), ("fs_type", event.fsType),
  ("subject", .ofOption .text event.subject), ("request", request.document)]

def NameSet.document (names : NameSet) : Document := .table [
  ("text", names.render), ("names", .texts names.names), ("len", names.names.length),
  ("empty", names.names.isEmpty)]

def Vetting.RoutingRule.fields (rule : RoutingRule) : List (String × Document) :=
  let (kind, text) :=
    match rule.target with
    | .filesystem name => ("fs", name)
    | .path lead => ("path", lead)
  [("kind", kind), ("match", text), ("group", rule.group), ("text", rule.render)]

/-- The groups of a mask, and a flag for each group and two past the last. -/
def Vetting.GroupMask.document (mask : GroupMask) : Document := .table [
  ("bits", mask.bits.toNat), ("groups", .list (mask.groups.map Document.count)),
  ("contains", .list ((List.range (groupCount + 2)).map fun group => mask.contains group))]

def Addr.document (addr : Addr) : Document := .table [
  ("display", addr.render), ("debug", addr.describe), ("null", addr == Addr.null),
  ("hook", .ofOption (fun hook => .text hook.slotName) (Hook.ofAddr? addr))]

def Hook.document (hook : Hook) : Document :=
  .list [hook.title, hook.addr.render, hook.slotName]

end Interception
