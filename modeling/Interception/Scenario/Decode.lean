import Interception.Config.Decode
import Interception.Document.JsonReader
import Interception.Scenario.Basic

/-!
Scenarios as documents. A record gives its fields by name, none of them
twice, or in order; fields that no record knows are ignored, and outside of
steps their values need not even stand for anything. The operation of a step
stands among its fields, or first.
-/

namespace Interception.Scenario

open Coercion

/-- The fields of a record by name. -/
abbrev Fields := String → Option Document

def fieldsOf (names : List String) : Document → Option Fields
  | .table fields =>
      if names.all fun name => (fields.filter (·.1 == name)).length ≤ 1 then
        some fun name => Document.field? name fields
      else none
  | .list items =>
      if items.length ≤ names.length then some fun name => items[names.idxOf name]?
      else none
  | _ => none

def readText (document : Document) : Option String := strict.text document

def readPid : Document → Option (Option Int32)
  | .null => some none
  | .integer value =>
      if -2147483648 ≤ value ∧ value ≤ 2147483647 then some (some (Int32.ofInt value)) else none
  | _ => none

def readComm : Document → Option (Option String)
  | .null => some none
  | document => (readText document).map some

/-- A task has one thread and no group; it acts as the user it belongs to. -/
def taskOf (pid : Option Int32) (uid : UInt32) (comm : Option String) : Personality :=
  let pid := pid.getD 1000
  ⟨pid, pid, uid, uid, 0, 0, comm.getD "sim"⟩

def decodeTask (document : Document) : Option Personality := do
  let field ← fieldsOf ["pid", "uid", "comm"] document
  let pid ← orElse none readPid (field "pid")
  let uid ← orElse 0 (strict.natural Text.limit32) (field "uid")
  let comm ← orElse none readComm (field "comm")
  return taskOf pid (UInt32.ofNat uid) comm

def filesystemNames : List String := ["device", "dir", "fs_type", "files"]

def decodeFilesystem (document : Document) : Option FilesystemSpec := do
  let field ← fieldsOf filesystemNames document
  return {
    device := ← readText (← field "device")
    dir := ← readText (← field "dir")
    fsType := ← readText (← field "fs_type")
    files := ← orElse [] strict.texts (field "files") }

def task (field : Fields) : Option Personality :=
  orElse (taskOf none 0 none) decodeTask (field "task")

def flags (limit : Nat) (field : Fields) : Option Nat :=
  orElse 0 (strict.natural limit) (field "flags")

def decodeOpen (document : Document) : Option Step := do
  let field ← fieldsOf ["path", "flags", "create", "task"] document
  let path ← readText (← field "path")
  let given := UInt32.ofNat (← flags Text.limit32 field)
  let create ← orElse false strict.flag (field "create")
  return .openFile (← task field) path (if create then given ||| Step.creating else given)

def decodeClose (document : Document) : Option Step := do
  let field ← fieldsOf ["path", "task"] document
  let path ← readText (← field "path")
  return .closeFile (← task field) path

def decodeMount (document : Document) : Option Step := do
  let field ← fieldsOf ["device", "dir", "fs_type", "flags", "task"] document
  let device ← readText (← field "device")
  let dir ← readText (← field "dir")
  let fsType ← readText (← field "fs_type")
  let flags ← flags Text.limit64 field
  return .mount (← task field) device dir fsType (UInt64.ofNat flags)

def decodeUmount (document : Document) : Option Step := do
  let field ← fieldsOf ["dir", "task"] document
  let dir ← readText (← field "dir")
  return .umount (← task field) dir

def decodeAddFile (document : Document) : Option Step := do
  let field ← fieldsOf ["mount", "name"] document
  return .addFile (← readText (← field "mount")) (← readText (← field "name"))

def decodePropagation (document : Document) : Option Step := do
  let field ← fieldsOf ["mount", "count"] document
  return .propagation (← readText (← field "mount"))
    (← strict.natural Text.limit32 (← field "count"))

def decodeSet (document : Document) : Option Step := do
  let field ← fieldsOf ["component", "key", "value"] document
  return .set (← readText (← field "component")) (← readText (← field "key"))
    (← readText (← field "value"))

def decodeSleep (document : Document) : Option Step := do
  let field ← fieldsOf ["ms"] document
  return .sleep (← strict.natural Text.limit64 (← field "ms"))

def stepDecoders : List (String × (Document → Option Step)) := [
  ("open", decodeOpen), ("close", decodeClose), ("mount", decodeMount),
  ("umount", decodeUmount), ("add_file", decodeAddFile), ("propagation", decodePropagation),
  ("set", decodeSet), ("sleep", decodeSleep)]

/-- The operation of a step, and the document its fields are read from. -/
def splitStep : Document → Option (String × Document)
  | .table fields =>
      match fields.filter (·.1 == "op") with
      | [(_, .text name)] => some (name, .table fields)
      | _ => none
  | .list (.text name :: rest) => some (name, .list rest)
  | _ => none

def decodeStep (document : Document) : Option Step := do
  let (name, fields) ← splitStep document
  (← stepDecoders.lookup name) fields

def listOf {Value : Type} (decode : Document → Option Value) : Document → Option (List Value)
  | .list items => items.mapM decode
  | _ => none

def decode (document : Document) : Option Scenario := do
  let field ← fieldsOf ["filesystems", "steps"] document
  return {
    filesystems := ← orElse [] (listOf decodeFilesystem) (field "filesystems")
    steps := ← listOf decodeStep (← field "steps") }

/-! ### Scenarios as text -/

def filesystemRecord : Json.Record := filesystemNames.map (·, some)

/-- Every part of a step is looked at. -/
def record : Json.Record :=
  [("filesystems", Json.keepEach (Json.keep filesystemRecord)), ("steps", some)]

/-- The scenario that a text spells. -/
def read? (text : String) : Option Scenario :=
  (((Json.readWholeText? text).bind (Json.keep record)).bind
    (·.document? Json.maxDepth)).bind decode

end Interception.Scenario
