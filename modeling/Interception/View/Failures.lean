import Interception.Config.Basic
import Interception.Document.Basic
import Interception.Patch.Table
import Interception.Settings
import Interception.Transport.Client
import Interception.Vetting.Controller
import Interception.Wire.Codec

/-!
Documents of results. A failure has a kind, the name of its cause, and a
message.
-/

namespace Interception

/-- An error that can be told from others by the name of its cause. -/
class Failure (Error : Type) where
  kind : Error → String
  message : Error → String

instance : Failure Errno := ⟨fun _ => "Errno", Errno.render⟩

instance : Failure ConfigError := ⟨fun _ => "Anyhow", ConfigError.message⟩

instance : Failure Vetting.RuleError := ⟨fun _ => "Anyhow", Vetting.RuleError.message⟩

instance : Failure Text.NumberError := ⟨fun _ => "Anyhow", Text.NumberError.message⟩

/-- A bare message. -/
instance : Failure String := ⟨fun _ => "Anyhow", id⟩

def Patch.PatchError.kind : PatchError → String
  | notPatched .. => "NotPatched"
  | foreignHook .. => "ForeignHook"
  | doublePatch .. => "DoublePatch"
  | sealedMemory => "Unprotect"

instance : Failure Patch.PatchError := ⟨Patch.PatchError.kind, Patch.PatchError.message⟩

def SettingError.kind : SettingError → String
  | unknownKey .. => "UnknownKey"
  | readOnly .. => "ReadOnly"
  | invalidValue .. => "InvalidValue"
  | unknownComponent .. => "UnknownComponent"
  | alreadyAttached .. => "AlreadyAttached"

instance : Failure SettingError := ⟨SettingError.kind, SettingError.message⟩

def Vetting.VettingError.kind : VettingError → String
  | duplicateClient .. => "DuplicateClient"
  | invalidGroupMask .. => "InvalidGroupMask"
  | unknownClient .. => "UnknownClient"
  | shutdown => "Shutdown"

instance : Failure Vetting.VettingError := ⟨Vetting.VettingError.kind, Vetting.VettingError.message⟩

def Wire.WireError.kind : WireError → String
  | empty => "Empty"
  | tooLarge .. => "TooLarge"
  | invalidLimit .. => "InvalidLimit"
  | versionMismatch .. => "VersionMismatch"
  | malformed .. => "Malformed"

instance : Failure Wire.WireError := ⟨Wire.WireError.kind, Wire.WireError.message⟩

instance : Failure Transport.ClientError := ⟨fun _ => "Anyhow", Transport.ClientError.message⟩

namespace Document

def failure {Error : Type} [Failure Error] (error : Error) : Document :=
  .table [("error", Failure.kind error), ("message", Failure.message error)]

def ok (value : Document) : Document :=
  .table [("ok", value)]

def result {Error Value : Type} [Failure Error] (put : Value → Document) :
    Except Error Value → Document
  | .ok value => ok (put value)
  | .error error => failure error

/-- The result of what has no value. -/
def done {Error Value : Type} [Failure Error] : Except Error Value → Document :=
  result fun _ => "ok"

end Document

end Interception
