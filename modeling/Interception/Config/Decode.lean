import Interception.Config.Basic
import Interception.Document.Basic
import Interception.Double.Shortest

/-!
Configurations as documents. Every section and key is optional, unknown
keys are ignored, and a section may also be a list of its values in order.
How strictly a value has to fit its key depends on where it comes from.
-/

namespace Interception

/-- How values are taken for a key's type. -/
structure Coercion where
  flag : Document → Option Bool
  /-- A number up to a limit. -/
  natural : Nat → Document → Option Nat
  text : Document → Option String
  /-- What the only key of a table may lead to when it names an alternative. -/
  carries : Document → Bool
  /-- Whether a list may be longer than the section. -/
  longLists : Bool

namespace Coercion

/-- Values have to be of the key's own type. -/
def strict : Coercion where
  flag
    | .flag value => some value
    | _ => none
  natural limit
    | .integer value => if 0 ≤ value ∧ value.toNat ≤ limit then some value.toNat else none
    | _ => none
  text
    | .text value => some value
    | _ => none
  carries
    | .null => true
    | _ => false
  longLists := false

def trueWords : List String := ["true", "on", "yes"]

def falseWords : List String := ["false", "off", "no"]

/-- The number that a word or a digit string stands for. -/
def numberWord (word : String) : Option Nat :=
  if Text.lower word ∈ trueWords then some 1
  else if Text.lower word ∈ falseWords then some 0
  else (Text.readNat Text.limit64 word).toOption

def flagWord (word : String) : Option Bool :=
  if Text.lower word ∈ "1" :: trueWords then some true
  else if Text.lower word ∈ "0" :: falseWords then some false
  else none

/-- Values are converted between texts, numbers and flags; a number too
large for its key loses its high bits. -/
def converting : Coercion where
  flag
    | .flag value => some value
    | .integer value => some (value != 0)
    | .real value => some (!value.isZero)
    | .text word => flagWord word
    | _ => none
  natural limit
    | .integer value => if 0 ≤ value then some (value.toNat % (limit + 1)) else none
    | .flag value => some (if value then 1 else 0)
    | .real value => some (value.clamped Text.limit64 % (limit + 1))
    | .text word => (numberWord word).map (· % (limit + 1))
    | _ => none
  text
    | .text value => some value
    | .integer value => some (toString value)
    | .real value => some value.text
    | .flag value => some (toString value)
    | _ => none
  carries _ := true
  longLists := true

def texts (coercion : Coercion) : Document → Option (List String)
  | .list items => items.mapM coercion.text
  | _ => none

/-- The alternative chosen by a word, or by the only key of a table. -/
def choice {Value : Type} (coercion : Coercion) (names : List (String × Value)) :
    Document → Option Value
  | .text word => pick word
  | .table [(word, value)] => if coercion.carries value then pick word else none
  | _ => none
where
  pick (word : String) : Option Value := names.lookup word

/-- The values of a section by position or by name. -/
abbrev Section := Nat → String → Option Document

def sectionOf (coercion : Coercion) (size : Nat) : Document → Option Section
  | .table fields => some fun _ name => Document.field? name fields
  | .list items =>
      if items.length ≤ size ∨ coercion.longLists then some fun index _ => items[index]?
      else none
  | _ => none

def orElse {Value : Type} (fallback : Value) (read : Document → Option Value) :
    Option Document → Option Value
  | none => some fallback
  | some document => read document

end Coercion

namespace Config

open Coercion

def policyNames : List (String × ErrorPolicy) := [("deny", .deny), ("allow", .allow)]

def fallbackNames : List (String × Fallback) := [("allow", .allow), ("deny", .deny)]

def noClientNames : List (String × NoClient) :=
  [("next", .next), ("allow", .allow), ("deny", .deny)]

def decodeHook (how : Coercion) (document : Document) : Option HookConfig := do
  let field ← how.sectionOf 7 document
  let base := standardHook
  return {
    enabled := ← orElse base.enabled how.flag (field 0 "enabled")
    ops := ← orElse base.ops how.texts (field 1 "ops")
    goodList := ← orElse base.goodList how.texts (field 2 "good_list")
    skipList := ← orElse base.skipList how.texts (field 3 "skip_list")
    noScan := ← orElse base.noScan how.texts (field 4 "no_scan")
    hookDentries := ← orElse base.hookDentries how.texts (field 5 "hook_dops")
    noScanOnLoad := ← orElse base.noScanOnLoad how.flag (field 6 "no_scan_on_load") }

def decodeVetting (how : Coercion) (document : Document) : Option VettingConfig := do
  let field ← how.sectionOf 10 document
  let base := standardVetting
  return {
    enabled := ← orElse base.enabled how.flag (field 0 "enabled")
    timeout := ← orElse base.timeout (how.natural Text.limit64) (field 1 "timeout_ms")
    fsTimeout := ← orElse base.fsTimeout (how.natural Text.limit64) (field 2 "fs_timeout_ms")
    timeoutDeny := ← orElse base.timeoutDeny how.flag (field 3 "timeout_deny")
    interruptible := ← orElse base.interruptible how.flag (field 4 "interruptible")
    ops := ← orElse base.ops how.texts (field 5 "ops")
    routing := ← orElse base.routing how.texts (field 6 "routing")
    defaultGroup := ← orElse base.defaultGroup (how.natural Text.limit8)
      (field 7 "default_group")
    unroutedAllow := ← orElse base.unroutedAllow how.flag (field 8 "unrouted_allow")
    noClient := ← orElse base.noClient (how.choice noClientNames) (field 9 "no_client") }

def decodeDegraded (how : Coercion) (document : Document) : Option DegradedConfig := do
  let field ← how.sectionOf 4 document
  let base := standard.degraded
  return {
    enabled := ← orElse base.enabled how.flag (field 0 "enabled")
    threshold := ← orElse base.threshold (how.natural Text.limit32) (field 1 "threshold")
    fallback := ← orElse base.fallback (how.choice fallbackNames) (field 2 "fallback")
    probeInterval := ← orElse base.probeInterval (how.natural Text.limit64)
      (field 3 "probe_interval_ms") }

def decodePolicy (how : Coercion) (document : Document) : Option PolicyConfig := do
  let field ← how.sectionOf 2 document
  let base := standard.policy
  return {
    onError := ← orElse base.onError (how.choice policyNames) (field 0 "on_error")
    actionLog := ← orElse base.actionLog how.flag (field 1 "action_log") }

/-- The keys of the retry policy come together. -/
def decodeRetry (how : Coercion) (document : Document) : Option RetryPolicy := do
  let field ← how.sectionOf 3 document
  return {
    maxAttempts := ← how.natural Text.limit32 (← field 0 "max_attempts")
    initialDelay := .ofMillis (← how.natural Text.limit64 (← field 1 "initial_delay"))
    maxDelay := .ofMillis (← how.natural Text.limit64 (← field 2 "max_delay")) }

def decodeTransport (how : Coercion) (document : Document) : Option TransportConfig := do
  let field ← how.sectionOf 3 document
  let base := standard.transport
  return {
    socketPath := ← orElse base.socketPath how.text (field 0 "socket_path")
    maxPacketSize := ← orElse base.maxPacketSize (how.natural Text.limit64)
      (field 1 "max_packet_size")
    reconnect := ← orElse base.reconnect (decodeRetry how) (field 2 "reconnect") }

def decodeBy (how : Coercion) (document : Document) : Option Config := do
  let field ← how.sectionOf 5 document
  return {
    hook := ← orElse standardHook (decodeHook how) (field 0 "hook")
    vetting := ← orElse standardVetting (decodeVetting how) (field 1 "vetting")
    degraded := ← orElse standard.degraded (decodeDegraded how) (field 2 "degraded")
    policy := ← orElse standard.policy (decodePolicy how) (field 3 "policy")
    transport := ← orElse standard.transport (decodeTransport how) (field 4 "transport") }

def decode (document : Document) : Option Config :=
  decodeBy Coercion.strict document

/-! ### Writing -/

def hookDocument (config : HookConfig) : Document := .table [
  ("enabled", .flag config.enabled), ("ops", .texts config.ops),
  ("good_list", .texts config.goodList), ("skip_list", .texts config.skipList),
  ("no_scan", .texts config.noScan), ("hook_dops", .texts config.hookDentries),
  ("no_scan_on_load", .flag config.noScanOnLoad)]

def vettingDocument (config : VettingConfig) : Document := .table [
  ("enabled", .flag config.enabled), ("timeout_ms", .integer config.timeout),
  ("fs_timeout_ms", .integer config.fsTimeout), ("timeout_deny", .flag config.timeoutDeny),
  ("interruptible", .flag config.interruptible), ("ops", .texts config.ops),
  ("routing", .texts config.routing), ("default_group", .integer config.defaultGroup),
  ("unrouted_allow", .flag config.unroutedAllow), ("no_client", .text config.noClient.name)]

def degradedDocument (config : DegradedConfig) : Document := .table [
  ("enabled", .flag config.enabled), ("threshold", .integer config.threshold),
  ("fallback", .text config.fallback.name), ("probe_interval_ms", .integer config.probeInterval)]

def policyDocument (config : PolicyConfig) : Document := .table [
  ("on_error", .text config.onError.name), ("action_log", .flag config.actionLog)]

/-- Milliseconds, of which 64 bits are written. -/
def spanDocument (span : Span) : Document := .integer (UInt64.ofNat span.millis).toNat

def retryDocument (policy : RetryPolicy) : Document := .table [
  ("max_attempts", .integer policy.maxAttempts),
  ("initial_delay", spanDocument policy.initialDelay),
  ("max_delay", spanDocument policy.maxDelay)]

def transportDocument (config : TransportConfig) : Document := .table [
  ("socket_path", .text config.socketPath), ("max_packet_size", .integer config.maxPacketSize),
  ("reconnect", retryDocument config.reconnect)]

def document (config : Config) : Document := .table [
  ("hook", hookDocument config.hook), ("vetting", vettingDocument config.vetting),
  ("degraded", degradedDocument config.degraded), ("policy", policyDocument config.policy),
  ("transport", transportDocument config.transport)]

end Config

end Interception
