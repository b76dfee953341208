import Interception.Cli.Help
import Interception.Config.Load
import Interception.Document.JsonReader
import Interception.Document.JsonWriter
import Interception.Document.TomlReader
import Interception.Document.TomlWriter
import Interception.Duration
import Interception.Host.Instruments
import Interception.Scenario.Decode
import Interception.Scenario.Replay

/-!
Carrying out the commands. Files and the environment come in as values, and
so do the client processes that will connect to a replay; what goes out is an
exit code and the lines printed.
-/

namespace Interception.Cli

/-- What a command may look at. -/
structure Surroundings where
  /-- The text of a file, if it can be read. -/
  file : String → Option String
  environment : List (String × String)

structure Outcome where
  code : Nat
  lines : List String
  deriving DecidableEq, Repr

def Outcome.failed : Outcome := ⟨1, []⟩

/-- The document in a configuration file, by the ending of its name. -/
def readConfigFile (around : Surroundings) (path : String) : Option Document :=
  (around.file path).bind fun text =>
    if path.endsWith ".json" then Json.read? text
    else if path.endsWith ".toml" then Toml.read? text
    else none

def loadConfig (around : Surroundings) (path : Option String) : Except ConfigError Config :=
  Config.load (path.map (readConfigFile around)) around.environment

/-! ### Configuration -/

def settingLine (entry : String × Setting) : String :=
  let (component, setting) := entry
  let marker := if setting.locked then " (read-only)" else ""
  let value := setting.value.replace "\n" ","
  component ++ "/" ++ setting.key ++ marker ++ " = " ++ value

/-- The settings that components have once they run. -/
def settingLines (config : Config) : Option (List String) :=
  (Host.ofConfig config Kernel.standard).toOption.map fun host => "" :: host.dump.map settingLine

def linesOf (text : String) : List String := text.splitOn "\n"

def configLines (config : Config) (json : Bool) : Option (List String) :=
  if json then some (linesOf (Json.pretty config.document))
  else (Toml.render? config.document).map fun text => (linesOf text).dropLast

def showConfig (around : Surroundings) (options : ConfigOptions) : Option (List String) := do
  let config ← (loadConfig around options.config).toOption
  let shown ← configLines config options.json
  let keys ← if options.keys then settingLines config else some []
  return shown ++ keys

/-! ### Replay -/

def stepLine (result : StepResult) : String :=
  (if result.ok then "✓ " else "✗ ") ++ "[" ++ toString result.step ++ "] " ++ result.op ++ " " ++
    result.target ++ ": " ++ result.result ++ " (" ++ toString result.elapsed ++ " ms)"

def information (message : String) : List String := linesOf ("ℹ " ++ message)

def resultLines (results : List StepResult) (host : Host) : List String :=
  let patched := host.table.render
  results.flatMap (fun result => linesOf (stepLine result)) ++
    information
      (if patched = "" then "No filesystems patched" else "Patched filesystems:\n" ++ patched) ++
    (if host.degraded.active then ["⚠ Degraded mode is active"] else []) ++
    information (toString host.log.logged ++ " audit record(s)")

def jsonLines (results : List StepResult) : List String :=
  linesOf (Json.pretty (.list (results.map fun result => .table result.fields)))

/-- The number of the process that replays. No task of a scenario has it. -/
def ownPid : Int32 := 0

/-- Lets external clients connect. They have only so long. -/
def awaitClients (replay : Replay) (count wait : Nat) : Option Replay :=
  let deadline := replay.host.clock + wait
  let waited := replay.threads.await fun threads => count ≤ threads.host.vetting.clients.count
  if count ≤ waited.host.vetting.clients.count ∧ waited.host.clock ≤ deadline then
    some { replay with threads := waited }
  else none

/-- The replay with its clients, and the line that announces the wait for
them. -/
def serveReplay (options : SimulateOptions) (config : Config)
    (processes : List Transport.ClientProcess) (replay : Replay) :
    Option (Replay × List String) :=
  if options.external then do
    let codec ← (Wire.Codec.ofLimit config.transport.maxPacketSize).toOption
    let wait ← (Duration.parse options.wait).toOption
    let link : Transport.Link := ⟨.ofCodec codec, processes⟩
    let served ← awaitClients { replay with threads := { replay.threads with link } }
      options.clients wait
    let socket := options.socket.getD config.transport.socketPath
    return (served, information
      ("Waiting for " ++ toString options.clients ++ " client(s) on " ++ socket))
  else if options.noClient then some (replay, [])
  else (replay.enlist ownPid options.policy).toOption.map (·, [])

def startReplay (config : Config) (scenario : Scenario) : Option Replay :=
  match scenario.kernel with
  | .ok kernel => (Host.ofConfig config kernel).toOption.map Replay.ofHost
  | .error _ => none

def readScenario (around : Surroundings) (path : String) : Option Scenario :=
  (around.file path).bind Scenario.read?

/-- Replays a scenario and shows what came of it. The processes are those
that connect from outside; the answer has them as they ended. -/
def replay (around : Surroundings) (options : SimulateOptions)
    (processes : List Transport.ClientProcess) :
    Option (List String × List Transport.ClientProcess) := do
  let config ← (loadConfig around options.config).toOption
  let scenario ← readScenario around options.scenario
  let start ← startReplay config scenario
  let (served, announcement) ← serveReplay options config processes start
  let (results, ran) := served.run scenario.steps
  let (_, done) := ran.dismiss
  let lines := if options.json then jsonLines results else resultLines results done.host
  let metrics := if options.metrics then done.host.touchedExposition else []
  let (restored, final) := done.shutdown
  let closed := final.threads.modifyServer (·.shutdown)
  match restored with
  | .ok _ => return (announcement ++ lines ++ metrics, closed.link.processes)
  | .error _ => none

/-! ### Clients -/

/-- A client process that was started with these arguments. -/
def clientProcess (around : Surroundings) (label : String) (clock : Nat)
    (arguments : List String) : Transport.ClientProcess :=
  match Command.parse around.environment ("client" :: arguments) with
  | .ok (.client options) =>
      match loadConfig around options.config with
      | .error _ => .ended label 1
      | .ok config =>
          match Wire.Codec.ofLimit config.transport.maxPacketSize with
          | .error _ => .ended label 1
          | .ok codec =>
              .start label ⟨options.name, options.groups, options.policy, codec,
                config.transport.reconnect⟩ options.maxRequests clock
  | .error .usage => .ended label 2
  | _ => .ended label 0

/-! ### All commands -/

/-- Carries out a command line beside client processes. A client on its own
finds no server. -/
def run (around : Surroundings) (arguments : List String)
    (processes : List Transport.ClientProcess) :
    Outcome × List Transport.ClientProcess :=
  match Command.parse around.environment arguments with
  | .ok (.simulate options) =>
      match replay around options processes with
      | some (lines, ended) => (⟨0, lines⟩, ended)
      | none => (.failed, processes)
  | .ok (.config options) => (((showConfig around options).map (⟨0, ·⟩)).getD .failed, processes)
  | .ok (.client _) => (.failed, processes)
  | .error .usage => (⟨2, []⟩, processes)
  | .error (.help topic) => (⟨0, helpLines around.environment topic⟩, processes)
  | .error .version => (⟨0, [programName ++ " 0.1.0"]⟩, processes)

end Interception.Cli
