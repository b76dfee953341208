import Interception.Cli.Arguments
import Interception.Vetting.PathPolicy

/-!
The commands of the command line: replaying a scenario, answering requests
as a client, and showing the configuration.
-/

namespace Interception.Cli

structure SimulateOptions where
  scenario : String
  config : Option String
  external : Bool
  socket : Option String
  clients : Nat
  wait : String
  noClient : Bool
  policy : Vetting.PathPolicy
  json : Bool
  metrics : Bool
  deriving DecidableEq, Repr

structure ClientOptions where
  config : Option String
  socket : Option String
  name : String
  groups : UInt8
  policy : Vetting.PathPolicy
  maxRequests : Option Nat
  deriving DecidableEq, Repr

structure ConfigOptions where
  config : Option String
  json : Bool
  keys : Bool
  deriving DecidableEq, Repr

inductive Command
  | simulate (options : SimulateOptions)
  | client (options : ClientOptions)
  | config (options : ConfigOptions)
  deriving DecidableEq, Repr

def flag (long : String) (letter : Option Char) (about : String) : OptionSpec :=
  ⟨long, letter, .nothing, about, none, none⟩

/-- An option with one value. -/
def single (long : String) (letter : Option Char) (valid : String → Bool)
    (initial : Option String) (about : String) : OptionSpec :=
  ⟨long, letter, .one valid, about, initial, none⟩

/-- An option with a value each time it is given. -/
def repeated (long about : String) : OptionSpec := ⟨long, none, .many, about, none, none⟩

/-- The configuration file that the environment names. -/
def configVariable : String := "VFSGUARD_CONFIG"

def configSpec (about : String) : OptionSpec :=
  ⟨"config", some 'c', .one isPath, about, none, some configVariable⟩

def socketSpec (about : String) : OptionSpec := single "socket" (some 's') isPath none about

def verboseSpec : OptionSpec := flag "verbose" (some 'v') "Verbose logging"

def defaultDecision : String := "allow"

def defaultName : String := "vfsguard-client"

def defaultWait : String := "30s"

def simulateSpec : CommandSpec where
  name := "simulate"
  about := "Replay a scenario against the simulated kernel"
  others := [("SCENARIO", "Scenario file (JSON)")]
  options := [
    configSpec "Configuration file layered over the defaults",
    flag "external" none
      "Serve the vetting socket and wait for external clients instead of answering in-process",
    socketSpec "Socket to serve with --external (overrides the configuration)",
    single "clients" none (isNatural Text.limit64) (some "1")
      "External clients to wait for before running the steps",
    single "wait" none anything (some defaultWait) "How long to wait for external clients",
    flag "no-client" none "Run without any vetting client",
    repeated "allow" "In-process client: allow paths under this prefix (repeatable)",
    repeated "deny" "In-process client: deny paths under this prefix (repeatable)",
    single "default" none isDecision (some defaultDecision)
      "In-process client: decision for unmatched paths",
    flag "json" none "Print step results as JSON",
    flag "metrics" none "Print the metrics exposition after the run",
    verboseSpec]

def clientSpec : CommandSpec where
  name := "client"
  about := "Run a path-prefix vetting client"
  others := []
  options := [
    configSpec "Configuration file (socket path, packet limit, reconnect policy)",
    socketSpec "Socket to connect to (overrides the configuration)",
    single "name" (some 'n') anything (some defaultName)
      "Client name, unique among connected clients",
    single "groups" (some 'g') (fun text => (readGroups? text).isSome) (some "1")
      "Vetting groups to join, as a bitmask",
    repeated "allow" "Allow paths under this prefix (repeatable)",
    repeated "deny" "Deny paths under this prefix (repeatable)",
    single "default" none isDecision (some defaultDecision)
      "Decision for paths no prefix matches",
    single "deny-code" none (fun text => (readCode? text).isSome) (some "13")
      "Error code returned with denials",
    single "max-requests" none (isNatural Text.limit64) none
      "Stop after answering this many requests",
    verboseSpec]

def showSpec : CommandSpec where
  name := "config"
  about := "Print the effective configuration"
  others := []
  options := [
    configSpec "Configuration file layered over the defaults",
    flag "json" none "Print JSON instead of TOML",
    flag "keys" none "Also list the runtime keys of every component"]

def commandSpecs : List CommandSpec := [simulateSpec, clientSpec, showSpec]

def commandSpec? (name : String) : Option CommandSpec := commandSpecs.find? (·.name == name)

def configPath (environment : List (String × String)) (given : Given) :
    Except Stop (Option String) :=
  match given.value? "config" with
  | some path => .ok (some path)
  | none =>
      match environment.lookup configVariable with
      | some path => if isPath path then .ok (some path) else .error .usage
      | none => .ok none

def policyOf (given : Given) (denyCode : Int32) : Vetting.PathPolicy :=
  .ofLists (given.values "allow") (given.values "deny")
    (((given.value? "default").bind Vetting.Decision.ofWord?).getD .allow) denyCode

def naturalOf (given : Given) (name : String) (fallback : Nat) : Nat :=
  ((given.value? name).bind fun text => (Text.readNat Text.limit64 text).toOption).getD fallback

def simulateOf (environment : List (String × String)) (given : Given) :
    Except Stop SimulateOptions := do
  let config ← configPath environment given
  match given.others with
  | [scenario] =>
      if !isPath scenario ∨ (given.has "external" ∧ given.has "no-client") then throw .usage
      else return {
        scenario, config, external := given.has "external", socket := given.value? "socket"
        clients := naturalOf given "clients" 1, wait := (given.value? "wait").getD defaultWait
        noClient := given.has "no-client", policy := policyOf given Errno.EACCES.code
        json := given.has "json", metrics := given.has "metrics" }
  | _ => throw .usage

def clientOf (environment : List (String × String)) (given : Given) :
    Except Stop ClientOptions := do
  let config ← configPath environment given
  let code := (given.value? "deny-code").bind readCode?
  let groups := (given.value? "groups").bind readGroups?
  return {
    config, socket := given.value? "socket", name := (given.value? "name").getD defaultName
    groups := UInt8.ofNat (groups.getD 1).toNat
    policy := policyOf given (Int32.ofInt (code.getD Errno.EACCES.code.toInt))
    maxRequests := (given.value? "max-requests").map fun _ => naturalOf given "max-requests" 0 }

def configOf (environment : List (String × String)) (given : Given) :
    Except Stop ConfigOptions := do
  let config ← configPath environment given
  return { config, json := given.has "json", keys := given.has "keys" }

/-- The command that gives help about others. -/
def helpName : String := "help"

/-- Help is given about one command at most. -/
def helpOn : List String → Stop
  | [] => .help none
  | [name] =>
      if name = helpName ∨ (commandSpec? name).isSome then .help (some name) else .usage
  | _ => .usage

/-- The command that arguments ask for. -/
def Command.parse (environment : List (String × String)) :
    List String → Except Stop Command
  | "simulate" :: rest => do
      return .simulate (← simulateOf environment (← takeArguments simulateSpec rest))
  | "client" :: rest => do
      return .client (← clientOf environment (← takeArguments clientSpec rest))
  | "config" :: rest => do
      return .config (← configOf environment (← takeArguments showSpec rest))
  | "--help" :: _ => throw (.help none)
  | "--version" :: _ => throw .version
  | first :: rest =>
      if first = helpName then throw (helpOn rest)
      else match first.toList with
      | '-' :: 'h' :: _ => throw (.help none)
      | '-' :: 'V' :: _ => throw .version
      | _ => throw .usage
  | [] => throw .usage

end Interception.Cli
