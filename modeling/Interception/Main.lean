import Interception.Cli.Run

/-!
The command line program: it reads the files that the arguments name and the
environment, carries the command out and prints what it says. It serves no
socket, so that a replay for external clients waits in vain.
-/

namespace Interception.Cli

/-- The files that a command reads. -/
def Command.files : Command → List String
  | simulate options => options.scenario :: options.config.toList
  | client options => options.config.toList
  | config options => options.config.toList

def readFiles : List String → IO (List (String × String))
  | [] => return []
  | path :: rest => do
      let read ← (IO.FS.readFile path).toBaseIO
      let others ← readFiles rest
      match read with
      | .ok text => return (path, text) :: others
      | .error _ => return others

/-- The variables in the text of an environment, each ended by a null
character. -/
def variablesOf (text : String) : List (String × String) :=
  (text.splitOn "\x00").filterMap fun entry =>
    match entry.splitOn "=" with
    | name :: value@(_ :: _) => some (name, String.intercalate "=" value)
    | _ => none

def readVariables : IO (List (String × String)) := do
  let files ← readFiles ["/proc/self/environ"]
  return files.flatMap fun file => variablesOf file.2

end Interception.Cli

open Interception.Cli

def main (arguments : List String) : IO UInt32 := do
  let environment ← readVariables
  let paths :=
    match Command.parse environment arguments with
    | .ok command => command.files
    | .error _ => []
  let files ← readFiles paths
  let (outcome, _) := run ⟨fun path => files.lookup path, environment⟩ arguments []
  outcome.lines.forM IO.println
  return UInt32.ofNat outcome.code
