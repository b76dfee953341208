import Interception.Cli.Command
import Interception.Text.Terminal

/-!
Help texts. Each section lists what can be written and what it means, the
meanings in one column. What can be written is emphasised; the emphasis is
taken out at the end with whatever controls a value of the environment holds.
-/

namespace Interception.Cli

def emphasis : String := "\x1b[1m"

def plainAgain : String := "\x1b[0m"

def emphasised (text : String) : String := emphasis ++ text ++ plainAgain

/-- One line of a section. The lead stands before the name. -/
structure HelpLine where
  lead : String
  name : String
  about : String

namespace HelpLine

/-- Blanks before and after a name. -/
def gap : Nat := 2

def indented : String := "".pushn ' ' gap

/-- The lines of a meaning that has several are all in the same column. -/
def render (column longest : Nat) (line : HelpLine) : String :=
  line.lead ++ emphasised line.name ++ "".pushn ' ' (longest + gap - line.name.length) ++
    line.about.replace "\n" ("\n".pushn ' ' column)

/-- The lines of a section, after a blank one. An empty section is left out.
The names begin behind a margin. -/
def block (title : String) (margin : Nat) (lines : List HelpLine) : List String :=
  if lines.isEmpty then []
  else
    let longest := (lines.map (·.name.length)).foldl max 2
    "" :: title :: lines.map (render (margin + longest + gap) longest)

/-- The name for the value of an option. -/
def valueName (long : String) : String :=
  String.ofList (long.toList.map fun c => if c = '-' then '_' else c.toUpper)

/-- Where else the value of an option comes from. -/
def notesOf (environment : List (String × String)) (spec : OptionSpec) : List String :=
  (spec.envName.map fun name =>
      "[env: " ++ name ++ "=" ++ (environment.lookup name).getD "" ++ "]").toList ++
    (spec.initial.map fun value => "[default: " ++ value ++ "]").toList

/-- The margin of options, with room for a letter. -/
def optionMargin : Nat := gap + 4

def ofOption (environment : List (String × String)) (spec : OptionSpec) : HelpLine where
  lead := indented ++
    match spec.letter with
    | some letter => emphasised ("-" ++ letter.toString) ++ ", "
    | none => "    "
  name :=
    if spec.isFlag then "--" ++ spec.long
    else "--" ++ spec.long ++ " <" ++ valueName spec.long ++ ">"
  about := " ".intercalate (spec.about :: notesOf environment spec)

end HelpLine

def helpFlag : OptionSpec := flag "help" (some 'h') "Print help"

def versionFlag : OptionSpec := flag "version" (some 'V') "Print version"

def programName : String := "vfsguard"

def usageLine (spec : CommandSpec) : String :=
  String.join (["Usage: ", programName, " ", spec.name, " [OPTIONS]"] ++
    spec.others.map fun other => " <" ++ other.1 ++ ">")

/-- Help about one command. -/
def commandHelp (environment : List (String × String)) (spec : CommandSpec) : List String :=
  [spec.about, "", usageLine spec] ++
    HelpLine.block "Arguments:" HelpLine.gap
      (spec.others.map fun other => ⟨HelpLine.indented, "<" ++ other.1 ++ ">", other.2⟩) ++
    HelpLine.block "Options:" HelpLine.optionMargin
      ((spec.options ++ [helpFlag]).map (HelpLine.ofOption environment))

def helpAbout : String := "Print this message or the help of the given subcommand(s)"

/-- Help about help. -/
def helpHelp : List String :=
  [helpAbout, "", String.join ["Usage: ", programName, " ", helpName, " [COMMAND]..."]] ++
    HelpLine.block "Arguments:" HelpLine.gap
      [⟨HelpLine.indented, "[COMMAND]...", "Print help for the subcommand(s)"⟩]

def programHelp (environment : List (String × String)) : List String :=
  ["vfsguard - filesystem interception and vetting", "",
    "Usage: " ++ programName ++ " <COMMAND>"] ++
    HelpLine.block "Commands:" HelpLine.gap
      (commandSpecs.map (fun spec => ⟨HelpLine.indented, spec.name, spec.about⟩) ++
        [⟨HelpLine.indented, helpName, helpAbout⟩]) ++
    HelpLine.block "Options:" HelpLine.optionMargin
      ([helpFlag, versionFlag].map (HelpLine.ofOption environment))

def emphaticHelp (environment : List (String × String)) : Option String → List String
  | none => programHelp environment
  | some topic =>
      match commandSpec? topic with
      | some spec => commandHelp environment spec
      | none => helpHelp

/-- Help about a command, or about the program. -/
def helpLines (environment : List (String × String)) (topic : Option String) : List String :=
  (Text.withoutControls ("\n".intercalate (emphaticHelp environment topic))).splitOn "\n"

end Interception.Cli
