import Interception.Text.Number
import Interception.Vetting.Request

/-!
Command line arguments. An option has a long name and perhaps a letter; a
value follows its option, or is attached to it. Letters may be bundled. What
follows two bare dashes is no option any more. Arguments are judged from left
to right, so that the first fault, or the first call for help, decides.
-/

namespace Interception.Cli

/-- What an option takes. -/
inductive Takes
  | nothing
  | one (valid : String → Bool)
  /-- A value each time it is given. -/
  | many

structure OptionSpec where
  long : String
  letter : Option Char
  takes : Takes
  about : String
  /-- The value of an option that is not given. -/
  initial : Option String
  /-- The variable whose value counts when the option is not given. -/
  envName : Option String

/-- A command with the other arguments it takes, by name and meaning. -/
structure CommandSpec where
  name : String
  about : String
  others : List (String × String)
  options : List OptionSpec

/-- Why a command line is not carried out. Help is about a command, or about
the whole. -/
inductive Stop
  | usage
  | help (topic : Option String)
  | version
  deriving DecidableEq, Repr

/-- The options given so far, the latest first, and the other arguments. -/
structure Given where
  options : List (String × String)
  others : List String
  deriving DecidableEq, Repr

namespace Given

def empty : Given := ⟨[], []⟩

def has (given : Given) (name : String) : Bool :=
  given.options.any (·.1 == name)

def value? (given : Given) (name : String) : Option String :=
  given.options.lookup name

/-- All values of an option in order. -/
def values (given : Given) (name : String) : List String :=
  (given.options.reverse.filter (·.1 == name)).map (·.2)

/-- Records an option. Only one that takes many values may come again. -/
def put (given : Given) (spec : OptionSpec) (value : String) : Except Stop Given :=
  let added := { given with options := (spec.long, value) :: given.options }
  match spec.takes with
  | .many => .ok added
  | .nothing => if given.has spec.long then .error .usage else .ok added
  | .one valid => if given.has spec.long ∨ !valid value then .error .usage else .ok added

end Given

def OptionSpec.isFlag (spec : OptionSpec) : Bool :=
  match spec.takes with
  | .nothing => true
  | _ => false

/-- Whether an argument stands for options rather than for itself. -/
def looksLikeOption (argument : String) : Bool :=
  match argument.toList with
  | '-' :: _ :: _ => true
  | _ => false

/-- Takes the value of an option from the arguments that follow it. -/
def takeValue (given : Given) (spec : OptionSpec) :
    List String → Except Stop (Given × List String)
  | [] => .error .usage
  | value :: rest =>
      if looksLikeOption value then .error .usage
      else (given.put spec value).map (·, rest)

/-- A long option without its dashes. -/
def takeLong (command : CommandSpec) (given : Given) (text : List Char) (rest : List String) :
    Except Stop (Given × List String) :=
  let name := String.ofList (text.takeWhile (· != '='))
  let attached := text.dropWhile (· != '=')
  if name = "help" then
    if attached.isEmpty then .error (.help (some command.name)) else .error .usage
  else
    match command.options.find? (·.long == name), attached with
    | none, _ => .error .usage
    | some spec, [] =>
        if spec.isFlag then (given.put spec "").map (·, rest) else takeValue given spec rest
    | some spec, _ :: value =>
        if spec.isFlag then .error .usage
        else (given.put spec (String.ofList value)).map (·, rest)

/-- Bundled letters; the first one that takes a value takes what is left. -/
def takeLetters (command : CommandSpec) (given : Given) (rest : List String) :
    List Char → Except Stop (Given × List String)
  | [] => .ok (given, rest)
  | letter :: more =>
      if letter = 'h' then .error (.help (some command.name))
      else
        match command.options.find? (·.letter == some letter) with
        | none => .error .usage
        | some spec =>
            if spec.isFlag then
              match given.put spec "" with
              | .ok later => takeLetters command later rest more
              | .error stop => .error stop
            else
              match more with
              | [] => takeValue given spec rest
              | '=' :: value => (given.put spec (String.ofList value)).map (·, rest)
              | value => (given.put spec (String.ofList value)).map (·, rest)

def isPath (text : String) : Bool := text != ""

/-- Takes the options out of a command's arguments. The others are paths. -/
def takeAll (command : CommandSpec) : Nat → Given → List String → Except Stop Given
  | 0, given, _ => .ok given
  | _, given, [] => .ok given
  | fuel + 1, given, argument :: rest =>
      let most := command.others.length
      match argument.toList with
      | ['-', '-'] =>
          if most < given.others.length + rest.length ∨ !rest.all isPath then .error .usage
          else .ok { given with others := given.others ++ rest }
      | '-' :: '-' :: text => do
          let (later, left) ← takeLong command given text rest
          takeAll command fuel later left
      | '-' :: letter :: more => do
          let (later, left) ← takeLetters command given rest (letter :: more)
          takeAll command fuel later left
      | _ =>
          if given.others.length < most ∧ isPath argument then
            takeAll command fuel { given with others := given.others ++ [argument] } rest
          else .error .usage

def takeArguments (command : CommandSpec) (arguments : List String) : Except Stop Given :=
  takeAll command arguments.length .empty arguments

/-! ### Values -/

def anything : String → Bool := fun _ => true

def isDecision (text : String) : Bool := (Vetting.Decision.ofWord? text).isSome

def isNatural (limit : Nat) (text : String) : Bool := (Text.readNat limit text).toOption.isSome

/-- A whole number between two bounds, with or without a sign. -/
def readWithin? (low high : Int) (text : String) : Option Int :=
  let found :=
    match text.toList with
    | '-' :: '+' :: _ => none
    | '-' :: digits =>
        (Text.readNat Text.limit64 (String.ofList digits)).toOption.map fun value => -(value : Int)
    | _ => (Text.readNat Text.limit64 text).toOption.map fun value => (value : Int)
  found.filter fun value => low ≤ value ∧ value ≤ high

/-- A signed number of 32 bits. -/
def readCode? : String → Option Int := readWithin? (-2147483648) 2147483647

/-- A set of groups as a number of 8 bits. -/
def readGroups? : String → Option Int := readWithin? 0 Text.limit8

end Interception.Cli
