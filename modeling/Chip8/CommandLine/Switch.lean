import Chip8.Text.Quoted

namespace Chip8.CommandLine

inductive Switch where
  | help
  | frontend
  | scale
  | speed
  | shiftVy
  | seed
  | info
  | debug
  | trace
  | verbose
  deriving DecidableEq, Repr

namespace Switch

def all : List Switch :=
  [help, frontend, scale, speed, shiftVy, seed, info, debug, trace, verbose]

/-- The names of a switch: short ones have one dash and one letter, long ones two dashes. -/
def names : Switch → List String
  | help => ["-h", "--help"]
  | frontend => ["--frontend", "-f"]
  | scale => ["--scale"]
  | speed => ["--speed", "-s"]
  | shiftVy => ["--shift-vy"]
  | seed => ["--seed"]
  | info => ["--info"]
  | debug => ["--debug"]
  | trace => ["--trace"]
  | verbose => ["--verbose", "-v"]

def takesValue : Switch → Bool
  | frontend | scale | speed | seed | debug => true
  | help | shiftVy | info | trace | verbose => false

def title (switch : Switch) : String := "/".intercalate switch.names

def directory : List (String × Switch) :=
  all.flatMap fun switch => switch.names.map fun name => (name, switch)

def named? (name : String) : Option Switch := directory.lookup name

def short? (letter : Char) : Option Switch := named? (String.ofList ['-', letter])

/-- The long names that start as given, each with its switch. -/
def abbreviated (start : String) : List (String × Switch) :=
  directory.filter fun (name, _) => name.startsWith "--" && name.startsWith start

end Switch

inductive FrontendChoice where
  | window
  | terminal
  deriving DecidableEq, Repr

namespace FrontendChoice

def all : List FrontendChoice := [window, terminal]

def name : FrontendChoice → String
  | window => "window"
  | terminal => "terminal"

def ofName? (text : String) : Option FrontendChoice := all.find? fun choice => choice.name = text

end FrontendChoice

inductive UsageError where
  | ambiguous (text : String) (candidates : List String)
  | valueMissing (switch : Switch)
  | valueUnwanted (switch : Switch) (text : String)
  | notInteger (switch : Switch) (text : String)
  | unknownFrontend (text : String)
  | programMissing
  | unrecognized (texts : List String)
  deriving DecidableEq, Repr

namespace UsageError

def about (switch : Switch) (text : String) : String := s!"argument {switch.title}: {text}"

def message : UsageError → String
  | ambiguous text candidates =>
    let list := ", ".intercalate candidates
    s!"ambiguous option: {text} could match {list}"
  | valueMissing switch => about switch "expected one argument"
  | valueUnwanted switch text => about switch s!"ignored explicit argument {Text.quoted text}"
  | notInteger switch text => about switch s!"invalid int value: {Text.quoted text}"
  | unknownFrontend text =>
    let choices := ", ".intercalate (FrontendChoice.all.map fun choice => Text.quoted choice.name)
    about .frontend s!"invalid choice: {Text.quoted text} (choose from {choices})"
  | programMissing => "the following arguments are required: rom"
  | unrecognized texts =>
    let list := " ".intercalate texts
    s!"unrecognized arguments: {list}"

end UsageError

end Chip8.CommandLine
