import Chip8.Digest.Sha1
import Chip8.Memory
import Chip8.Rom.Files
import Chip8.Text.Quoted

namespace Chip8

inductive LoadError where
  | unreadable (path : String) (reason : FileError)
  | romTooLarge (path : String) (size : Nat)
  | programTooLarge (refused : ProgramTooLarge)
  deriving DecidableEq, Repr

def LoadError.message : LoadError → String
  | unreadable path reason => s!"cannot read ROM {Text.quoted path}: {reason.message}"
  | romTooLarge path size =>
    s!"ROM {Text.quoted path} is {size} bytes; at most {Memory.capacity} bytes can be loaded"
  | programTooLarge refused => refused.message

inductive RomError where
  | load (error : LoadError)
  | embeddedNul
  | unknownShift (name : String)
  deriving DecidableEq, Repr

def RomError.message : RomError → String
  | load error => error.message
  | embeddedNul => "embedded null byte"
  | unknownShift name => Text.quoted name

namespace Rom

def memoryPath : String := "<memory>"

def validate (data : List Byte) (path : String := memoryPath) : Except LoadError Unit :=
  if Memory.capacity < data.length then .error (.romTooLarge path data.length) else .ok ()

def read (files : Files) (path : String) : Except RomError (List Byte) :=
  if path.contains '\x00' then
    .error .embeddedNul
  else
    match files path with
    | .error reason => .error (.load (.unreadable path reason))
    | .ok data =>
      match validate data path with
      | .error error => .error (.load error)
      | .ok () => .ok data

/-- The first instruction word of a program; zero if it has less than two bytes. -/
def firstOpcode : List Byte → Word
  | high :: low :: _ => Word.ofBytes high low
  | _ => 0

structure Info where
  title : String
  size : Nat
  free : Nat
  sha1 : String
  firstOpcode : Word
  deriving DecidableEq, Repr

def Info.ofData (path : String) (data : List Byte) : Info :=
  { title := Path.stem (Path.baseName path)
    size := data.length
    free := Memory.capacity - data.length
    sha1 := (Digest.Sha1.ofMessage data).text
    firstOpcode := Rom.firstOpcode data }

def inspect (files : Files) (path : String) : Except RomError Info :=
  (read files path).map (Info.ofData path)

def Info.entries (info : Info) : List (String × String) := [
  ("title", info.title),
  ("rom_size", toString info.size),
  ("free_bytes", toString info.free),
  ("sha1", info.sha1),
  ("first_opcode", Hex.padded 4 info.firstOpcode.toNat)]

end Rom

end Chip8
