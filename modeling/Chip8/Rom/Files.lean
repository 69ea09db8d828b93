import Chip8.Word

namespace Chip8

inductive FileError where
  | notFound
  | isDirectory
  | notDirectory
  | nameTooLong
  deriving DecidableEq, Repr

def FileError.message : FileError → String
  | notFound => "No such file or directory"
  | isDirectory => "Is a directory"
  | notDirectory => "Not a directory"
  | nameTooLong => "File name too long"

abbrev Files := String → Except FileError (List Byte)

def Files.isFile (files : Files) (path : String) : Bool :=
  !path.contains '\x00' && (files path).isOk

namespace Path

def names (path : String) : List String := path.splitOn "/"

def baseName (path : String) : String := (names path).getLast?.getD ""

/-- A file name without its extension, which starts at the last dot that comes after some other
character than a dot. -/
def stem (name : String) : String :=
  let chars := name.toList
  let dots := chars.takeWhile (· = '.')
  let rest := chars.dropWhile (· = '.')
  if rest.contains '.' then
    let kept := (rest.reverse.dropWhile (· ≠ '.')).drop 1
    String.ofList (dots ++ kept.reverse)
  else
    name

/-- A path whose first name starts with a tilde, with a home directory in place of that name: the
user's own one for the tilde alone, and that of the user whose name follows the tilde, if there is
such a user.  There is no telling for a user's name with a NUL character in it. -/
def expandHome (home : String) (homeOf : String → Option String) (path : String) :
    Option String :=
  let placed (home : String) (rest : List String) : String :=
    let trimmed := (home.toList.reverse.dropWhile (· = '/')).reverse
    let expanded := "/".intercalate (String.ofList trimmed :: rest)
    if expanded = "" then "/" else expanded
  match names path with
  | [] => some path
  | first :: rest =>
    match first.toList with
    | ['~'] => some (placed home rest)
    | '~' :: user =>
      if user.contains '\x00' then none
      else
        match homeOf (String.ofList user) with
        | some home => some (placed home rest)
        | none => some path
    | _ => some path

end Path

end Chip8
