import Chip8.Rom.Files

/-!
# File trees

The files and directories that program files are read from.  A path is a sequence of names between
slashes; it is followed name by name from the working directory.  Of the world outside that
directory only this is known: it consists of directories, and no name leads back in.
-/

namespace Chip8

/-- Files with their contents and directories, each by the names that lead to it. -/
structure FileTree where
  files : List (List String × List Byte) := []
  directories : List (List String) := []

namespace FileTree

def properNames (path : String) : List String :=
  (Path.names path).filter fun name => name ≠ "" ∧ name ≠ "."

def above (names : List String) : List (List String) := (List.range names.length).map names.take

/-- The same place by names only: two dots take back the name before them. -/
def straight (names : List String) : List String :=
  names.foldl (fun before name => if name = ".." then before.dropLast else before ++ [name]) []

/-- The tree with the given directories and files, and all directories that lead to them.  A later
file takes the place of an earlier one. -/
def ofEntries (directories : List String) (files : List (String × List Byte)) : FileTree :=
  let wanted := directories.map properNames
  let placed := files.map fun (path, content) => (properNames path, content)
  let visited := wanted ++ wanted.flatMap above ++ placed.flatMap fun file => above file.1
  { files := (placed.map fun (names, content) => (straight names, content)).reverse
    directories := visited.map straight }

inductive Place where
  | directory (names : List String)
  | file (content : List Byte)
  | outside

def longestName : Nat := 255

def pathLimit : Nat := 4096

/-- Follows one more name.  An empty name stays where it is, but only in a directory. -/
def follow (tree : FileTree) (place : Place) (name : String) : Except FileError Place :=
  match place with
  | .file _ => .error .notDirectory
  | .outside =>
    if name = "" ∨ name = "." ∨ name = ".." then .ok .outside
    else if longestName < name.utf8ByteSize then .error .nameTooLong
    else .error .notFound
  | .directory names =>
    if name = "" ∨ name = "." then .ok place
    else if name = ".." then .ok (if names = [] then .outside else .directory names.dropLast)
    else if longestName < name.utf8ByteSize then .error .nameTooLong
    else
      let target := names ++ [name]
      match tree.files.lookup target with
      | some content => .ok (.file content)
      | none =>
        if tree.directories.contains target then .ok (.directory target) else .error .notFound

def resolve (tree : FileTree) (path : String) : Except FileError Place :=
  if path = "" then .error .notFound
  else if pathLimit ≤ path.utf8ByteSize then .error .nameTooLong
  else
    let start : Place := if path.startsWith "/" then .outside else .directory []
    (Path.names path).foldlM tree.follow start

def read (tree : FileTree) : Files := fun path =>
  match tree.resolve path with
  | .ok (.file content) => .ok content
  | .ok _ => .error .isDirectory
  | .error error => .error error

end FileTree

end Chip8
