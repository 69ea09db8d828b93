import Chip8.CommandLine.Settings

/-!
# Reading the command line

Reading takes two passes.  The first tells for each argument alone whether it is a word or holds
switches; from a lone double dash on, all are words.  The second goes through them in order: a
switch may take the next word as its value, the first word that is no value is the program, and
later values win over earlier ones.
-/

namespace Chip8.CommandLine

inductive Ending where
  | complete
  | value (switch : Switch) (text : String)
  | awaits (switch : Switch)
  deriving DecidableEq, Repr

/-- The switches in one argument: those without a value, and then possibly something else. -/
structure Cluster where
  flags : List Switch := []
  ending : Ending := .complete
  deriving DecidableEq, Repr

namespace Cluster

def cons (flag : Switch) (cluster : Cluster) : Cluster :=
  { cluster with flags := flag :: cluster.flags }

def bare (switch : Switch) : Cluster :=
  if switch.takesValue then { ending := .awaits switch } else { flags := [switch] }

def long (switch : Switch) (text : String) : Except UsageError Cluster :=
  if switch.takesValue then .ok { ending := .value switch text }
  else .error (.valueUnwanted switch text)

/-- A switch under its short name with a text attached to it.  The text after a switch that takes no
value is made of the letters of further switches. -/
def short (switch : Switch) : List Char → Except UsageError Cluster
  | [] =>
    if switch.takesValue then .ok { ending := .value switch "" }
    else .error (.valueUnwanted switch "")
  | letter :: rest =>
    let text := String.ofList (letter :: rest)
    if switch.takesValue then
      .ok { ending := .value switch text }
    else
      match Switch.short? letter with
      | none => .error (.valueUnwanted switch text)
      | some next =>
        if rest.isEmpty then .ok (cons switch (bare next))
        else (short next rest).map (cons switch)

end Cluster

inductive Argument where
  | separator
  | word (text : String)
  | unknown (text : String)
  | switches (cluster : Except UsageError Cluster)

namespace Argument

/-- Whether a text, after a dash, makes a negative decimal number.  A line end may follow it. -/
def isNumeral (text : List Char) : Bool :=
  let number := if text.getLast? = some '\n' then text.dropLast else text
  let whole := number.takeWhile Text.isDecimal
  match number.dropWhile Text.isDecimal with
  | [] => !whole.isEmpty
  | '.' :: places => !places.isEmpty && places.all Text.isDecimal
  | _ => false

def unnamed (text : String) : Argument :=
  if isNumeral (text.toList.drop 1) || text.contains ' ' then .word text
  else .unknown text

/-- An argument that starts with two dashes and is no switch as it stands: the beginning of a long
name will do if no other long name begins so. -/
def abbreviation (text name : String) (value : Option String) : Except UsageError Argument :=
  match Switch.abbreviated name with
  | [] => .ok (unnamed text)
  | [(_, switch)] =>
    match value with
    | none => .ok (.switches (.ok (.bare switch)))
    | some value => .ok (.switches (Cluster.long switch value))
  | several => .error (.ambiguous text (several.map Prod.fst))

def splitAtEquals (text : String) : String × Option String :=
  let chars := text.toList
  let name := String.ofList (chars.takeWhile (· ≠ '='))
  match chars.dropWhile (· ≠ '=') with
  | [] => (name, none)
  | _ :: value => (name, some (String.ofList value))

def ofText (text : String) : Except UsageError Argument :=
  let (name, value) := splitAtEquals text
  match Switch.named? text, text.toList with
  | some switch, _ => .ok (.switches (.ok (.bare switch)))
  | none, '-' :: '-' :: _ =>
    match Switch.named? name, value with
    | some switch, some value => .ok (.switches (Cluster.long switch value))
    | _, _ => abbreviation text name value
  | none, '-' :: letter :: rest =>
    match Switch.short? letter, rest with
    | none, _ => .ok (unnamed text)
    | some switch, '=' :: value => .ok (.switches (Cluster.short switch value))
    | some switch, attached => .ok (.switches (Cluster.short switch attached))
  | none, _ => .ok (.word text)

def ofTexts : List String → Except UsageError (List Argument)
  | [] => .ok []
  | text :: rest =>
    if text = "--" then
      .ok (.separator :: rest.map .word)
    else do
      let first ← ofText text
      let others ← ofTexts rest
      return first :: others

end Argument

inductive Request where
  | help
  | use (path : String) (settings : Settings)
  deriving DecidableEq, Repr

structure Draft where
  settings : Settings := {}
  path : Option String := none
  extras : List String := []
  deriving DecidableEq, Repr

namespace Draft

def extra (draft : Draft) (text : String) : Draft := { draft with extras := draft.extras ++ [text] }

def word (draft : Draft) (text : String) : Draft :=
  if draft.path.isNone then { draft with path := some text } else draft.extra text

def flags (draft : Draft) (flags : List Switch) : Draft :=
  { draft with settings := flags.foldl Settings.flag draft.settings }

def assign (draft : Draft) (switch : Switch) (text : String) : Except UsageError Draft :=
  (draft.settings.assign switch text).map fun settings => { draft with settings }

def request (draft : Draft) : Except UsageError Request :=
  match draft.path, draft.extras with
  | none, _ => .error .programMissing
  | some path, [] => .ok (.use path draft.settings)
  | some _, extras => .error (.unrecognized extras)

end Draft

/-- The second pass.  A request for help is granted at once.  The double dash is passed over next to
the program's path and is an extra anywhere else. -/
def readFrom (draft : Draft) : List Argument → Except UsageError Request
  | [] => draft.request
  | .word text :: .separator :: rest =>
    if draft.path.isNone then readFrom (draft.word text) rest
    else readFrom ((draft.word text).extra "--") rest
  | .word text :: rest => readFrom (draft.word text) rest
  | .separator :: .word text :: rest =>
    if draft.path.isNone then readFrom (draft.word text) rest
    else readFrom ((draft.extra "--").word text) rest
  | .separator :: rest => readFrom (draft.extra "--") rest
  | .unknown text :: rest => readFrom (draft.extra text) rest
  | .switches (.error error) :: _ => .error error
  | .switches (.ok cluster) :: rest =>
    let flagged := draft.flags cluster.flags
    match cluster.ending, rest with
    | .awaits switch, .word text :: rest =>
      if cluster.flags.contains .help then .ok .help
      else do readFrom (← flagged.assign switch text) rest
    | .awaits switch, _ => .error (.valueMissing switch)
    | ending, rest =>
      if cluster.flags.contains .help then .ok .help
      else
        match ending with
        | .value switch text => do readFrom (← flagged.assign switch text) rest
        | _ => readFrom flagged rest

def read (texts : List String) : Except UsageError Request := do
  readFrom {} (← Argument.ofTexts texts)

end Chip8.CommandLine
