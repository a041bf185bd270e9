import RiskGauge.Text.CharClass

/-!
# Options among the arguments of a command

An argument that begins with a dash is an option, unless it looks like a negative number or has a blank in it.
A long option may be cut short as long as one option only begins like that, and its value may stand behind an
equals sign. Options of one letter may be written together. Behind two dashes all arguments are plain.
-/

namespace RiskGauge.CommandLine

/-- An option of a command. -/
structure Flag where
  /-- The ways to write it, the first of which names it. -/
  names : List String
  /-- It needs a value. -/
  takesValue : Bool := false
  /-- The value will do. -/
  accepts : String → Bool := fun _ => true

/-- Why a command is not run. -/
inductive Refusal where
  /-- The arguments are wrong. -/
  | wrong
  /-- The arguments ask for help. -/
  | help
deriving DecidableEq, Repr

/-- A value in the same argument as its option, and whether an equals sign stands in front of it. -/
structure Attached where
  equals : Bool
  text : List Char

/-- What an argument is. -/
inductive Role where
  | plain
  /-- Two dashes. -/
  | dashes
  /-- An option that the command does not have. -/
  | unknown
  /-- An option as it is written, with what is attached to it. -/
  | flag (f : Flag) (name : String) (attached : Option Attached)

/-- The option is written with two dashes in front. -/
def isLong (name : List Char) : Bool :=
  name.take 2 == ['-', '-']

/-- All ways to write the options. -/
def spellings (flags : List Flag) : List (Flag × String) :=
  flags.flatMap fun f => f.names.map fun name => (f, name)

/-- The option that is written like this. -/
def spelled? (flags : List Flag) (name : List Char) : Option (Flag × String) :=
  (spellings flags).find? fun s => s.2.toList == name

/-- An argument cut at its first equals sign. -/
def cut (arg : List Char) : List Char × Option Attached :=
  let name := arg.takeWhile (· != '=')
  match arg.drop name.length with
  | [] => (name, none)
  | _ :: text => (name, some { equals := true, text })

/-- The options that an argument may mean which names none of them in full. -/
def candidates (flags : List Flag) (arg : List Char) : List Role :=
  if isLong arg then
    let (start, attached) := cut arg
    (spellings flags).filterMap fun (f, name) =>
      if start.isPrefixOf name.toList then some (.flag f name attached) else none
  else
    (spellings flags).filterMap fun (f, name) =>
      if name.toList == arg.take 2 then some (.flag f name (some { equals := false, text := arg.drop 2 }))
      else if arg.isPrefixOf name.toList then some (.flag f name none)
      else none

/-- The argument looks like a negative number: digits with a point in front of some of them, or none. -/
def isNegative (arg : List Char) : Bool :=
  match arg with
  | '-' :: rest =>
    let whole := rest.takeWhile Text.isDigit
    match rest.drop whole.length with
    | [] => !whole.isEmpty
    | c :: fraction => c == '.' && !fraction.isEmpty && fraction.all Text.isDigit
  | _ => false

/-- What an argument in front of two dashes is. -/
def role (flags : List Flag) (arg : List Char) : Except Refusal Role :=
  if arg.head? != some '-' then .ok .plain
  else
    match spelled? flags arg with
    | some (f, name) => .ok (.flag f name none)
    | none =>
      if arg.length == 1 then .ok .plain
      else
        let (start, attached) := cut arg
        match attached, spelled? flags start with
        | some a, some (f, name) => .ok (.flag f name (some a))
        | _, _ =>
          match candidates flags arg with
          | [r] => .ok r
          | [] => .ok (if isNegative arg || arg.contains ' ' then .plain else .unknown)
          | _ => .error .wrong

/-- The arguments with what they are. -/
def roles (flags : List Flag) : List String → Except Refusal (List (String × Role))
  | [] => .ok []
  | "--" :: rest => .ok (("--", .dashes) :: rest.map fun arg => (arg, .plain))
  | arg :: rest => do
    let r ← role flags arg.toList
    return (arg, r) :: (← roles flags rest)

end RiskGauge.CommandLine
