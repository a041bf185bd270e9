import RiskGauge.CommandLine.Flag

/-!
# The arguments of a command

`Usage.read` tells the options of a command from its plain arguments. Every place of the usage takes its plain
arguments at one stretch; arguments for which there is no place are refused.
-/

namespace RiskGauge.CommandLine

/-- How many plain arguments a place takes. -/
inductive Place where
  | one
  | many
deriving DecidableEq, Repr

/-- What a command takes. -/
structure Usage where
  flags : List Flag
  places : List Place

/-- The option that asks for help. -/
def helpFlag : Flag where
  names := ["--help", "-h"]

/-- What was found among arguments. -/
structure Found where
  /-- The options in order, by name, with their values. -/
  values : List (String × String) := []
  /-- The plain arguments of every place. -/
  places : List (List String) := []
  /-- Some argument was not understood. -/
  surplus : Bool := false

namespace Found

/-- The value of an option that is given; the last one counts. -/
def value? (found : Found) (name : String) : Option String :=
  (found.values.reverse.find? fun v => v.1 == name).map Prod.snd

/-- The option is given. -/
def has (found : Found) (name : String) : Bool :=
  (found.value? name).isSome

end Found

/-- The argument is plain. -/
def isPlain : Role → Bool
  | .plain => true
  | _ => false

/-- The argument is two dashes. -/
def isDashes : Role → Bool
  | .dashes => true
  | _ => false

/-- How many arguments a place takes from the front: two dashes in front of a plain one and behind it belong to
it. -/
def Place.take? (place : Place) (args : List (String × Role)) : Option Nat :=
  let front := args.takeWhile fun a => isDashes a.2
  match args.drop front.length with
  | [] => none
  | a :: rest =>
    if isPlain a.2 then
      let more := rest.takeWhile fun a => isDashes a.2 || (place == .many && isPlain a.2)
      some (front.length + 1 + more.length)
    else none

/-- The arguments in front for as many places as there are enough for: their number, and what every place
gets, without the first two dashes. -/
def takePlaces : List Place → List (String × Role) → Nat × List (List String)
  | [], _ => (0, [])
  | place :: rest, args =>
    match place.take? args with
    | none => (0, [])
    | some n =>
      let (more, others) := takePlaces rest (args.drop n)
      (n + more, ((args.take n).map Prod.fst).erase "--" :: others)

/-- What an argument with options asks for: the options with their values, whether something in it was not
understood, and whether the next argument was used. -/
structure Taken where
  values : List (Flag × String) := []
  surplus : Bool := false
  usesNext : Bool := false

/-- The options in one argument. `next` is the argument behind it if that is a plain one. -/
def takeFlags (flags : List Flag) (next : Option String) :
    Nat → Flag → String → Option Attached → Except Refusal Taken
  | 0, _, _, _ => .error .wrong
  | fuel + 1, f, name, attached =>
    match attached with
    | none =>
      if f.takesValue then
        match next with
        | some v => .ok { values := [(f, v)], usesNext := true }
        | none => .error .wrong
      else .ok { values := [(f, "")] }
    | some a =>
      if f.takesValue then .ok { values := [(f, String.ofList a.text)] }
      else
        match a.text with
        | [] => .error .wrong
        | c :: rest =>
          if isLong name.toList || a.equals || c == '-' then .error .wrong
          else
            match spelled? flags ['-', c] with
            | none => .ok { values := [(f, "")], surplus := true }
            | some (g, other) => do
              let behind := match rest with
                | [] => none
                | '=' :: text => some { equals := true, text }
                | text => some { equals := false, text }
              let taken ← takeFlags flags next fuel g other behind
              return { taken with values := (f, "") :: taken.values }

/-- Adds options one after the other; a wrong value or the wish for help ends it. -/
def addValues (found : Found) : List (Flag × String) → Except Refusal Found
  | [] => .ok found
  | (f, v) :: rest =>
    let name := f.names.headD ""
    if name == helpFlag.names.headD "" then .error .help
    else if f.takesValue && !f.accepts v then .error .wrong
    else addValues { found with values := found.values ++ [(name, v)] } rest

/-- Reads arguments one after the other, for the places that are left. -/
def readArguments (flags : List Flag) : Nat → List Place → Found → List (String × Role) → Except Refusal Found
  | 0, _, _, _ => .error .wrong
  | _ + 1, places, found, [] => if places.isEmpty then .ok found else .error .wrong
  | fuel + 1, places, found, (arg, r) :: rest =>
    match r with
    | .unknown => readArguments flags fuel places { found with surplus := true } rest
    | .flag f name attached => do
      let next := match rest with
        | (v, .plain) :: _ => some v
        | _ => none
      let taken ← takeFlags flags next (arg.length + 1) f name attached
      let found ← addValues { found with surplus := found.surplus || taken.surplus } taken.values
      readArguments flags fuel places found (if taken.usesNext then rest.drop 1 else rest)
    | _ =>
      let args := (arg, r) :: rest
      match takePlaces places args with
      | (0, _) => readArguments flags fuel places { found with surplus := true } rest
      | (n, taken) =>
        readArguments flags fuel (places.drop taken.length) { found with places := found.places ++ taken }
          (args.drop n)

/-- Reads the arguments of a command. -/
def Usage.read (usage : Usage) (args : List String) : Except Refusal Found := do
  let flags := helpFlag :: usage.flags
  let found ← readArguments flags (args.length + 1) usage.places {} (← roles flags args)
  if found.surplus then .error .wrong else return found

end RiskGauge.CommandLine
