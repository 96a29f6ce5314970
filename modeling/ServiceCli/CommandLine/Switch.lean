import ServiceCli.Settings.Basic

/-!
Reading the arguments of a command. Arguments are read from left to right; those that begin with a
dash are switches, and a switch may take a value. A long name may carry its value after an equals
sign; short names may be bundled after one dash, and what follows a short name that takes a value is
the value. Two dashes end the switches. What is not a switch is an operand.
-/

set_option autoImplicit false
set_option relaxedAutoImplicit false

namespace ServiceCli.CommandLine

open ServiceCli.Settings

/-- What a switch says. -/
inductive Meaning where
  | version
  | help
  | json
  | plain
  | colorless
  | quiet
  | verbose
  | dryRun
  | setting (field : Setting)
  deriving DecidableEq, Repr

def Meaning.takesValue : Meaning → Bool
  | .setting _ => true
  | _ => false

/-- A switch: what it says, its names, and its description. -/
structure Switch where
  meaning : Meaning
  names : List String
  description : String
  deriving Repr

/-- What is wrong with a switch. -/
inductive SwitchError where
  | unknown (name : String)
  | missingValue (name : String)
  | unwantedValue (name : String)
  deriving DecidableEq, Repr

/-- What was read: what switches say, in order, and the operands. -/
structure Arguments where
  given : List (Meaning × String)
  operands : List String
  deriving Repr

/-- A switch that waits for its value: the name it was given by, and what it says. -/
structure Waiting where
  name : String
  meaning : Meaning

/-- What an argument of switches says, and the switch at its end that waits for its value. -/
abbrev Said := List (Meaning × String) × Option Waiting

/-- The two dashes that end the switches and begin the long names. -/
def twoDashes : List Char := ['-', '-']

def isLong (name : String) : Bool := twoDashes.isPrefixOf name.toList

def meaningOf? (switches : List Switch) (name : String) : Option Meaning :=
  (switches.find? fun s => s.names.contains name).map (·.meaning)

/-- A name and the value attached to it by an equals sign. -/
def attached (argument : List Char) : String × Option String :=
  let name := argument.takeWhile (· != '=')
  match argument.drop name.length with
  | [] => (String.ofList name, none)
  | _ :: value => (String.ofList name, some (String.ofList value))

def readBundle (switches : List Switch) : List Char → Except SwitchError Said
  | [] => .ok ([], none)
  | c :: rest =>
    let name := String.ofList ['-', c]
    match meaningOf? switches name with
    | none => .error (.unknown name)
    | some meaning =>
      if meaning.takesValue then
        if rest.isEmpty then .ok ([], some ⟨name, meaning⟩)
        else .ok ([(meaning, String.ofList rest)], none)
      else do
        let (said, waiting) ← readBundle switches rest
        return ((meaning, "") :: said, waiting)

def readLong (name : String) (meaning : Meaning) : Option String → Except SwitchError Said
  | some value =>
    if meaning.takesValue then .ok ([(meaning, value)], none) else .error (.unwantedValue name)
  | none =>
    if meaning.takesValue then .ok ([], some ⟨name, meaning⟩) else .ok ([(meaning, "")], none)

/-- What an argument that begins with a dash says. -/
def readSwitch (switches : List Switch) (argument : List Char) : Except SwitchError Said :=
  let (name, value) := attached argument
  if isLong name then
    match meaningOf? switches name with
    | some meaning => readLong name meaning value
    | none => .error (.unknown name)
  else readBundle switches (argument.drop 1)

/-- Whether an argument is a switch; a single dash is none. -/
def isSwitch : List Char → Bool
  | '-' :: _ :: _ => true
  | _ => false

/-- Reads arguments while a switch may wait for its value. -/
def readFrom (switches : List Switch) (operandsEnd : Bool) :
    Option Waiting → List String → Except SwitchError Arguments
  | none, [] => .ok ⟨[], []⟩
  | some w, [] => .error (.missingValue w.name)
  | some w, value :: rest => do
    let more ← readFrom switches operandsEnd none rest
    return { more with given := (w.meaning, value) :: more.given }
  | none, argument :: rest =>
    if argument.toList = twoDashes then .ok ⟨[], rest⟩
    else if isSwitch argument.toList then do
      let (said, waiting) ← readSwitch switches argument.toList
      let more ← readFrom switches operandsEnd waiting rest
      return { more with given := said ++ more.given }
    -- where operands end the switches, all after the first one are operands
    else if operandsEnd then .ok ⟨[], argument :: rest⟩
    else do
      let more ← readFrom switches operandsEnd none rest
      return { more with operands := argument :: more.operands }

def readArguments (switches : List Switch) (operandsEnd : Bool) (arguments : List String) :
    Except SwitchError Arguments :=
  readFrom switches operandsEnd none arguments

namespace Arguments

def has (a : Arguments) (meaning : Meaning) : Bool := a.given.any fun g => g.1 = meaning

/-- The settings that were given, in order; the last one of a setting counts. -/
def settings (a : Arguments) : List (Setting × String) :=
  a.given.filterMap fun
    | (.setting field, text) => some (field, text)
    | _ => none

end Arguments

end ServiceCli.CommandLine
