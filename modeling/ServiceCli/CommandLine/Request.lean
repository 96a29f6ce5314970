import ServiceCli.CommandLine.Command

/-!
What a command line asks for. The switches of each command stand before its operands; the first
operand of a group names the command that the other arguments belong to. A switch that asks for help
or for the version is answered first, unless the arguments of its command cannot be read.
-/

set_option autoImplicit false
set_option relaxedAutoImplicit false

namespace ServiceCli.CommandLine

open ServiceCli.Settings

/-- What is asked for. An empty command line of a group is answered with its help page, but counts
as a misuse. -/
inductive Request where
  | version
  | help (command : Command)
  | emptyLine (command : Command)
  | build (given : List (Setting × String)) (dryRun : Bool)
  | operations (given : List (Setting × String))
  | parameters (operation : String) (given : List (Setting × String))
  deriving Repr

/-- The request that is answered before all others, if a command's arguments hold it. -/
def urgent? (command : Command) (a : Arguments) : Option Request :=
  a.given.findSome? fun
    | (.version, _) => some .version
    | (.help, _) => some (.help command)
    | _ => none

def argumentsOf (command : Command) (arguments : List String) : Except Misuse Arguments :=
  (readArguments command.switches command.isGroup arguments).mapError (.badSwitch command)

def buildRequest (a : Arguments) : Except Misuse Request :=
  match a.operands with
  | [] => .ok (.build a.settings (a.has .dryRun))
  | operands => .error (.extraOperands .build operands)

def operationsRequest (a : Arguments) : Except Misuse Request :=
  match a.operands with
  | [] => .ok (.operations a.settings)
  | operands => .error (.extraOperands .operations operands)

/-- The request of an inspection of one operation's parameters. -/
def parametersRequest (a : Arguments) : Except Misuse Request :=
  match a.operands with
  | [operation] => .ok (.parameters operation a.settings)
  | [] => .error (.missingOperand .parameters "OPERATION")
  | _ :: extra => .error (.extraOperands .parameters extra)

/-- Reads the arguments of a command that leads to no other. -/
def leafRequest (command : Command) (finish : Arguments → Except Misuse Request)
    (arguments : List String) : Except Misuse Request := do
  let a ← argumentsOf command arguments
  match urgent? command a with
  | some request => return request
  | none => finish a

/-- Reads the operands of a group: the name of a command below it, and that command's arguments. -/
def groupRequest (group : Command) (follow : Command → List String → Except Misuse Request) :
    List String → Except Misuse Request
  | [] => .error (.noCommand group)
  | name :: rest =>
    match group.below.lookup name with
    | some command => follow command rest
    | none => do
      -- what names no command may still be followed by switches of the group, which come first
      let a ← argumentsOf group (name :: rest)
      match urgent? group a with
      | some request => return request
      | none => .error (.unknownCommand group name)

def inspectRequest (arguments : List String) : Except Misuse Request := do
  if arguments.isEmpty then return .emptyLine .inspect
  let a ← argumentsOf .inspect arguments
  match urgent? .inspect a with
  | some request => return request
  | none => groupRequest .inspect inspection a.operands
where
  /-- Reads the arguments of a command below the one that inspects. -/
  inspection (command : Command) (arguments : List String) : Except Misuse Request :=
    if command = .parameters then leafRequest .parameters parametersRequest arguments
    else leafRequest .operations operationsRequest arguments

/-- Reads the arguments of a command below the program. -/
def commandRequest (command : Command) (arguments : List String) : Except Misuse Request :=
  if command = .inspect then inspectRequest arguments
  else leafRequest .build buildRequest arguments

/-- Reads a command line: what is said about the program as a whole, and the request. -/
def requestOf (line : List String) : Except Misuse (Arguments × Request) := do
  if line.isEmpty then return (⟨[], []⟩, .emptyLine .program)
  let a ← argumentsOf .program line
  match urgent? .program a with
  | some request => return (a, request)
  | none => return (a, ← groupRequest .program commandRequest a.operands)

end ServiceCli.CommandLine
