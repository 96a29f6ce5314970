import ServiceCli.CommandLine.Build

set_option autoImplicit false
set_option relaxedAutoImplicit false

namespace ServiceCli.CommandLine

open ServiceCli.Command ServiceCli.Console ServiceCli.Data ServiceCli.Package ServiceCli.Service
  ServiceCli.Settings

def inspected (w : World) (given : List (Setting × String)) : Outcome (Value × String) := do
  let s ← settingsOf w given
  match s.given? .model with
  | none => .error (.usage .missingModel)
  | some source =>
    let model ← loadModel w source
    return (model, ← chosenService model s)

def readService (w : World) (m : Manner) (given : List (Setting × String)) : Session Service := do
  let (model, id) ← inspected w given
  for n in readingNotices model id do
    Session.note m n
  extract model id

def operationRow (policy : AuthPolicy) (op : Operation) : List String := [
  op.name, op.method, op.route, op.input.elim "-" (·.shape), if policy op then "token" else ""]

def operationTable (service : Service) : Table where
  title := some s!"{service.name} -- Operations ({service.operations.length})"
  headers := ["Operation", "Method", "Route", "Input", "Auth"]
  rows := service.operations.map (operationRow (bearerAuth service))

def inspectOperations (w : World) (m : Manner) (given : List (Setting × String)) :
    Session Unit := do
  let service ← readService w m given
  Session.print (← m.table (operationTable service))

/-- What stands for the name of the command in plans that are only looked at. -/
def anyCommand : String := "<cli>"

/-- The name of the reading of a flag; text is read as it is. -/
def readingText (f : Flag) : String := if f.reading.name.isEmpty then "string" else f.reading.name

def flagEntry (f : Flag) : Value := .map [
  (.str "flag", .str f.option), (.str "placeholder", .str f.placeholder),
  (.str "required", .bool f.required), (.str "parser", .str (readingText f)),
  (.str "multiple", .bool f.repeatable)]

def planEntry (p : Plan) : Value := .map [
  (.str "operation", .str p.operation.name), (.str "flags", .list (p.flags.map flagEntry)),
  (.str "required", .list (p.required.map .str))]

def flagTable (p : Plan) : Table where
  title := some s!"{p.operation.name} -- Flags"
  headers := ["Flag", "Placeholder", "Required", "Parser"]
  rows := p.flags.map fun f =>
    [f.option, f.placeholder, if f.required then "yes" else "", readingText f]

def planLines (p : Plan) : List String :=
  ["", "Required: " ++ (if p.required.isEmpty then "-" else ", ".intercalate p.required)]
    ++ (if p.outline.isEmpty then [] else "" :: "Parameters:" :: p.outline.map OutlineLine.text)

def planText (m : Manner) (p : Plan) : Outcome String := do
  if m.format = .json then return Manner.data (← Report.json (planEntry p))
  else return (← m.table (flagTable p)) ++ String.join ((planLines p).map Manner.data)

def operationNamed (service : Service) (name : String) : Outcome Operation :=
  match service.operations.find? fun op => op.name = name with
  | some op => .ok op
  | none => .error (.usage (.unknownOperation name (service.operations.map (·.name))))

def inspectParameters (w : World) (m : Manner) (name : String) (given : List (Setting × String)) :
    Session Unit := do
  let service ← readService w m given
  let op ← operationNamed service name
  let plan ← planOf op anyCommand (bearerAuth service op)
  Session.print (← planText m plan)

end ServiceCli.CommandLine
