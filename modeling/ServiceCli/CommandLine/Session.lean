import ServiceCli.Console.Manner
import ServiceCli.Console.Panel
import ServiceCli.Package.Compile

/-!
Sessions: steps that put text on the two output streams and change files. A session that fails keeps
what it did before. Notices are what a run tells about its progress when it is asked to tell much;
the notices of a piece of work are those of its stages as far as it gets.
-/

set_option autoImplicit false
set_option relaxedAutoImplicit false

namespace ServiceCli.CommandLine

open ServiceCli.Command ServiceCli.Console ServiceCli.Data ServiceCli.Files ServiceCli.Package
  ServiceCli.Service ServiceCli.Settings

/-- What a session has done: the files it leaves, and the texts on its two streams. -/
structure Record where
  files : System
  output : String
  messages : String
  deriving Repr

/-- The record of a session that has done nothing yet. -/
def Record.ofFiles (files : System) : Record := ⟨files, "", ""⟩

abbrev Session := ExceptT Failure (StateM Record)

namespace Session

def print (text : String) : Session Unit := modify fun r => { r with output := r.output ++ text }

def report (text : String) : Session Unit :=
  modify fun r => { r with messages := r.messages ++ text }

def tell (m : Manner) (kind : Kind) (text : String) : Session Unit := do
  report (← m.message kind text)

def execute (s : Session Unit) (files : System) : Outcome Unit × Record :=
  (ExceptT.run s).run (Record.ofFiles files)

end Session

/-- A notice. -/
inductive Notice where
  | settings (entries : Entries)
  | extracted (count : Nat) (service : String) (asksForBearer : Bool)
  | compiling (service : String) (count : Nat)
  | planned (operation : String) (flags : Nat) (needsToken : Bool)
  | wrote (path : Path) (size : Nat)
  deriving Repr

def truthText (b : Bool) : String := Literal.ofValue (.bool b)

def Notice.shown (m : Manner) : Notice → Outcome String
  | .settings entries => m.message .debug ("settings: " ++ Literal.ofValue (.map entries))
  | .extracted count service bearer =>
    .ok (logged m.width .debug
      s!"Extracted {count} operations from {service} (bearer auth: {truthText bearer})")
  | .compiling service count =>
    .ok (logged m.width .info s!"Compiling {service} ({count} operations)")
  | .planned operation flags token =>
    .ok (logged m.width .debug s!"Operation {operation}: {flags} flag(s), auth={truthText token}")
  | .wrote path size => .ok (logged m.width .debug s!"Wrote {path.text} ({size} bytes)")

/-- Gives a notice, when much is to be told. -/
def Session.note (m : Manner) (n : Notice) : Session Unit := do
  if m.verbose then report (← n.shown m)

def settingEntries (s : Settings) : Entries :=
  Setting.all.filterMap fun field => (s field).map fun text => (.str field.name, .str text)

def readingNotices (model : Value) (id : String) : List Notice :=
  match listingOf model id with
  | .ok l => [.extracted l.operations.length id l.requiresAuth]
  | .error _ => []

def planningNotices (command : String) (policy : AuthPolicy) : List Operation → List Notice
  | [] => []
  | op :: rest =>
    match planOf op command (policy op) with
    | .ok plan =>
      .planned op.name plan.flags.length (policy op) :: planningNotices command policy rest
    | .error _ => []

def assemblingNotices (service : Service) (s : Settings) : List Notice :=
  .compiling service.ref.id service.operations.length ::
    match chosenCommand service s with
    | .ok command => planningNotices command (bearerAuth service) service.operations
    | .error _ => []

def compilingNotices (model : Value) (s : Settings) : List Notice :=
  match chosenService model s with
  | .error _ => []
  | .ok id =>
    readingNotices model id ++
      match extract model id with
      | .ok service => assemblingNotices service s
      | .error _ => []

end ServiceCli.CommandLine
