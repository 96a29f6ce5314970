import ServiceCli.CommandLine.Inspect
import ServiceCli.CommandLine.Request
import ServiceCli.Settings.Resolve

set_option autoImplicit false
set_option relaxedAutoImplicit false

namespace ServiceCli.CommandLine

open ServiceCli.Console ServiceCli.Files ServiceCli.Settings

/-- How a run ends: what it did, and its status. -/
structure Conclusion where
  record : Record
  status : Nat
  deriving Repr

def misuseStatus : Nat := 2

/-- The status of an unexpected failure. -/
def crashStatus : Nat := 1

/-- The format of data that a command line asks for; JSON wins. -/
def askedFormat (a : Arguments) : Option Format :=
  if a.has .json then some .json else if a.has .plain then some .plain else none

def mannerOf (w : World) (a : Arguments) : Manner :=
  .ofWorld w (askedFormat a) (a.has .colorless) (a.has .quiet) (a.has .verbose)

/-- The record of a session, with an error told at its end. -/
def Record.withError (r : Record) (m : Manner) (text : String) : Outcome Record := do
  return { r with messages := r.messages ++ (← m.message .error text) }

def crashLog (w : World) : Path :=
  (dataDirectory w).join (.ofText ("logs/crash-" ++ w.time ++ ".log"))

def crashText (f : Failure) : String := (f.message?.getD (reprStr f)) ++ "\n"

/-- Ends a run after an unexpected failure. -/
def crash (w : World) (m : Manner) (r : Record) (f : Failure) : Outcome Conclusion :=
  let path := crashLog w
  match r.files.writeFile path (Text.encode (crashText f)) with
  | (files, .ok ()) => do
    let r ← { r with files := files }.withError m
      ("Unexpected error. Debug log: " ++ path.text)
    return ⟨r, crashStatus⟩
  | (_, .error e) => .error e.failure

/-- Ends a run whose session is over. -/
def conclude (w : World) (m : Manner) : Outcome Unit × Record → Outcome Conclusion
  | (.ok (), r) => .ok ⟨r, 0⟩
  | (.error f, r) =>
    match f.exitCode?, f.message? with
    | some status, some text => do return ⟨← r.withError m text, status⟩
    | _, _ => crash w m r f

/-- The session of a request, and the status it ends with where it succeeds. -/
def sessionOf (w : World) (m : Manner) : Request → Session Unit
  | .version => Session.print ("shapecli " ++ Package.generatorVersion ++ "\n")
  | .help command => Session.print command.helpPage
  | .emptyLine command => Session.print command.helpPage
  | .build given dryRun => build w m given dryRun
  | .operations given => inspectOperations w m given
  | .parameters operation given => inspectParameters w m operation given

def answer (w : World) (m : Manner) (request : Request) : Outcome Conclusion := do
  let conclusion ← conclude w m ((sessionOf w m request).execute w.files)
  match request with
  | .emptyLine _ => return { conclusion with status := misuseStatus }
  | _ => return conclusion

/-- Runs the program with a command line. -/
def run (w : World) (line : List String) : Outcome Conclusion :=
  match requestOf line with
  | .ok (a, request) => answer w (mannerOf w a) request
  | .error misuse =>
    .ok ⟨{ Record.ofFiles w.files with messages := misuse.page (widthOf w) }, misuseStatus⟩

end ServiceCli.CommandLine
