import ServiceCli.Files.Text
import ServiceCli.Model.Content
import ServiceCli.Shape.Model
import ServiceCli.Web.ContentCoding
import ServiceCli.Web.Parameter
import ServiceCli.World

set_option autoImplicit false
set_option relaxedAutoImplicit false

namespace ServiceCli.Model

open ServiceCli.Data ServiceCli.Files

/-- The name that stands for standard input. -/
def standardInput : String := "-"

def isBlank (content : String) : Bool := (Text.strip content).isEmpty

def loadInput (world : World) : Outcome Entries :=
  if isBlank world.input then refuseContent .noInput else readContent none world.input

def occurs (word text : String) : Bool := Shape.occursIn word.toList text.toList

def formatOfType (type : String) : Option Format :=
  if occurs "json" type then some .json
  else if occurs "yaml" type || occurs "yml" type then some .yaml
  else none

def readingFault : Text.ReadingFault → Fault
  | .undecodable => .undecodable
  | .notAscii => .malformedEncoding
  | .transformsBytes => .notCharset
  | .transformsText => .wrongKind

/-- The text of a body. Its character set is the one that its type tells, if that is known, and
UTF-8 else. -/
def bodyText (type : String) (body : List UInt8) : Outcome String := do
  if body.isEmpty then return ""
  let charset := (← Web.charsetOfType? type).getD Text.utf8Charset
  (charset.decode body).mapError fun e => .fault (readingFault e)

def loadAddress (world : World) (address : String) : Outcome Entries :=
  match world.fetch address with
  | .failure reason => refuseContent (.fetchFailed address reason)
  | .answer status headers body =>
    if !Web.Headers.isWritable headers then faulty .unencodable
    else match Web.ContentCoding.undoAll (Web.ContentCoding.ofHeaders headers) body with
      | .error cause => refuseContent (.fetchFailed address (Web.expansionReason cause))
      | .ok body =>
        if status < 200 || 299 < status then refuseContent (.status status address)
        else do
          let type := (Web.Headers.value? headers "content-type").getD ""
          readContent (formatOfType type) (← bodyText type body)

def formatOfSuffix (suffix : String) : Option Format :=
  if suffix = ".json" then some .json
  else if suffix = ".yaml" || suffix = ".yml" then some .yaml
  else none

def readReason (name : String) (cause : SystemError) : String :=
  s!"{cause.message}: {Literal.quote name}"

def loadFile (files : System) (name : String) : Outcome Entries := do
  let path : Path := .ofText name
  match files.isFile path with
  | .error e => .error e.failure
  | .ok false => refuseContent (.fileNotFound name)
  | .ok true =>
    match files.readText path with
    | .ok content =>
      if isBlank content then refuseContent (.emptyFile name)
      else readContent (formatOfSuffix path.suffix) content
    | .error (.path (.refused cause)) =>
      refuseContent (.unreadable name (readReason path.text cause))
    | .error e => .error e.failure

def isAddress (source : String) : Bool :=
  "http://".toList.isPrefixOf source.toList || "https://".toList.isPrefixOf source.toList

def load (world : World) (source : String) : Outcome Entries :=
  if source = standardInput then loadInput world
  else if isAddress source then loadAddress world source
  else loadFile world.files source

end ServiceCli.Model
