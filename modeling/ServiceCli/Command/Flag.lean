import ServiceCli.Command.Name
import ServiceCli.Command.Reading

set_option autoImplicit false
set_option relaxedAutoImplicit false

namespace ServiceCli.Command

open ServiceCli.Shape

/-- A flag. One that is repeatable may be given several times and collects a list. -/
structure Flag where
  name : String
  parameter : String
  placeholder : String
  required : Bool
  reading : Reading
  repeatable : Bool
  description : String
  deriving DecidableEq, Repr

namespace Flag

def option (f : Flag) : String := "--" ++ f.name

/-- The flag with its placeholder; one that may be left out stands in brackets. -/
def usage (f : Flag) : String :=
  let text := f.option ++ " " ++ f.placeholder
  if f.required then text else "[" ++ text ++ "]"

end Flag

def tokenName : String := "token"

def tokenFlag : Flag where
  name := tokenName
  parameter := "auth_token"
  placeholder := "<token>"
  required := true
  reading := .text
  repeatable := false
  description := "Bearer token for authentication"

/-- The names that the body of a generated function binds or imports. -/
def bodyNames : List String := [
  "params_file", "auth_token", "params", "rt", "typer", "models", "os", "client", "request",
  "result", "exc"]

/-- The names that every module of the generated language knows. -/
def builtinNames : List String := [
  "ArithmeticError", "AssertionError", "AttributeError", "BaseException", "BaseExceptionGroup",
  "BlockingIOError", "BrokenPipeError", "BufferError", "BytesWarning", "ChildProcessError",
  "ConnectionAbortedError", "ConnectionError", "ConnectionRefusedError", "ConnectionResetError",
  "DeprecationWarning", "EOFError", "Ellipsis", "EncodingWarning", "EnvironmentError", "Exception",
  "ExceptionGroup", "False", "FileExistsError", "FileNotFoundError", "FloatingPointError",
  "FutureWarning", "GeneratorExit", "IOError", "ImportError", "ImportWarning", "IndentationError",
  "IndexError", "InterruptedError", "IsADirectoryError", "KeyError", "KeyboardInterrupt",
  "LookupError", "MemoryError", "ModuleNotFoundError", "NameError", "None", "NotADirectoryError",
  "NotImplemented", "NotImplementedError", "OSError", "OverflowError", "PendingDeprecationWarning",
  "PermissionError", "ProcessLookupError", "RecursionError", "ReferenceError", "ResourceWarning",
  "RuntimeError", "RuntimeWarning", "StopAsyncIteration", "StopIteration", "SyntaxError",
  "SyntaxWarning", "SystemError", "SystemExit", "TabError", "TimeoutError", "True", "TypeError",
  "UnboundLocalError", "UnicodeDecodeError", "UnicodeEncodeError", "UnicodeError",
  "UnicodeTranslateError", "UnicodeWarning", "UserWarning", "ValueError", "Warning",
  "ZeroDivisionError", "abs", "aiter", "all", "anext", "any", "ascii", "bin", "bool", "breakpoint",
  "bytearray", "bytes", "callable", "chr", "classmethod", "compile", "complex", "copyright",
  "credits", "delattr", "dict", "dir", "divmod", "enumerate", "eval", "exec", "exit", "filter",
  "float", "format", "frozenset", "getattr", "globals", "hasattr", "hash", "help", "hex", "id",
  "input", "int", "isinstance", "issubclass", "iter", "len", "license", "list", "locals", "map",
  "max", "memoryview", "min", "next", "object", "oct", "open", "ord", "pow", "print", "property",
  "quit", "range", "repr", "reversed", "round", "set", "setattr", "slice", "sorted",
  "staticmethod", "str", "sum", "super", "tuple", "type", "vars", "zip"]

/-- The names that no parameter of a flag may have. -/
def reservedNames : List String := bodyNames ++ builtinNames

/-- The first of a name, the name with one underscore after it, with two, … that is not among the
names given; at most `fuel` underscores are added. -/
def freeNameWithin (used : List String) : Nat → String → String
  | 0, name => name
  | fuel + 1, name =>
    if used.contains name then freeNameWithin used fuel (name ++ "_") else name

/-- The first of a name, the name with one underscore after it, with two, … that is not used; there
are more candidates than used names. -/
def freeName (used : List String) (name : String) : String :=
  freeNameWithin used used.length name

/-- A list whose items can each be given in one repetition of its flag. -/
def isRepeatable : TypeTree → Bool
  | .list (.blob _) => true
  | .list member => !member.isCompound
  | _ => false

def flagReading (type : TypeTree) : Reading :=
  match type with
  | .list member => if isRepeatable type then readingOf member else readingOf type
  | _ => readingOf type

/-- What stands for the value of a flag in its usage. -/
def placeholderOf (f : Field) : String :=
  match f.type with
  | .blob _ => "<file-path>"
  | .list _ => "<" ++ f.name ++ "...>"
  | _ => "<" ++ f.name ++ ">"

/-- What the description of a flag says about the way its value is given. -/
def readingNote : TypeTree → String
  | .blob streaming => if streaming then " (file path, supports streaming)" else " (file path)"
  | .document => " (JSON or @file.json)"
  | .list (.blob _) => " (file paths, repeat the flag)"
  | type => if readingOf type = .json then " (JSON or @file.json)" else ""

def descriptionOf (f : Field) : String :=
  let text := if f.documentation.isEmpty then f.name ++ " parameter" else f.documentation
  text ++ readingNote f.type ++ (if f.required then " [required]" else "")

def flagOf (parameter : String) (f : Field) : Flag where
  name := f.name
  parameter := parameter
  placeholder := placeholderOf f
  required := f.required
  reading := flagReading f.type
  repeatable := isRepeatable f.type
  description := descriptionOf f

/-- The flags of members, when some names are used already. -/
def flagsFrom (used : List String) : List Field → List Flag
  | [] => []
  | f :: rest =>
    let parameter := freeName used (identifier f.name)
    flagOf parameter f :: flagsFrom (parameter :: used) rest

/-- The flags of an operation with the given input. -/
def flagsOf (fields : List Field) (needsToken : Bool) : List Flag :=
  flagsFrom reservedNames fields ++ (if needsToken then [tokenFlag] else [])

end ServiceCli.Command
