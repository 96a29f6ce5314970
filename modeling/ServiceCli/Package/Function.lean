import ServiceCli.Command.Plan
import ServiceCli.Package.Meta
import ServiceCli.Source.Line
import ServiceCli.Text.Split

set_option autoImplicit false
set_option relaxedAutoImplicit false

namespace ServiceCli.Package

open ServiceCli.Command ServiceCli.Conversion ServiceCli.Service ServiceCli.Source

/-- The mark before a paragraph whose lines are kept. -/
def keepLines : String := String.singleton (Char.ofNat 8)

def summaryOf (op : Operation) : String :=
  if op.documentation.isEmpty then "Invoke the " ++ op.name ++ " operation." else op.documentation

/-- The paragraph with the parameters; an operation without parameters has none. -/
def parameterParagraph (outline : List OutlineLine) : List String :=
  if outline.isEmpty then []
  else [keepLines, "Parameters:"] ++ outline.map OutlineLine.text ++ [""]

/-- The parts of a help text, each on a line of its own; a part may itself have several lines. -/
def helpParts (m : Meta) (plan : Plan) : List String :=
  [summaryOf plan.operation, "", keepLines,
    "Synopsis: " ++ m.command ++ " " ++ plan.operation.name ++ " [@params.json] "
      ++ " ".intercalate (plan.flags.map Flag.usage), ""]
  ++ parameterParagraph plan.outline
  ++ [keepLines, "Examples:", "  Using flags:"]
  ++ (Text.lines (Text.joinLines plan.usageExample)).map ("    " ++ ·)
  ++ ["  Using a parameter file with overrides:", "    " ++ plan.mixedExample, "", keepLines,
    plan.fileExample]

def helpText (m : Meta) (plan : Plan) : String := Text.joinLines (helpParts m plan)

/-- A step of a generated function. -/
inductive Step where
  | merge (flags : List Flag)
  | convert (statements : List Statement)
  | validate (required : List String)
  | makeClient (takesToken : Bool)
  | buildInput (shape : String)
  | callClient (method : String)
  | sendInput (method : String) (closesStreams : Bool)
  | printResult
  deriving Repr

def methodName (op : Operation) : String := identifier op.name

/-- The step that converts parameters; none where nothing is to be converted. -/
def convertStep (statements : List Statement) : List Step :=
  if (linesOf statements).isEmpty then [] else [.convert statements]

def callSteps (plan : Plan) : List Step :=
  let method := methodName plan.operation
  match plan.operation.input with
  | some payload => [.buildInput payload.shape, .sendInput method plan.closesStreams]
  | none => [.callClient method]

def bodyOf (plan : Plan) : List Step :=
  [.merge plan.flags] ++ convertStep plan.conversions
    ++ [.validate plan.required, .makeClient plan.needsToken] ++ callSteps plan ++ [.printResult]

def Step.lines : Step → List Line
  | .merge flags =>
    [codeLine "params = rt.merge_options(", codeLine "    rt.load_params_file(params_file),",
      codeLine "    \x7b"]
    ++ flags.map (fun f => [.code "        ", .quoted f.name, .code (": " ++ f.parameter ++ ",")])
    ++ [codeLine "    \x7d,", codeLine ")"]
  | .convert statements =>
    [codeLine "try:"] ++ (linesOf statements).map (fun l => codeLine ("    " ++ l))
    ++ [codeLine "except FileNotFoundError as exc:",
      codeLine "    raise typer.BadParameter(str(exc)) from exc"]
  | .validate required =>
    [.code "rt.validate_required(params, " :: quotedList required ++ [.code ")"]]
  | .makeClient takesToken =>
    [codeLine (if takesToken then "client = _get_client(params.pop(\"token\"))"
      else "client = _get_client()")]
  | .buildInput shape => [codeLine ("request = rt.build_input(models." ++ shape ++ ", params)")]
  | .callClient method => [codeLine ("result = rt.run_client_call(client." ++ method ++ "())")]
  | .sendInput method closesStreams =>
    let call := "result = rt.run_client_call(client." ++ method ++ "(request))"
    if closesStreams then
      [codeLine "try:", codeLine ("    " ++ call), codeLine "finally:",
        codeLine "    rt.close_streams(params)"]
    else [codeLine call]
  | .printResult => [codeLine "rt.print_result(result)"]

def parameterType (f : Flag) : String := if f.repeatable then "List[str]" else "str"

/-- The line that says how a flag's text is read; plain text needs none. -/
def readingLines (f : Flag) : List Line :=
  if f.reading.name.isEmpty then []
  else [[.code ("        parser=rt." ++ f.reading.name ++ "_parser("), .quoted f.option,
    .code "),"]]

def flagLines (f : Flag) : List Line :=
  [codeLine ("    " ++ f.parameter ++ ": Optional[" ++ parameterType f ++ "] = typer.Option("),
    codeLine "        None,",
    [.code "        ", .quoted f.option, .code ","],
    [.code "        metavar=", .quoted f.placeholder, .code ","],
    [.code "        help=", .quoted f.description, .code ","]]
  ++ readingLines f ++ [codeLine "    ),"]

def functionLines (m : Meta) (plan : Plan) (name : String) : List Line :=
  [codeLine "", codeLine "",
    [.code "@app.command(", .quoted plan.operation.name, .code ", help=", .quoted (helpText m plan),
      .code ")"],
    codeLine ("def " ++ name ++ "("),
    codeLine "    params_file: Optional[str] = typer.Argument(",
    codeLine ("        None, metavar=\"[@params.json]\", "
      ++ "help=\"JSON file with parameters, prefixed with @.\""),
    codeLine "    ),"]
  ++ plan.flags.flatMap flagLines
  ++ [codeLine ") -> None:"]
  ++ (bodyOf plan).flatMap fun step => step.lines.map (Line.indented 1)

def functionNamesFrom (taken : List String) : List Plan → List String
  | [] => []
  | plan :: rest =>
    let name := freeName taken (methodName plan.operation ++ "_command")
    name :: functionNamesFrom (taken ++ [name]) rest

def functionNames (plans : List Plan) : List String := functionNamesFrom [] plans

end ServiceCli.Package
