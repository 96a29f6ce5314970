import ServiceCli.Command.Example
import ServiceCli.Command.Outline
import ServiceCli.Command.Required
import ServiceCli.Conversion.Lines
import ServiceCli.Service.Basic

set_option autoImplicit false
set_option relaxedAutoImplicit false

namespace ServiceCli.Command

open ServiceCli.Conversion ServiceCli.Path ServiceCli.Service ServiceCli.Shape

/-- The plan of a command. -/
structure Plan where
  operation : Operation
  needsToken : Bool
  flags : List Flag
  required : List String
  outline : List OutlineLine
  usageExample : List String
  mixedExample : String
  fileExample : String
  conversions : List Statement
  closesStreams : Bool
  deriving Repr

/-- The variable with the parameters in a generated function. -/
def parameterRoot : AccessPath := .ofRoot "params"

/-- Whether an input has a member with the name of the flag for the bearer token. -/
def hasTokenMember (fields : List Field) : Bool := fields.any fun f => f.name == tokenName

/-- The plan of an operation's command. -/
def planOf (op : Operation) (cli : String) (needsToken : Bool) : Outcome Plan :=
  let fields := op.inputFields
  -- the member would share its flag with the bearer token
  if needsToken && hasTokenMember fields then refuse (.tokenCollision op.name)
  else .ok {
    operation := op
    needsToken := needsToken
    flags := flagsOf fields needsToken
    required := requiredTexts fields needsToken
    outline := outlineOf fields needsToken 4
    usageExample := usageExample cli op.name fields needsToken
    mixedExample := mixedExample cli op.name fields needsToken
    fileExample := fileExample fields needsToken
    conversions := ofFields parameterRoot fields
    closesStreams := TypeTree.anyStream fields }

end ServiceCli.Command
