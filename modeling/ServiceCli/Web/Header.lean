import ServiceCli.Text.LetterCase

set_option autoImplicit false
set_option relaxedAutoImplicit false

namespace ServiceCli.Web

abbrev Headers := List (String × String)

namespace Headers

def values (headers : Headers) (name : String) : List String :=
  (headers.filter fun h => Text.lower h.1 == name).map (·.2)

def value? (headers : Headers) (name : String) : Option String :=
  match headers.values name with
  | [] => none
  | values => some (", ".intercalate values)

def isWritable (headers : Headers) : Bool :=
  List.all headers fun (name, value) => (name ++ value).all fun c => decide (c.toNat < 0x80)

end Headers

end ServiceCli.Web
