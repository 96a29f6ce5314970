import ServiceCli.Conversion.Statement

set_option autoImplicit false
set_option relaxedAutoImplicit false

namespace ServiceCli.Conversion

open ServiceCli.Path

def Probe.expression : Probe → String
  | .lookup parent name => parent.lookup name
  | .place path => path.expression

def indent (lines : List String) : List String := lines.map ("    " ++ ·)

/-- The characters of a label between its quotes: backslash and quote are escaped. -/
def escapeLabel (cs : List Char) : List Char :=
  cs.flatMap fun c => if c == '\\' || c == '"' then ['\\', c] else [c]

def quoteLabel (s : String) : String := String.ofList ('"' :: escapeLabel s.toList ++ ['"'])

mutual
def Statement.lines : Statement → List String
  | .convertBlob probe target streaming =>
    let reader := if streaming then "rt.stream_blob" else "rt.read_blob"
    let place := target.expression
    ["if " ++ probe.expression ++ " is not None:",
      "    " ++ place ++ " = " ++ reader ++ "(" ++ place ++ ", "
        ++ quoteLabel target.label.text ++ ")"]
  | .convertDocument probe target =>
    let place := target.expression
    ["if " ++ probe.expression ++ " is not None and not isinstance(" ++ place ++ ", str):",
      "    " ++ place ++ " = rt.serialize_document(" ++ place ++ ")"]
  | .inStructure probe body =>
    ("if isinstance(" ++ probe.expression ++ ", dict):") :: indent (linesOf body)
  | .overList probe target body =>
    ("if isinstance(" ++ probe.expression ++ ", list):")
      :: ("    for " ++ target.loopVariable ++ " in range(len(" ++ target.expression ++ ")):")
      :: indent (indent (linesOf body))
  | .overMap probe target body =>
    ("if isinstance(" ++ probe.expression ++ ", dict):")
      :: ("    for " ++ target.mapVariable ++ " in list(" ++ target.expression ++ "):")
      :: indent (indent (linesOf body))
def linesOf : List Statement → List String
  | [] => []
  | s :: rest => s.lines ++ linesOf rest
end

theorem linesOf_append (first rest : List Statement) :
    linesOf (first ++ rest) = linesOf first ++ linesOf rest := by
  induction first with
  | nil => rfl
  | cons s first ih => rw [List.cons_append, linesOf, linesOf, ih, List.append_assoc]

theorem linesOf_single (s : Statement) : linesOf [s] = s.lines := by
  rw [linesOf, linesOf, List.append_nil]

theorem linesOf_ne_nil {body : List Statement} (filled : body ≠ []) : linesOf body ≠ [] := by
  cases body with
  | nil => exact absurd rfl filled
  | cons s rest =>
    rw [linesOf]
    cases s <;> simp [Statement.lines]

end ServiceCli.Conversion
