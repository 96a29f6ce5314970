import ServiceCli.Proofs.Conversion.Reading
import ServiceCli.Proofs.Script.Nesting

set_option autoImplicit false
set_option relaxedAutoImplicit false

namespace ServiceCli.Conversion

open ServiceCli.Path ServiceCli.Path.AccessPath ServiceCli.Script ServiceCli.Shape

/-- A name without a line break. -/
def IsUnbroken (name : String) : Prop := '\n' ∉ name.toList

def heldIn? : Subscript → Option String
  | .held name => some name
  | .text _ => none

/-- The variables of the loops that a place is inside of. -/
def loopsOf (p : AccessPath) : List String := (placeOf p).subscripts.filterMap heldIn?

section Loops

variable {p : AccessPath}

theorem loopsOf_key (p : AccessPath) (name : String) : loopsOf (p.key name) = loopsOf p := by
  rw [loopsOf, placeOf_key, List.filterMap_append]
  simp [loopsOf, heldIn?]

theorem loopsOf_element (inStep : p.InStep) :
    loopsOf p.element = loopsOf p ++ [p.loopVariable] := by
  rw [loopsOf, placeOf_element inStep, List.filterMap_append]
  rfl

theorem loopsOf_mapValue (inStep : p.InStep) :
    loopsOf p.mapValue = loopsOf p ++ [p.mapVariable] := by
  rw [loopsOf, placeOf_mapValue inStep, List.filterMap_append]
  rfl

end Loops

section Spoken

theorem spokenIn_subscripts (n : Nat) (steps : FieldPath) (rest : List Char) :
    spokenIn ((AccessPath.subscriptsFrom n steps).flatMap bracketed ++ rest)
      = (subscriptsFrom n steps).filterMap heldIn? ++ spokenIn rest := by
  have opening : ∀ rest, spokenIn ('[' :: rest) = spokenIn rest := fun rest =>
    @spokenIn_append '[' ['['] [] ⟨rfl, rfl⟩ rfl rest
  have closing : ∀ rest, spokenIn (']' :: rest) = spokenIn rest := fun rest =>
    @spokenIn_append ']' [']'] [] ⟨rfl, rfl⟩ rfl rest
  have bracketedWord : ∀ word : String, isWord word = true → ∀ rest,
      spokenIn (bracketed word ++ rest) = word :: spokenIn rest := by
    intro word isWord rest
    rw [bracketed, List.cons_append, opening, List.append_assoc, spokenIn_word isWord rfl,
      List.singleton_append, closing]
  have bracketedQuote : ∀ name rest,
      spokenIn (bracketed (Json.quote name) ++ rest) = spokenIn rest := by
    intro name rest
    rw [bracketed, List.cons_append, opening, List.append_assoc,
      spokenIn_literal (leftOf_jsonQuote name), List.singleton_append, closing]
  induction steps generalizing n with
  | nil => rfl
  | cons s steps ih =>
    cases s with
    | member name =>
      rw [AccessPath.subscriptsFrom, List.flatMap_cons, List.append_assoc, bracketedQuote, ih]
      rfl
    | element =>
      rw [AccessPath.subscriptsFrom, List.flatMap_cons, List.append_assoc,
        bracketedWord _ (indexVariable_isWord n), ih]
      rfl
    | value =>
      rw [AccessPath.subscriptsFrom, List.flatMap_cons, List.append_assoc,
        bracketedWord _ (keyVariable_isWord n), ih]
      rfl

theorem spokenIn_expression {p : AccessPath} (rooted : Rooted p) {rest : List Char}
    (ends : endsWord rest = true) :
    spokenIn (p.expression.toList ++ rest) = treeName :: loopsOf p ++ spokenIn rest := by
  have word : isWord treeName = true := by decide
  have begins : endsWord (p.subscripts.flatMap bracketed ++ rest) = true := by
    cases p.subscripts with
    | nil => exact ends
    | cons s subscripts => rfl
  rw [expression_toList, rooted.root, List.append_assoc, spokenIn_word word begins,
    rooted.inStep.subscripts, spokenIn_subscripts]
  rfl

def Probe.source : Probe → AccessPath
  | .lookup parent _ => parent
  | .place path => path

def Probe.words (probe : Probe) : List String :=
  treeName :: loopsOf probe.source ++ match probe with
    | .lookup _ _ => ["get"]
    | .place _ => []

theorem spokenIn_probe {probe : Probe} (rooted : Rooted probe.source) {rest : List Char}
    (ends : endsWord rest = true) :
    spokenIn (probe.expression.toList ++ rest) = probe.words ++ spokenIn rest := by
  cases probe with
  | place path =>
    have rooted : Rooted path := rooted
    rw [Probe.expression, spokenIn_expression rooted ends, Probe.words, List.append_nil]
    rfl
  | lookup parent name =>
    have rooted : Rooted parent := rooted
    have chars : (Probe.lookup parent name).expression.toList ++ rest = parent.expression.toList
        ++ (".get(".toList ++ ((Json.quote name).toList ++ (")".toList ++ rest))) := by
      simp only [Probe.expression, AccessPath.lookup, String.toList_append, List.append_assoc]
    rw [chars, spokenIn_expression rooted rfl, spokenIn_code (by decide),
      spokenIn_literal (leftOf_jsonQuote name), spokenIn_code (by decide), Probe.words,
      List.append_assoc]
    rfl

end Spoken

/-- What a value is converted by. -/
inductive Converter where
  | blob (streaming : Bool)
  | document
  deriving DecidableEq, Repr

def Converter.function : Converter → String
  | .blob false => "read_blob"
  | .blob true => "stream_blob"
  | .document => "serialize_document"

/-- The statement that converts the value at a place. -/
def storing (place : AccessPath) : Converter → String
  | .blob streaming =>
    place.expression ++ " = " ++ (if streaming then "rt.stream_blob" else "rt.read_blob")
      ++ "(" ++ place.expression ++ ", " ++ quoteLabel place.label.text ++ ")"
  | .document => place.expression ++ " = rt.serialize_document(" ++ place.expression ++ ")"

section Lines

variable {probe : Probe} {target : AccessPath}

theorem isLine_given (rooted : Rooted probe.source) :
    IsLine ("if " ++ probe.expression ++ " is not None:") true
      ("if" :: probe.words ++ ["is", "not", "None"]) where
  solid := by simp
  last := by
    rw [String.toList_append, List.getLast?_append]
    rfl
  spoken := by
    rw [String.toList_append, String.toList_append, List.append_assoc, spokenIn_code (by decide),
      spokenIn_probe rooted rfl]
    rfl

theorem isLine_document (rooted : Rooted probe.source) (alsoRooted : Rooted target) :
    IsLine ("if " ++ probe.expression ++ " is not None and not isinstance(" ++ target.expression
        ++ ", str):") true
      ("if" :: probe.words ++ (["is", "not", "None", "and", "not", "isinstance"]
        ++ (treeName :: loopsOf target ++ ["str"]))) where
  solid := by simp
  last := by
    rw [String.toList_append, List.getLast?_append]
    rfl
  spoken := by
    simp only [String.toList_append, List.append_assoc]
    rw [spokenIn_code (by decide), spokenIn_probe rooted rfl, spokenIn_code (by decide),
      spokenIn_expression alsoRooted rfl]
    rfl

theorem isLine_isKind (rooted : Rooted probe.source) (kind : Kind) :
    IsLine ("if isinstance(" ++ probe.expression ++ (", " ++ kind.word ++ "):")) true
      ("if" :: "isinstance" :: probe.words ++ [kind.word]) where
  solid := by simp
  last := by
    have last : (", " ++ kind.word ++ "):").toList.getLast? = some ':' := by cases kind <;> rfl
    rw [String.toList_append, List.getLast?_append, last]
    rfl
  spoken := by
    have begins : endsWord (", " ++ kind.word ++ "):").toList = true := by cases kind <;> rfl
    have said : spokenIn (", " ++ kind.word ++ "):").toList = [kind.word] := by
      cases kind <;> rfl
    rw [String.toList_append, String.toList_append, List.append_assoc, spokenIn_code (by decide),
      spokenIn_probe rooted begins, said]
    rfl

theorem isLine_overIndices (rooted : Rooted target) :
    IsLine ("for " ++ target.loopVariable ++ " in range(len(" ++ target.expression ++ ")):") true
      ("for" :: target.loopVariable :: (["in", "range", "len"]
        ++ treeName :: loopsOf target)) where
  solid := by simp
  last := by
    rw [String.toList_append, List.getLast?_append]
    rfl
  spoken := by
    have ends : spokenIn ")):".toList = [] := rfl
    simp only [String.toList_append, List.append_assoc]
    rw [spokenIn_code (by decide), loopVariable, spokenIn_word (indexVariable_isWord _) rfl,
      spokenIn_code (by decide), spokenIn_expression rooted rfl, ends, List.append_nil]
    rfl

theorem isLine_overMembers (rooted : Rooted target) :
    IsLine ("for " ++ target.mapVariable ++ " in list(" ++ target.expression ++ "):") true
      ("for" :: target.mapVariable :: (["in", "list"] ++ treeName :: loopsOf target)) where
  solid := by simp
  last := by
    rw [String.toList_append, List.getLast?_append]
    rfl
  spoken := by
    have ends : spokenIn "):".toList = [] := rfl
    simp only [String.toList_append, List.append_assoc]
    rw [spokenIn_code (by decide), mapVariable, spokenIn_word (keyVariable_isWord _) rfl,
      spokenIn_code (by decide), spokenIn_expression rooted rfl, ends, List.append_nil]
    rfl

theorem label_unbroken (passes : Passes IsUnbroken target) : '\n' ∉ target.label.text.toList :=
  fun breaks => absurd rfl (passes.label (Q := (· ≠ '\n'))
    (fun _ unbroken _ member same => unbroken (same ▸ member))
    (List.forall_iff_forall_mem.mp (by decide)) '\n' breaks)

theorem isLine_storing (passes : Passes IsUnbroken target) (converter : Converter) :
    IsLine (storing target converter) false (treeName :: loopsOf target
      ++ (["rt", converter.function] ++ treeName :: loopsOf target)) where
  solid := by
    have chars : ∃ rest, (storing target converter).toList = target.expression.toList ++ rest := by
      cases converter <;> simp only [storing, String.toList_append, List.append_assoc] <;>
        exact ⟨_, rfl⟩
    obtain ⟨rest, spelt⟩ := chars
    have begins : (treeName.toList ++ target.subscripts.flatMap bracketed ++ rest).head?
        = some 'p' := rfl
    rw [spelt, expression_toList, passes.root, begins]
    decide
  last := by
    cases converter <;> rw [storing, String.toList_append, List.getLast?_append] <;> rfl
  spoken := by
    have rooted := passes.toRooted
    have ends : spokenIn ")".toList = [] := rfl
    cases converter with
    | document =>
      simp only [storing, String.toList_append, List.append_assoc]
      rw [spokenIn_expression rooted rfl, spokenIn_code (by decide), spokenIn_expression rooted rfl,
        ends, List.append_nil]
      rfl
    | blob streaming =>
      have literal := leftOf_quoteLabel (label_unbroken passes)
      have called : ∀ rest, spokenIn (" = ".toList
            ++ ((if streaming then "rt.stream_blob" else "rt.read_blob").toList
            ++ ("(".toList ++ rest)))
          = "rt" :: (Converter.blob streaming).function :: spokenIn rest := by
        cases streaming with
        | true => exact @spokenIn_code " = rt.stream_blob(" (by decide)
        | false => exact @spokenIn_code " = rt.read_blob(" (by decide)
      simp only [storing, String.toList_append, List.append_assoc]
      rw [spokenIn_expression rooted rfl, called, spokenIn_expression rooted rfl,
        spokenIn_code (by decide), spokenIn_literal literal, ends, List.append_nil]
      have comma : wordsIn ", ".toList = [] := rfl
      rw [comma, List.append_nil]
      rfl

end Lines

end ServiceCli.Conversion
