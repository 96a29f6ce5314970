import ServiceCli.Proofs.Conversion.Reading
import ServiceCli.Proofs.Script.Denotation

set_option autoImplicit false
set_option relaxedAutoImplicit false

namespace ServiceCli.Shape

mutual
/-- The member names within a type, at every depth. -/
def TypeTree.memberNames : TypeTree → List String
  | .structure members => Shape.memberNames members
  | .list member => member.memberNames
  | .map _ ⟨_, value, _, _, _⟩ => value.memberNames
  | _ => []
/-- The names of the given members, and within their types, at every depth. -/
def memberNames : List Field → List String
  | [] => []
  | ⟨name, type, _, _, _⟩ :: rest => name :: type.memberNames ++ memberNames rest
end

mutual
theorem TypeTree.namesHave_iff {P : String → Prop} :
    ∀ type : TypeTree, type.NamesHave P ↔ ∀ name ∈ type.memberNames, P name
  | .structure members => Shape.namesHave_iff members
  | .list member => member.namesHave_iff
  | .map _ ⟨_, value, _, _, _⟩ => value.namesHave_iff
  | .primitive _ => by simp [TypeTree.NamesHave, TypeTree.memberNames]
  | .blob _ => by simp [TypeTree.NamesHave, TypeTree.memberNames]
  | .document => by simp [TypeTree.NamesHave, TypeTree.memberNames]
theorem namesHave_iff {P : String → Prop} :
    ∀ fields : List Field, NamesHave P fields ↔ ∀ name ∈ memberNames fields, P name
  | [] => by simp [NamesHave, memberNames]
  | ⟨name, type, _, _, _⟩ :: rest => by
    rw [NamesHave, memberNames, type.namesHave_iff, namesHave_iff rest]
    simp [or_imp, forall_and]
end

end ServiceCli.Shape

namespace ServiceCli.Conversion

open ServiceCli.Path ServiceCli.Path.AccessPath ServiceCli.Script ServiceCli.Shape

/-- A fragment of a line. -/
inductive Fragment where
  | code (text : String)
  | key (name : String)
  | label (path : FieldPath)
  deriving DecidableEq, Repr

def Fragment.text : Fragment → String
  | .code s => s
  | .key name => Json.quote name
  | .label path => quoteLabel path.text

def fragmentText (line : List Fragment) : String := String.join (line.map Fragment.text)

@[simp] theorem fragmentText_nil : fragmentText [] = "" := rfl

@[simp] theorem fragmentText_cons (x : Fragment) (line : List Fragment) :
    fragmentText (x :: line) = x.text ++ fragmentText line := String.join_cons

@[simp] theorem fragmentText_append (first second : List Fragment) :
    fragmentText (first ++ second) = fragmentText first ++ fragmentText second := by
  rw [fragmentText, List.map_append, String.join_append]
  rfl

/-- The fragments of the subscripts of steps that are inside `n` loops. -/
def subscriptFragments (n : Nat) : FieldPath → List Fragment
  | [] => []
  | .member name :: rest => .code "[" :: .key name :: .code "]" :: subscriptFragments n rest
  | .element :: rest => .code ("[" ++ indexVariable n ++ "]") :: subscriptFragments (n + 1) rest
  | .value :: rest => .code ("[" ++ keyVariable n ++ "]") :: subscriptFragments (n + 1) rest

/-- The fragments of the expression that reads or writes a place. -/
def expressionFragments (p : AccessPath) : List Fragment :=
  .code p.root :: subscriptFragments 0 p.label

def Probe.fragments : Probe → List Fragment
  | .lookup parent name => expressionFragments parent ++ [.code ".get(", .key name, .code ")"]
  | .place path => expressionFragments path

def indentFragments (lines : List (List Fragment)) : List (List Fragment) :=
  lines.map (.code "    " :: ·)

mutual
@[simp] def Statement.fragments : Statement → List (List Fragment)
  | .convertBlob probe target streaming =>
    let reader := if streaming then "rt.stream_blob" else "rt.read_blob"
    [.code "if " :: probe.fragments ++ [.code " is not None:"],
      .code "    " :: expressionFragments target ++ .code (" = " ++ reader ++ "(")
        :: expressionFragments target ++ [.code ", ", .label target.label, .code ")"]]
  | .convertDocument probe target =>
    [.code "if " :: probe.fragments ++ .code " is not None and not isinstance("
        :: expressionFragments target ++ [.code ", str):"],
      .code "    " :: expressionFragments target ++ .code " = rt.serialize_document("
        :: expressionFragments target ++ [.code ")"]]
  | .inStructure probe body =>
    (.code "if isinstance(" :: probe.fragments ++ [.code ", dict):"])
      :: indentFragments (fragmentsOf body)
  | .overList probe target body =>
    (.code "if isinstance(" :: probe.fragments ++ [.code ", list):"])
      :: (.code ("    for " ++ target.loopVariable ++ " in range(len(")
        :: expressionFragments target ++ [.code ")):"])
      :: indentFragments (indentFragments (fragmentsOf body))
  | .overMap probe target body =>
    (.code "if isinstance(" :: probe.fragments ++ [.code ", dict):"])
      :: (.code ("    for " ++ target.mapVariable ++ " in list(")
        :: expressionFragments target ++ [.code "):"])
      :: indentFragments (indentFragments (fragmentsOf body))
def fragmentsOf : List Statement → List (List Fragment)
  | [] => []
  | s :: rest => s.fragments ++ fragmentsOf rest
end

section Text

private theorem subscripts_text (n : Nat) (steps : FieldPath) :
    (fragmentText (subscriptFragments n steps)).toList
      = (AccessPath.subscriptsFrom n steps).flatMap bracketed := by
  induction steps generalizing n with
  | nil => rfl
  | cons s steps ih =>
    cases s <;> simp [subscriptFragments, AccessPath.subscriptsFrom, Fragment.text, bracketed, ih]

variable {probe : Probe} {target : AccessPath} {body : List Statement}

theorem expression_text {p : AccessPath} (inStep : p.InStep) :
    fragmentText (expressionFragments p) = p.expression := by
  rw [← String.toList_inj, expression_toList, expressionFragments, fragmentText_cons,
    String.toList_append, subscripts_text, inStep.subscripts]
  rfl

def Probe.InStep : Probe → Prop
  | .lookup parent _ => parent.InStep
  | .place path => path.InStep

theorem probe_text (probed : probe.InStep) : fragmentText probe.fragments = probe.expression := by
  cases probe with
  | place path => exact expression_text probed
  | lookup parent name =>
    have place : fragmentText (expressionFragments parent) = parent.expression :=
      expression_text probed
    simp [Probe.fragments, Probe.expression, AccessPath.lookup, Fragment.text, place,
      String.append_assoc]

theorem indent_text (lines : List (List Fragment)) :
    (indentFragments lines).map fragmentText = indent (lines.map fragmentText) := by
  simp [indentFragments, indent, Fragment.text, Function.comp_def]

theorem fragmentsOf_single (s : Statement) : fragmentsOf [s] = s.fragments := by
  rw [fragmentsOf, fragmentsOf, List.append_nil]

theorem fragmentsOf_append (first second : List Statement) :
    fragmentsOf (first ++ second) = fragmentsOf first ++ fragmentsOf second := by
  induction first with
  | nil => rfl
  | cons s first ih => rw [List.cons_append, fragmentsOf, fragmentsOf, ih, List.append_assoc]

section Statements

variable (probed : probe.InStep) (inStep : target.InStep)

include probed

private theorem inStructure_text (inner : (fragmentsOf body).map fragmentText = linesOf body) :
    (Statement.inStructure probe body).fragments.map fragmentText
      = (Statement.inStructure probe body).lines := by
  simp [Statement.lines, Fragment.text, String.append_assoc, indent_text,
    probe_text probed, inner]

include inStep

private theorem convertBlob_text (streaming : Bool) :
    (Statement.convertBlob probe target streaming).fragments.map fragmentText
      = (Statement.convertBlob probe target streaming).lines := by
  simp [Statement.lines, Fragment.text, String.append_assoc,
    probe_text probed, expression_text inStep]

private theorem convertDocument_text :
    (Statement.convertDocument probe target).fragments.map fragmentText
      = (Statement.convertDocument probe target).lines := by
  simp [Statement.lines, Fragment.text, String.append_assoc,
    probe_text probed, expression_text inStep]

private theorem overList_text (inner : (fragmentsOf body).map fragmentText = linesOf body) :
    (Statement.overList probe target body).fragments.map fragmentText
      = (Statement.overList probe target body).lines := by
  simp [Statement.lines, Fragment.text, String.append_assoc, indent_text,
    probe_text probed, expression_text inStep, inner]

private theorem overMap_text (inner : (fragmentsOf body).map fragmentText = linesOf body) :
    (Statement.overMap probe target body).fragments.map fragmentText
      = (Statement.overMap probe target body).lines := by
  simp [Statement.lines, Fragment.text, String.append_assoc, indent_text,
    probe_text probed, expression_text inStep, inner]

end Statements

mutual
theorem ofType_text : ∀ (type : TypeTree) {target : AccessPath} {probe : Probe},
    target.InStep → probe.InStep →
    (fragmentsOf (ofType target probe type)).map fragmentText = linesOf (ofType target probe type)
  | .primitive _, _, _, _, _ => rfl
  | .blob streaming, _, _, inStep, probed => by
    rw [ofType, fragmentsOf_single, linesOf_single]
    exact convertBlob_text probed inStep streaming
  | .document, _, _, inStep, probed => by
    rw [ofType, fragmentsOf_single, linesOf_single]
    exact convertDocument_text probed inStep
  | .structure members, _, _, inStep, probed => by
    rw [ofType, fragmentsOf_single, linesOf_single]
    exact inStructure_text probed (ofFields_text members inStep)
  | .list member, target, _, inStep, probed => by
    have placed : (Probe.place target.element).InStep := inStep.element
    rw [ofType, fragmentsOf_single, linesOf_single]
    exact overList_text probed inStep (ofType_text member placed placed)
  | .map _ ⟨_, value, _, _, _⟩, target, _, inStep, probed => by
    have placed : (Probe.place target.mapValue).InStep := inStep.mapValue
    rw [ofType, fragmentsOf_single, linesOf_single]
    exact overMap_text probed inStep (ofType_text value placed placed)
theorem ofFields_text : ∀ (fields : List Field) {root : AccessPath}, root.InStep →
    (fragmentsOf (ofFields root fields)).map fragmentText = linesOf (ofFields root fields)
  | [], _, _ => rfl
  | ⟨name, type, _, _, _⟩ :: rest, root, inStep => by
    have probed : (Probe.lookup root name).InStep := inStep
    have later := ofFields_text rest inStep
    rw [ofFields, fragmentsOf_append, linesOf_append, List.map_append, later]
    split
    · rw [ofType_text type (inStep.key name) probed]
    · rfl
end

end Text

section Label

theorem literal?_brokenLabel {cs : List Char} {c : Char} (member : c ∈ cs)
    (breaks : breaksLine c = true) (rest : List Char) :
    literal? '"' (escapeLabel cs ++ rest) = none := by
  induction cs with
  | nil => exact absurd member (by simp)
  | cons d cs ih =>
    cases whole : breaksLine d with
    | true =>
      have isOther : d ≠ '\\' ∧ d ≠ '"' := by
        constructor <;> rintro rfl <;> exact absurd whole (by decide)
      rw [escapeLabel_cons isOther.1 isOther.2, List.cons_append, literal?, if_neg isOther.2,
        if_pos whole]
    | false =>
      have later : c ∈ cs := by
        rcases List.mem_cons.mp member with rfl | later
        · exact absurd breaks (by simp [whole])
        · exact later
      rw [literal?_labelChar whole, ih later]
      rfl

/-- A quoted label denotes its text just when no character of it breaks the line. -/
theorem denotes_quoteLabel (s : String) : Denotes (quoteLabel s) s ↔ IsWhole s := by
  rw [Denotes, quoteLabel, String.toList_ofList]
  constructor
  · intro denoted c member
    cases breaks : breaksLine c with
    | false => rfl
    | true =>
      have unread := literal?_brokenLabel member breaks ['"']
      rw [List.cons_append, points?, if_pos (by rfl), unread] at denoted
      cases denoted
  · intro whole
    exact points?_of_literal? rfl (literal?_label whole [])

end Label

section Sound

variable {P : String → Prop} {p target : AccessPath} {probe : Probe}

def Fragment.IsSound (P : String → Prop) : Fragment → Prop
  | .code text => HasNoQuote text
  | .key name => P name
  | .label path => ∀ name, .member name ∈ path → P name

/-- A probe of a place that is reached through members whose names have a property. -/
def Probe.Passes (P : String → Prop) : Probe → Prop
  | .lookup parent name => Conversion.Passes P parent ∧ P name
  | .place path => Conversion.Passes P path

private theorem subscripts_sound {steps : FieldPath}
    (names : ∀ name, .member name ∈ steps → P name) (n : Nat) :
    ∀ x ∈ subscriptFragments n steps, x.IsSound P := by
  have opening : HasNoQuote "[" := hasNoQuote_of_all (by decide)
  have closing : HasNoQuote "]" := hasNoQuote_of_all (by decide)
  induction steps generalizing n with
  | nil => exact fun x member => absurd member (by simp [subscriptFragments])
  | cons s steps ih =>
    have later := ih fun name member => names name (List.mem_cons_of_mem s member)
    cases s with
    | member name =>
      have first : P name := names name List.mem_cons_self
      simp only [subscriptFragments, List.forall_mem_cons, Fragment.IsSound]
      exact ⟨opening, first, closing, later n⟩
    | element =>
      simp only [subscriptFragments, List.forall_mem_cons, Fragment.IsSound]
      exact ⟨(opening.append (hasNoQuote_of_isWord (indexVariable_isWord n))).append closing,
        later (n + 1)⟩
    | value =>
      simp only [subscriptFragments, List.forall_mem_cons, Fragment.IsSound]
      exact ⟨(opening.append (hasNoQuote_of_isWord (keyVariable_isWord n))).append closing,
        later (n + 1)⟩

theorem Passes.expression (passes : Passes P p) : ∀ x ∈ expressionFragments p, x.IsSound P := by
  have root : HasNoQuote p.root := by
    rw [passes.root]
    exact hasNoQuote_of_all (by decide)
  rw [expressionFragments, List.forall_mem_cons]
  exact ⟨root, subscripts_sound passes.names 0⟩

theorem Probe.Passes.fragments (passes : probe.Passes P) : ∀ x ∈ probe.fragments, x.IsSound P := by
  cases probe with
  | place path => exact Conversion.Passes.expression passes
  | lookup parent name =>
    rw [Probe.fragments, List.forall_mem_append]
    refine ⟨passes.1.expression, ?_⟩
    simp only [List.forall_mem_cons, Fragment.IsSound]
    exact ⟨hasNoQuote_of_all (by decide), passes.2, hasNoQuote_of_all (by decide), by simp⟩

def AllSound (P : String → Prop) (lines : List (List Fragment)) : Prop :=
  ∀ line ∈ lines, ∀ x ∈ line, x.IsSound P

theorem AllSound.append {first second : List (List Fragment)} (sound : AllSound P first)
    (also : AllSound P second) : AllSound P (first ++ second) :=
  List.forall_mem_append.mpr ⟨sound, also⟩

theorem AllSound.indent {lines : List (List Fragment)} (sound : AllSound P lines) :
    AllSound P (indentFragments lines) := by
  intro line member
  obtain ⟨inner, there, rfl⟩ := List.mem_map.mp member
  rw [List.forall_mem_cons]
  exact ⟨hasNoQuote_of_all (by decide), sound inner there⟩

section Lines

variable {body : List Statement} (probed : probe.Passes P) (passes : Passes P target)

include probed

private theorem inStructure_sound (inner : AllSound P (fragmentsOf body)) :
    AllSound P (Statement.inStructure probe body).fragments := by
  rw [Statement.fragments, AllSound, List.forall_mem_cons]
  simp only [List.forall_mem_cons, List.forall_mem_append, Fragment.IsSound]
  refine ⟨⟨⟨?_, probed.fragments⟩, ?_, by simp⟩, inner.indent⟩ <;>
    exact hasNoQuote_of_all (by decide)

include passes

private theorem convertBlob_sound (streaming : Bool) :
    AllSound P (Statement.convertBlob probe target streaming).fragments := by
  have reader : HasNoQuote (" = " ++ (if streaming then "rt.stream_blob" else "rt.read_blob")
      ++ "(") := by
    cases streaming <;> exact hasNoQuote_of_all (by decide)
  simp only [Statement.fragments, AllSound, List.forall_mem_cons, List.forall_mem_append,
    Fragment.IsSound]
  refine ⟨⟨⟨?_, probed.fragments⟩, ?_, by simp⟩,
    ⟨⟨⟨?_, passes.expression⟩, reader, passes.expression⟩, ?_, passes.names, ?_, by simp⟩,
    by simp⟩ <;> exact hasNoQuote_of_all (by decide)

private theorem convertDocument_sound :
    AllSound P (Statement.convertDocument probe target).fragments := by
  simp only [Statement.fragments, AllSound, List.forall_mem_cons, List.forall_mem_append,
    Fragment.IsSound]
  refine ⟨⟨⟨⟨?_, probed.fragments⟩, ?_, passes.expression⟩, ?_, by simp⟩,
    ⟨⟨⟨?_, passes.expression⟩, ?_, passes.expression⟩, ?_, by simp⟩, by simp⟩ <;>
    exact hasNoQuote_of_all (by decide)

private theorem overList_sound (inner : AllSound P (fragmentsOf body)) :
    AllSound P (Statement.overList probe target body).fragments := by
  have variable_ : HasNoQuote ("    for " ++ target.loopVariable ++ " in range(len(") := by
    have word := hasNoQuote_of_isWord (indexVariable_isWord target.depth)
    refine (HasNoQuote.append ?_ word).append ?_ <;> exact hasNoQuote_of_all (by decide)
  simp only [Statement.fragments, AllSound, List.forall_mem_cons, List.forall_mem_append,
    Fragment.IsSound]
  refine ⟨⟨⟨?_, probed.fragments⟩, ?_, by simp⟩,
    ⟨⟨variable_, passes.expression⟩, ?_, by simp⟩, inner.indent.indent⟩ <;>
    exact hasNoQuote_of_all (by decide)

private theorem overMap_sound (inner : AllSound P (fragmentsOf body)) :
    AllSound P (Statement.overMap probe target body).fragments := by
  have variable_ : HasNoQuote ("    for " ++ target.mapVariable ++ " in list(") := by
    have word := hasNoQuote_of_isWord (keyVariable_isWord target.depth)
    refine (HasNoQuote.append ?_ word).append ?_ <;> exact hasNoQuote_of_all (by decide)
  simp only [Statement.fragments, AllSound, List.forall_mem_cons, List.forall_mem_append,
    Fragment.IsSound]
  refine ⟨⟨⟨?_, probed.fragments⟩, ?_, by simp⟩,
    ⟨⟨variable_, passes.expression⟩, ?_, by simp⟩, inner.indent.indent⟩ <;>
    exact hasNoQuote_of_all (by decide)

end Lines

private theorem single_sound {s : Statement} (sound : AllSound P s.fragments) :
    AllSound P (fragmentsOf [s]) := by
  rw [fragmentsOf_single]
  exact sound

theorem exists_probing {type : TypeTree} (special : type.containsSpecial = true) :
    ∃ line ∈ fragmentsOf (ofType target probe type), probe.fragments <:+: line := by
  cases type with
  | primitive => exact nomatch special
  | blob streaming => exact ⟨_, List.mem_cons_self, [_], _, rfl⟩
  | document =>
    exact ⟨_, List.mem_cons_self, [_], _, by rw [List.append_assoc, List.append_assoc]; rfl⟩
  | map key value =>
    obtain ⟨_, type, _, _, _⟩ := value
    exact ⟨_, List.mem_cons_self, [_], _, rfl⟩
  | _ => exact ⟨_, List.mem_cons_self, [_], _, rfl⟩

theorem exists_lookup {fields : List Field} {f : Field} (member : f ∈ fields)
    (special : f.type.containsSpecial = true) (root : AccessPath) :
    ∃ line ∈ fragmentsOf (ofFields root fields),
      (Probe.lookup root f.name).fragments <:+: line := by
  induction fields with
  | nil => exact absurd member (by simp)
  | cons g fields ih =>
    obtain ⟨name, type, _, _, _⟩ := g
    rw [ofFields, fragmentsOf_append]
    rcases List.mem_cons.mp member with rfl | later
    · obtain ⟨line, there, probing⟩ := exists_probing special
      rw [if_pos special]
      exact ⟨line, List.mem_append_left _ there, probing⟩
    · obtain ⟨line, there, probing⟩ := ih later
      exact ⟨line, List.mem_append_right _ there, probing⟩

mutual
theorem ofType_sound : ∀ (type : TypeTree) {target : AccessPath} {probe : Probe},
    Passes P target → probe.Passes P → type.NamesHave P →
    AllSound P (fragmentsOf (ofType target probe type))
  | .primitive _, _, _, _, _, _ => fun _ member => absurd member (by simp [ofType, fragmentsOf])
  | .blob streaming, _, _, passes, probed, _ =>
    single_sound (convertBlob_sound probed passes streaming)
  | .document, _, _, passes, probed, _ => single_sound (convertDocument_sound probed passes)
  | .structure members, _, _, passes, probed, named =>
    single_sound (inStructure_sound probed (ofFields_sound members passes named))
  | .list member, target, _, passes, probed, named => by
    have placed : (Probe.place target.element).Passes P := passes.element
    exact single_sound (overList_sound probed passes (ofType_sound member placed placed named))
  | .map _ ⟨_, value, _, _, _⟩, target, _, passes, probed, named => by
    have placed : (Probe.place target.mapValue).Passes P := passes.mapValue
    exact single_sound (overMap_sound probed passes (ofType_sound value placed placed named))
theorem ofFields_sound : ∀ (fields : List Field) {root : AccessPath},
    Passes P root → NamesHave P fields → AllSound P (fragmentsOf (ofFields root fields))
  | [], _, _, _ => fun _ member => absurd member (by simp [ofFields, fragmentsOf])
  | ⟨name, type, _, _, _⟩ :: rest, root, passes, named => by
    obtain ⟨first, within, others⟩ := named
    have probed : (Probe.lookup root name).Passes P := ⟨passes, first⟩
    have here := ofType_sound type (passes.key first) probed within
    have later := ofFields_sound rest passes others
    rw [ofFields, fragmentsOf_append]
    split
    · exact here.append later
    · exact later
end

end Sound

end ServiceCli.Conversion
