import Mathlib.Data.List.Nodup
import ServiceCli.Proofs.Command.Identifier
import ServiceCli.Proofs.Package.Registration

/-!
The names at the top level of a generated program. Main statement: the search for the name of a
function ends for every operation, and the names found are different from each other, no keywords,
and different from what is bound around the functions; what the lines of the program bind are these
names in their order.
-/

set_option autoImplicit false
set_option relaxedAutoImplicit false

namespace ServiceCli.Package

open ServiceCli.Command ServiceCli.Service ServiceCli.Settings ServiceCli.Source

/-- Names are issued to plans one after the other: the search for each is run to its end against
the names issued before. -/
inductive Issues : List String → List Plan → List String → Prop
  | nil {taken : List String} : Issues taken [] []
  | cons {taken names : List String} {plan : Plan} {plans : List Plan} {name : String} :
    Renames taken (methodName plan.operation ++ "_command") name →
    Issues (taken ++ [name]) plans names → Issues taken (plan :: plans) (name :: names)

section Issues

variable {taken names : List String} {plans : List Plan}

theorem issues_functionNamesFrom (taken : List String) (plans : List Plan) :
    Issues taken plans (functionNamesFrom taken plans) := by
  induction plans generalizing taken with
  | nil => exact .nil
  | cons plan plans ih => exact .cons (renames_freeName taken _) (ih _)

theorem Issues.form (issues : Issues taken plans names) : ∀ name ∈ names,
    ∃ op count, name = underscored (identifier op ++ "_command") count := by
  induction issues with
  | nil => exact fun _ member => absurd member List.not_mem_nil
  | @cons taken names plan plans name renames _ ih =>
    obtain ⟨count, found⟩ := renames.eq_underscored
    exact List.forall_mem_cons.mpr ⟨⟨plan.operation.name, count, found⟩, ih⟩

end Issues

section Form

/-- The last character of a name before the underscores at its end. -/
def lastLetter? (name : String) : Option Char := (name.toList.reverse.dropWhile (· == '_')).head?

theorem lastLetter?_underscored (name : String) (count : Nat) :
    lastLetter? (underscored name count) = lastLetter? name := by
  have marks : ∀ c ∈ List.replicate count '_', (c == '_') = true := by
    intro c member
    rw [List.eq_of_mem_replicate member]
    rfl
  rw [lastLetter?, underscored, String.toList_append, String.toList_ofList, List.reverse_append,
    List.reverse_replicate, List.dropWhile_append_of_pos marks]
  rfl

theorem lastLetter?_append (name : String) {ending : String} {c : Char} {cs : List Char}
    (ends : ending.toList.reverse = c :: cs) (solid : c ≠ '_') :
    lastLetter? (name ++ ending) = some c := by
  have stays : (c == '_') = false := by simpa using solid
  rw [lastLetter?, String.toList_append, List.reverse_append, ends, List.cons_append,
    List.dropWhile_cons, stays]
  rfl

/-- The name of a function ends in a letter that no other name of the program ends in. -/
theorem lastLetter?_function (op : String) (count : Nat) :
    lastLetter? (underscored (identifier op ++ "_command") count) = some 'd' := by
  rw [lastLetter?_underscored]
  exact lastLetter?_append _ rfl (by decide)

theorem keyword_unbroken {word : String} (keyword : word ∈ keywords) : '_' ∉ word.toList := by
  have all : keywords.all (fun word => !word.toList.contains '_') = true := by
    simp only [keywords, List.all_cons, List.all_nil]
    repeat rw [String.toList_ofList]
    rfl
  have own := List.all_eq_true.mp all word keyword
  simpa using own

theorem isLowerChar_of_isLowerName {cs : List Char} (lower : isLowerName cs = true) :
    ∀ c ∈ cs, isLowerChar c = true := by
  cases cs with
  | nil => exact nomatch lower
  | cons c cs =>
    rw [isLowerName, Bool.and_eq_true, Bool.or_eq_true] at lower
    refine List.forall_mem_cons.mpr ⟨?_, List.all_eq_true.mp lower.2⟩
    rw [isLowerChar, Bool.or_eq_true, Bool.or_eq_true]
    exact lower.1.imp_left .inl

theorem function_form (op : String) (count : Nat) :
    isLowerName (underscored (identifier op ++ "_command") count).toList = true ∧
      underscored (identifier op ++ "_command") count ∉ keywords := by
  have spelt : (underscored (identifier op ++ "_command") count).toList
      = (identifier op).toList ++ ("_command".toList ++ List.replicate count '_') := by
    simp only [underscored, String.toList_append, String.toList_ofList, List.append_assoc]
  obtain ⟨begins, lower, -⟩ := identifier_form op
  have word : ∀ c ∈ "_command".toList, isLowerChar c = true := List.all_eq_true.mp (by decide)
  have marks : ∀ c ∈ List.replicate count '_', isLowerChar c = true := by
    intro c member
    rw [List.eq_of_mem_replicate member]
    rfl
  constructor
  · rw [spelt]
    refine isLowerName_of_beginsName (beginsName_append begins _) ?_
    exact List.forall_mem_append.mpr ⟨lower, List.forall_mem_append.mpr ⟨word, marks⟩⟩
  · intro keyword
    apply keyword_unbroken keyword
    rw [spelt]
    refine List.mem_append_right _ (List.mem_append_left _ ?_)
    decide

end Form

/-- The names that are bound before the class of the client. -/
def importedFirst : List String :=
  ["annotations", "os", "List", "Optional", "typer", "rt", "models"]

/-- The names that are bound between the class of the client and the functions. -/
def boundLater : List String :=
  ["Config", "__version__", "DEFAULT_ENDPOINT", "ENDPOINT_ENV", "COMMANDS", "app",
    "_version_callback", "_root", "_get_client"]

/-- The names that are bound before the functions of a program, in order. -/
def headerNames (m : Meta) : List String := importedFirst ++ m.clientClass :: boundLater

/-- The names that are bound around the functions of a program. -/
def outerNames (m : Meta) : List String := headerNames m ++ ["main"]

theorem outerNames_lastLetter? {m : Meta} {service : String}
    (named : m.clientClass = service ++ "Client") :
    ∀ name ∈ outerNames m, lastLetter? name ≠ some 'd' := by
  have ends : lastLetter? m.clientClass = some 't' := by
    rw [named]
    exact lastLetter?_append _ rfl (by decide)
  have client : lastLetter? m.clientClass ≠ some 'd' := by
    rw [ends]
    decide
  have before : ∀ name ∈ importedFirst, lastLetter? name ≠ some 'd' := by
    simp only [importedFirst, List.forall_mem_cons, lastLetter?]
    repeat rw [String.toList_ofList]
    decide
  have after : ∀ name ∈ boundLater, lastLetter? name ≠ some 'd' := by
    simp only [boundLater, List.forall_mem_cons, lastLetter?]
    repeat rw [String.toList_ofList]
    decide
  rw [outerNames, headerNames]
  refine List.forall_mem_append.mpr ⟨List.forall_mem_append.mpr ⟨before, ?_⟩, ?_⟩
  · exact List.forall_mem_cons.mpr ⟨client, after⟩
  · exact List.forall_mem_singleton.mpr (by decide)

theorem outerNames_nodup {m : Meta} {service : String}
    (named : m.clientClass = service ++ "Client") : (outerNames m).Nodup := by
  have ends : "Client".toList <:+ m.clientClass.toList := by
    rw [named, String.toList_append]
    exact List.suffix_append _ _
  have others : ∀ name ∈ importedFirst ++ (boundLater ++ ["main"]),
      ¬"Client".toList <:+ name.toList := by
    simp only [importedFirst, boundLater, List.cons_append, List.nil_append, List.forall_mem_cons]
    repeat rw [String.toList_ofList]
    decide
  have differ : (importedFirst ++ (boundLater ++ ["main"])).Nodup := by
    refine List.Nodup.of_map String.toList ?_
    simp only [importedFirst, boundLater, List.cons_append, List.nil_append, List.map_cons,
      List.map_nil]
    repeat rw [String.toList_ofList]
    decide +kernel
  rw [outerNames, headerNames, List.append_assoc, List.cons_append, List.nodup_middle]
  exact List.nodup_cons.mpr ⟨fun member => others _ member ends, differ⟩

/-! ### What the lines of a program bind -/

def blankParts (text : String) : List String :=
  (text.toList.splitOnP (· == ' ')).map String.ofList

def importedNames : List String → List String
  | [_, "as", name] => [name]
  | listed => listed.flatMap fun part =>
    ((part.toList.splitOnP (· == ',')).filter (!·.isEmpty)).map String.ofList

/-- The names that code binds, by its parts: what it imports, defines or assigns. -/
def namesBoundBy : List String → List String
  | ["import", name] => [name]
  | "from" :: _ :: "import" :: listed => importedNames listed
  | "def" :: head :: _ => [String.ofList (head.toList.takeWhile (· != '('))]
  | name :: "=" :: _ => [name]
  | _ => []

/-- Whether a text is further in than the top level. -/
def isFurther (text : String) : Bool := text.toList.head? == some ' '

/-- The names that a line binds at the top level. -/
def namesOn : Line → List String
  | .code text :: _ => if isFurther text then [] else namesBoundBy (blankParts text)
  | _ => []

/-- The names that a source binds at the top level, in order. -/
def topNames (lines : List Line) : List String := lines.flatMap namesOn

/-- A text without blanks and commas. -/
def IsUnbroken (text : String) : Prop := ∀ c ∈ text.toList, c ≠ ' ' ∧ c ≠ ','

instance (text : String) : Decidable (IsUnbroken text) :=
  List.decidableBAll (fun c => c ≠ ' ' ∧ c ≠ ',') text.toList

section Reading

variable {text : String} (m : Meta)

theorem blankParts_append (first rest : String) :
    blankParts (first ++ (" " ++ rest)) = blankParts first ++ blankParts rest := by
  have blank : " ".toList = [' '] := rfl
  rw [blankParts, String.toList_append, String.toList_append, blank, List.singleton_append,
    List.splitOnP_append_cons _ _ rfl, List.map_append]
  rfl

theorem blankParts_unbroken (unbroken : IsUnbroken text) : blankParts text = [text] := by
  have inside : ∀ c ∈ text.toList, (c == ' ') = false := by
    intro c member
    simpa using (unbroken c member).1
  rw [blankParts, List.splitOnP_eq_singleton inside, List.map_singleton, String.ofList_toList]

theorem isFurther_append (filled : text ≠ "") (more : String) :
    isFurther (text ++ more) = isFurther text := by
  rw [isFurther, isFurther, String.toList_append]
  cases spelt : text.toList with
  | nil => exact absurd (String.toList_injective spelt) filled
  | cons c cs => rfl

theorem isFurther_blank (cs : List Char) : isFurther (String.ofList (' ' :: cs)) = true := by
  rw [isFurther, String.toList_ofList]
  rfl

theorem isFurther_of_pieces (further : isFurther text = true) (more last : String) :
    isFurther (text ++ more ++ last) = true := by
  have filled : text ≠ "" := by
    rintro rfl
    cases further
  rw [String.append_assoc, isFurther_append filled]
  exact further

theorem namesOn_further (further : isFurther text = true) (rest : Line) :
    namesOn (.code text :: rest) = [] := if_pos further

theorem namesOn_pieces (further : isFurther text = true) (more last : String) :
    namesOn (codeLine (text ++ more ++ last)) = [] :=
  namesOn_further (isFurther_of_pieces further more last) []

theorem namesOn_level (level : isFurther text = false) (rest : Line) :
    namesOn (.code text :: rest) = namesBoundBy (blankParts text) := by
  rw [namesOn, level]
  rfl

theorem blankParts_ofList (cs : List Char) :
    blankParts (String.ofList cs) = (cs.splitOnP (· == ' ')).map String.ofList := by
  rw [blankParts, String.toList_ofList]

theorem namesOn_ofList (cs : List Char) : namesOn (codeLine (String.ofList cs)) =
    if cs.head? == some ' ' then []
    else namesBoundBy ((cs.splitOnP (· == ' ')).map String.ofList) := by
  rw [codeLine, namesOn, isFurther, blankParts_ofList, String.toList_ofList]

def importLine (module listed : String) : String :=
  "from" ++ (" " ++ (module ++ (" " ++ ("import" ++ (" " ++ listed)))))

theorem namesOn_importLine (unbroken : IsUnbroken text) (listed : String) :
    namesOn (codeLine (importLine text listed)) = importedNames (blankParts listed) := by
  have words : blankParts "from" = ["from"] ∧ blankParts "import" = ["import"] := ⟨rfl, rfl⟩
  have level : isFurther (importLine text listed) = false := by
    rw [importLine, isFurther_append (by decide)]
    rfl
  rw [codeLine, namesOn_level level, importLine, blankParts_append, blankParts_append,
    blankParts_append, blankParts_unbroken unbroken, words.1, words.2]
  rfl

theorem importedNames_unbroken (unbroken : IsUnbroken text) (filled : text ≠ "") :
    importedNames (blankParts text) = [text] := by
  have inside : ∀ c ∈ text.toList, (c == ',') = false := by
    intro c member
    simpa using (unbroken c member).2
  rw [blankParts_unbroken unbroken]
  simp [importedNames, List.splitOnP_eq_singleton inside, filled]

theorem topNames_append (first rest : List Line) :
    topNames (first ++ rest) = topNames first ++ topNames rest := List.flatMap_append

theorem topNames_eq_nil {lines : List Line} (silent : ∀ l ∈ lines, namesOn l = []) :
    topNames lines = [] := List.flatMap_eq_nil_iff.mpr silent

def fixedImports : List Line := codeLines [
  "",
  "from __future__ import annotations",
  "",
  "import os",
  "from typing import List, Optional",
  "",
  "import typer",
  "",
  "from shapecli import runtime as rt"]

theorem importLines_eq : importLines m = fixedImports ++ codeLines [
    importLine m.clientModule "models", importLine (m.clientModule ++ ".client") m.clientClass,
    importLine (m.clientModule ++ ".config") "Config", importLine m.package "__version__", ""] := by
  have spelt : "from " ++ m.clientModule ++ " import models" = importLine m.clientModule "models" ∧
      "from " ++ m.clientModule ++ ".client import " ++ m.clientClass
        = importLine (m.clientModule ++ ".client") m.clientClass ∧
      "from " ++ m.clientModule ++ ".config import Config"
        = importLine (m.clientModule ++ ".config") "Config" ∧
      "from " ++ m.package ++ " import __version__" = importLine m.package "__version__" := by
    refine ⟨?_, ?_, ?_, ?_⟩ <;>
    · apply String.toList_injective
      simp only [importLine, String.toList_append, List.append_assoc]
      repeat rw [String.toList_ofList]
      rfl
  rw [importLines, spelt.1, spelt.2.1, spelt.2.2.1, spelt.2.2.2]
  rfl

theorem topNames_importLines (module : IsUnbroken m.clientModule) (package : IsUnbroken m.package)
    (client : IsUnbroken m.clientClass) (filled : m.clientClass ≠ "") :
    topNames (importLines m)
      = importedFirst ++ [m.clientClass, "Config", "__version__"] := by
  have part (ending : String) (plain : IsUnbroken ending) :
      IsUnbroken (m.clientModule ++ ending) := by
    intro c member
    rw [String.toList_append] at member
    exact (List.mem_append.mp member).elim (module c) (plain c)
  have fixed : topNames fixedImports =
      ["annotations", "os", "List", "Optional", "typer", "rt"] := by
    rw [topNames, fixedImports, codeLines]
    simp only [List.map_cons, List.map_nil, List.flatMap_cons, List.flatMap_nil]
    repeat rw [namesOn_ofList]
    rfl
  have models : importedNames (blankParts "models") = ["models"] :=
    importedNames_unbroken (by decide) (by decide)
  have config : importedNames (blankParts "Config") = ["Config"] :=
    importedNames_unbroken (by decide) (by decide)
  have version : importedNames (blankParts "__version__") = ["__version__"] :=
    importedNames_unbroken (by decide) (by decide)
  rw [importLines_eq, topNames_append, fixed, topNames, codeLines]
  simp only [List.map_cons, List.map_nil, List.flatMap_cons, List.flatMap_nil]
  rw [namesOn_importLine module, namesOn_importLine (part ".client" (by decide)),
    importedNames_unbroken client filled, namesOn_importLine (part ".config" (by decide)),
    namesOn_importLine package, models, config, version]
  rfl

theorem topNames_commandLines (names : List String) :
    topNames (commandLines names) = ["COMMANDS"] := by
  have entries : ∀ l ∈ names.map fun name => [.code "    ", .quoted name, .code ","],
      namesOn l = [] := by
    intro l member
    obtain ⟨name, -, rfl⟩ := List.mem_map.mp member
    exact namesOn_further (by decide) _
  rw [commandLines, topNames_append, topNames_append, topNames_eq_nil entries]
  rfl

theorem topNames_applicationLines : topNames (applicationLines m) = ["app"] := by
  have name : isFurther "    name=" = true := isFurther_blank _
  have help : isFurther "    help=" = true := isFurther_blank _
  rw [applicationLines, topNames_append, topNames, topNames, codeLines]
  simp only [List.map_cons, List.map_nil, List.flatMap_cons, List.flatMap_nil]
  rw [namesOn_further name, namesOn_further help]
  repeat rw [namesOn_ofList]
  rfl

theorem topNames_versionLines : topNames (versionLines m) = ["_version_callback", "_root"] := by
  have shown : isFurther "        typer.echo(f\"" = true := isFurther_blank _
  rw [versionLines, codeLines, topNames]
  simp only [List.map_cons, List.map_nil, List.flatMap_cons, List.flatMap_nil]
  rw [namesOn_pieces shown]
  repeat rw [namesOn_ofList]
  rfl

theorem topNames_clientLines : topNames (clientLines m) = ["_get_client"] := by
  have early : isFurther "        return " = true := isFurther_blank _
  have late : isFurther "    return " = true := isFurther_blank _
  have head : namesOn (codeLine ("def _get_client(token: Optional[str] = None) -> "
      ++ m.clientClass ++ ":")) = ["_get_client"] := by
    have split : "def _get_client(token: Optional[str] = None) -> " ++ m.clientClass ++ ":"
        = "def _get_client(token:" ++ (" " ++ ("Optional[str] = None) -> " ++ m.clientClass
          ++ ":")) := by
      apply String.toList_injective
      simp only [String.toList_append]
      repeat rw [String.toList_ofList]
      rfl
    have first : blankParts "def _get_client(token:" = ["def", "_get_client(token:"] :=
      (blankParts_ofList _).trans rfl
    have level : isFurther ("def _get_client(token:" ++ (" " ++ ("Optional[str] = None) -> "
        ++ m.clientClass ++ ":"))) = false := by
      rw [isFurther_append (by decide)]
      rfl
    rw [codeLine, split, namesOn_level level, blankParts_append, first]
    rfl
  rw [clientLines, codeLines, topNames]
  simp only [List.map_cons, List.map_nil, List.flatMap_cons, List.flatMap_nil]
  rw [head, namesOn_pieces early, namesOn_pieces late]
  repeat rw [namesOn_ofList]
  rfl

theorem topNames_headerLines (module : IsUnbroken m.clientModule) (package : IsUnbroken m.package)
    (client : IsUnbroken m.clientClass) (filled : m.clientClass ≠ "") (names : List String) :
    topNames (headerLines m names) = headerNames m := by
  rw [headerLines]
  simp only [topNames_append, topNames_importLines m module package client filled,
    topNames_commandLines, topNames_applicationLines, topNames_versionLines, topNames_clientLines]
  rfl

theorem topNames_footerLines : topNames (footerLines m) = ["main"] := by
  have run : isFurther "    app(prog_name=" = true := isFurther_blank _
  rw [footerLines, topNames, codeLines, codeLines]
  simp only [List.map_cons, List.map_nil, List.cons_append, List.nil_append, List.flatMap_cons,
    List.flatMap_nil]
  rw [namesOn_further run]
  repeat rw [namesOn_ofList]
  rfl

theorem namesOn_flagLines (f : Flag) : ∀ l ∈ flagLines f, namesOn l = [] := by
  have reading : ∀ l ∈ readingLines f, namesOn l = [] := by
    intro l member
    have further : isFurther "        parser=rt." = true := by decide
    rw [readingLines] at member
    split at member
    · exact absurd member List.not_mem_nil
    · obtain rfl := List.mem_singleton.mp member
      exact namesOn_further (isFurther_of_pieces further _ _) _
  have typed : isFurther "    " = true := by decide
  intro l member
  rw [flagLines] at member
  simp only [List.mem_append, List.mem_cons, List.not_mem_nil, or_false] at member
  rcases member with ((rfl | rfl | rfl | rfl | rfl) | later) | rfl
  case inl.inr => exact reading l later
  case inl.inl.inl =>
    exact namesOn_further (isFurther_of_pieces (isFurther_of_pieces typed _ _) _ _) _
  all_goals exact namesOn_further (by decide) _

theorem topNames_functionLines (plan : Plan) {name : String} (plain : IsUnbroken name)
    (unopened : '(' ∉ name.toList) : topNames (functionLines m plan name) = [name] := by
  have opening : IsUnbroken (name ++ "(") := by
    intro c member
    rw [String.toList_append] at member
    exact (List.mem_append.mp member).elim (plain c) ((by decide : IsUnbroken "(") c)
  have head : namesOn (codeLine ("def " ++ name ++ "(")) = [name] := by
    have split : "def " ++ name ++ "(" = "def" ++ (" " ++ (name ++ "(")) := by
      apply String.toList_injective
      simp only [String.toList_append, List.append_assoc]
      repeat rw [String.toList_ofList]
      rfl
    have word : blankParts "def" = ["def"] := rfl
    have bracket : "(".toList = ['('] := rfl
    have before : ∀ c ∈ name.toList, (c != '(') = true := by
      intro c member
      refine bne_iff_ne.mpr ?_
      rintro rfl
      exact unopened member
    have level : isFurther ("def" ++ (" " ++ (name ++ "("))) = false := by
      rw [isFurther_append (by decide)]
      rfl
    rw [codeLine, split, namesOn_level level, blankParts_append, blankParts_unbroken opening, word,
      List.singleton_append, namesBoundBy, String.toList_append, bracket,
      List.takeWhile_append_of_pos before, List.takeWhile_cons_of_neg (by decide), List.append_nil,
      String.ofList_toList]
  have flags : topNames (plan.flags.flatMap flagLines) = [] := by
    refine topNames_eq_nil fun l member => ?_
    obtain ⟨f, -, among⟩ := List.mem_flatMap.mp member
    exact namesOn_flagLines f l among
  have body :
      topNames ((bodyOf plan).flatMap fun step => step.lines.map (Line.indented 1)) = [] := by
    refine topNames_eq_nil fun l member => ?_
    obtain ⟨step, -, among⟩ := List.mem_flatMap.mp member
    obtain ⟨inner, -, rfl⟩ := List.mem_map.mp among
    exact namesOn_further (by decide) inner
  have front : topNames [codeLine "", codeLine "",
      [.code "@app.command(", .quoted plan.operation.name, .code ", help=",
        .quoted (helpText m plan), .code ")"], codeLine ("def " ++ name ++ "("),
      codeLine "    params_file: Optional[str] = typer.Argument(",
      codeLine ("        None, metavar=\"[@params.json]\", "
        ++ "help=\"JSON file with parameters, prefixed with @.\""),
      codeLine "    ),"] = [name] := by
    have silent : namesOn [.code "@app.command(", .quoted plan.operation.name, .code ", help=",
        .quoted (helpText m plan), .code ")"] = [] := by
      have level : isFurther "@app.command(" = false := by
        rw [isFurther, String.toList_ofList]
        rfl
      rw [namesOn_level level, blankParts_ofList]
      rfl
    have shown : isFurther ("        None, metavar=\"[@params.json]\", "
        ++ "help=\"JSON file with parameters, prefixed with @.\"") = true := by
      rw [isFurther_append (by decide)]
      exact isFurther_blank _
    simp only [topNames, List.flatMap_cons, List.flatMap_nil, head, silent]
    rw [codeLine, codeLine, codeLine, namesOn_further shown]
    rfl
  rw [functionLines, topNames_append, topNames_append, topNames_append, front, flags, body]
  rfl

theorem Issues.topNames {taken names : List String} {plans : List Plan}
    (issues : Issues taken plans names) :
    topNames (List.zipWith (functionLines m) plans names).flatten = names := by
  have own : ∀ (plan : Plan) (op : String) (count : Nat),
      Package.topNames (functionLines m plan (underscored (identifier op ++ "_command") count))
        = [underscored (identifier op ++ "_command") count] := by
    intro plan op count
    have lower := isLowerChar_of_isLowerName (function_form op count).1
    refine topNames_functionLines m plan ?_ ?_
    · intro c member
      constructor <;>
      · rintro rfl
        exact absurd (lower _ member) (by decide)
    · intro member
      exact absurd (lower _ member) (by decide)
  induction issues with
  | nil => rfl
  | @cons taken names plan plans name renames _ ih =>
    obtain ⟨count, rfl⟩ := renames.eq_underscored
    rw [List.zipWith_cons_cons, List.flatten_cons, topNames_append, ih, methodName, own]
    rfl

/-- The top level of a program binds the names around its functions and those of the functions. -/
theorem topNames_programLines (module : IsUnbroken m.clientModule) (package : IsUnbroken m.package)
    (client : IsUnbroken m.clientClass) (filled : m.clientClass ≠ "") (plans : List Plan) :
    topNames (programLines m plans) = headerNames m ++ functionNames plans ++ ["main"] := by
  have functions := (issues_functionNamesFrom [] plans).topNames m
  rw [programLines, topNames_append, topNames_append,
    topNames_headerLines m module package client filled, topNames_footerLines, commandSources,
    functionNames, functions]

end Reading

section Scope

variable (service : Service) (settings : Settings) (client : Client) (command : String)

/-- The search for the names of functions ends for every list of plans. The names are as many as the
plans, different from each other, in the form of identifiers and no keywords, and no name that is
bound around the functions; with those they are what the program binds at its top level. -/
theorem functionNames_apart (plans : List Plan) :
    Issues [] plans (functionNames plans) ∧ (functionNames plans).length = plans.length ∧
    (functionNames plans).Nodup ∧
    (∀ name ∈ functionNames plans, isLowerName name.toList = true ∧ name ∉ keywords ∧
      name ∉ outerNames (metaOf service settings client command)) ∧
    (outerNames (metaOf service settings client command) ++ functionNames plans).Nodup ∧
    (IsUnbroken client.module → IsUnbroken service.name →
      IsUnbroken (packageName command) →
      topNames (programLines (metaOf service settings client command) plans)
        = headerNames (metaOf service settings client command) ++ functionNames plans
          ++ ["main"]) := by
  have issues : Issues [] plans (functionNames plans) := issues_functionNamesFrom [] plans
  have distinct : (functionNames plans).Nodup := by
    rw [functionNames, functionNamesFrom_eq]
    exact (functionNamesOf_fresh [] _).1
  have named : (metaOf service settings client command).clientClass =
      service.name ++ "Client" := rfl
  have forms : ∀ name ∈ functionNames plans, isLowerName name.toList = true ∧ name ∉ keywords ∧
      name ∉ outerNames (metaOf service settings client command) := by
    intro name member
    obtain ⟨op, count, rfl⟩ := issues.form name member
    obtain ⟨lower, free⟩ := function_form op count
    refine ⟨lower, free, fun outer => ?_⟩
    exact outerNames_lastLetter? named _ outer (lastLetter?_function op count)
  refine ⟨issues, functionNamesFrom_length plans [], distinct, forms, ?_, ?_⟩
  · refine List.nodup_append.mpr ⟨outerNames_nodup named, distinct, ?_⟩
    rintro outer among name member rfl
    exact (forms outer member).2.2 among
  · intro module unbroken package
    have ending : IsUnbroken (service.name ++ "Client") := by
      intro c member
      rw [String.toList_append] at member
      exact (List.mem_append.mp member).elim (unbroken c) ((by decide : IsUnbroken "Client") c)
    have filled : service.name ++ "Client" ≠ "" := by
      intro empty
      have characters := congrArg String.toList empty
      rw [String.toList_append] at characters
      exact absurd (List.append_eq_nil_iff.mp characters).2 (by decide)
    exact topNames_programLines (metaOf service settings client command) module package ending
      filled plans

private def feeding (name : String) : Plan :=
  ⟨⟨name, "/", "POST", "", [], none, none, false⟩, false, [], [], [], [], "", "", [], false⟩

/-- Two operations with the same method, and one that is called like the class of a client. -/
theorem functionNames_apart_feedings :
    topNames (programLines (metaOf ⟨⟨"dogs", "Kennel"⟩, none, "", false, []⟩ (fun _ => none)
        ⟨"client", "1", none⟩ "kennel") [feeding "Feed", feeding "feed", feeding "KennelClient"])
      = ["annotations", "os", "List", "Optional", "typer", "rt", "models", "KennelClient", "Config",
        "__version__", "DEFAULT_ENDPOINT", "ENDPOINT_ENV", "COMMANDS", "app", "_version_callback",
        "_root", "_get_client", "feed_command", "feed_command_", "kennel_client_command",
        "main"] := by
  obtain ⟨-, -, -, -, -, bound⟩ := functionNames_apart ⟨⟨"dogs", "Kennel"⟩, none, "", false, []⟩
    (fun _ => none) ⟨"client", "1", none⟩ "kennel"
    [feeding "Feed", feeding "feed", feeding "KennelClient"]
  rw [bound (by decide) (by decide) (by decide)]
  rfl

end Scope

end ServiceCli.Package
