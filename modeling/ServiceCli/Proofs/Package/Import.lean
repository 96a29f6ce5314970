import ServiceCli.Proofs.Package.Manifest
import ServiceCli.Proofs.Package.Scope
import ServiceCli.Proofs.Script.Grammar

set_option autoImplicit false
set_option relaxedAutoImplicit false

namespace ServiceCli.Script

/-- A statement that imports one name from a module, whose own name has parts. -/
structure Import where
  module : List String
  name : String
  deriving DecidableEq, Repr

def takeModule : List Token → Option (List String × List Token)
  | .word part :: .mark '.' :: rest =>
    if isName part then (takeModule rest).map fun (parts, rest) => (part :: parts, rest) else none
  | .word part :: rest => if isName part then some ([part], rest) else none
  | _ => none

def import? : List Token → Option Import
  | .word "from" :: rest =>
    match takeModule rest with
    | some (module, [.word "import", .word name]) =>
      if isName name then some ⟨module, name⟩ else none
    | _ => none
  | _ => none

def readImport (line : String) : Option Import := (tokens? line.toList).bind import?

/-- The name of a module in writing. -/
def dotted : List String → String
  | [] => ""
  | [part] => part
  | part :: rest => part ++ "." ++ dotted rest

def dottedTokens : List String → List Token
  | [] => []
  | [part] => [.word part]
  | part :: rest => .word part :: .mark '.' :: dottedTokens rest

section Reading

variable {parts : List String} {rest : List Char}

theorem tokens?_dotted (words : ∀ part ∈ parts, isWord part = true) (ends : endsWord rest = true) :
    tokens? ((dotted parts).toList ++ rest) = (tokens? rest).map (dottedTokens parts ++ ·) := by
  fun_induction dotted parts with
  | case1 => simp [dottedTokens]
  | case2 part => exact tokens?_word (words part List.mem_cons_self) ends
  | case3 part others more ih =>
    have point : (".".toList ++ ((dotted others).toList ++ rest))
        = '.' :: ((dotted others).toList ++ rest) := rfl
    have later := ih fun other member => words other (List.mem_cons_of_mem part member)
    rw [String.toList_append, String.toList_append, List.append_assoc, List.append_assoc, point,
      tokens?_word (words part List.mem_cons_self) rfl, tokens?_mark (by decide), later]
    cases others with
    | nil => exact absurd rfl more
    | cons other others => cases tokens? rest <;> rfl

theorem takeModule_dottedTokens (filled : parts ≠ []) {after : List Token}
    (ends : ∀ tokens, after ≠ .mark '.' :: tokens) :
    takeModule (dottedTokens parts ++ after) =
      if parts.all isName then some (parts, after) else none := by
  fun_induction dottedTokens parts with
  | case1 => exact absurd rfl filled
  | case2 part =>
    rw [List.singleton_append, takeModule]
    · simp
    · exact fun tokens same => ends tokens same
  | case3 part others more ih =>
    rw [List.cons_append, List.cons_append, takeModule, ih more, List.all_cons]
    cases isName part <;> cases others.all isName <;> rfl

theorem readImport_importLine {name : String} (filled : parts ≠ [])
    (words : ∀ part ∈ parts, isWord part = true) (word : isWord name = true)
    (named : isName name = true) :
    readImport (Package.importLine (dotted parts) name) =
      if parts.all isName then some ⟨parts, name⟩ else none := by
  have blank (cs : List Char) : " ".toList ++ cs = ' ' :: cs := rfl
  have last : tokens? name.toList = some [.word name] := by
    have read : tokens? (name.toList ++ []) = _ := tokens?_word word rfl
    rwa [List.append_nil, tokens?_nil] at read
  have lexed : tokens? (Package.importLine (dotted parts) name).toList =
      some (.word "from" :: (dottedTokens parts ++ [.word "import", .word name])) := by
    simp only [Package.importLine, String.toList_append, blank]
    rw [tokens?_word (by decide) rfl, tokens?_blank, tokens?_dotted words rfl, tokens?_blank,
      tokens?_word (by decide) rfl, tokens?_blank, last]
    rfl
  have taken : takeModule (dottedTokens parts ++ [.word "import", .word name]) = _ :=
    takeModule_dottedTokens filled (by rintro tokens ⟨⟩)
  rw [readImport, lexed, Option.bind_some, import?, taken]
  cases parts.all isName
  · rfl
  · exact if_pos named

end Reading

end ServiceCli.Script

namespace ServiceCli.Package

open ServiceCli.Command ServiceCli.Data ServiceCli.Service ServiceCli.Settings ServiceCli.Source
open ServiceCli.Script (isWord isWordChar isName readImport readImport_importLine)

/-! ### The name of a package -/

section Name

variable {command : String}

theorem isWordChar_of_isLowerChar {c : Char} (lower : isLowerChar c = true) :
    isWordChar c = true := by
  have letters : isWordChar c = (c.isUpper || isSmall c || isAsciiDigit c || c == '_') := rfl
  rw [isLowerChar, Bool.or_assoc] at lower
  rw [letters, Bool.or_assoc, Bool.or_assoc, lower, Bool.or_true]

theorem isWord_of_isLowerName {name : String} (lower : isLowerName name.toList = true) :
    isWord name = true := by
  have filled : name ≠ "" := by
    rintro rfl
    cases lower
  rw [isWord, Bool.and_eq_true, List.all_eq_true, bne_iff_ne]
  exact ⟨fun c member => isWordChar_of_isLowerChar (isLowerChar_of_isLowerName lower c member),
    filled⟩

theorem packageName_cons {c : Char} {rest : List Char} (spelt : command.toList = c :: rest)
    (small : isSmall c = true) :
    (packageName command).toList = c :: rest.map fun c => if c == '-' then '_' else c := by
  have solid : (c == '-') = false := by
    refine beq_eq_false_iff_ne.mpr ?_
    rintro rfl
    cases small
  rw [packageName, replaceChar, String.toList_ofList, spelt, List.map_cons, solid]
  rfl

theorem isLowerChar_packageChar {c : Char} (named : isCommandChar c = true) :
    isLowerChar (if c == '-' then '_' else c) = true := by
  rw [isCommandChar, Bool.or_eq_true] at named
  split
  · rfl
  · rename_i solid
    exact named.resolve_right solid

theorem isLowerName_packageName (named : isCommandName command.toList = true) :
    isLowerName (packageName command).toList = true := by
  cases spelt : command.toList with
  | nil => rw [spelt] at named; cases named
  | cons c rest =>
    rw [spelt, isCommandName, Bool.and_eq_true] at named
    rw [packageName_cons spelt named.1, isLowerName, named.1, Bool.true_or, Bool.true_and,
      List.all_map, List.all_eq_true]
    exact fun d member => isLowerChar_packageChar (List.all_eq_true.mp named.2 d member)

theorem packageName_mem_keywords : packageName command ∈ keywords ↔ command ∈ keywords := by
  by_cases dash : '-' ∈ command.toList
  · -- neither is a keyword: the command has a dash and its package an underscore
    have undashed : keywords.all (fun word => !word.toList.contains '-') = true := by
      simp only [keywords, List.all_cons, List.all_nil]
      repeat rw [String.toList_ofList]
      rfl
    have mark : '_' ∈ (packageName command).toList := by
      rw [packageName, replaceChar, String.toList_ofList]
      exact List.mem_map.mpr ⟨'-', dash, rfl⟩
    refine iff_of_false (fun keyword => keyword_unbroken keyword mark) fun keyword => ?_
    simpa [dash] using List.all_eq_true.mp undashed command keyword
  · have same : packageName command = command := by
      apply String.toList_injective
      rw [packageName, replaceChar, String.toList_ofList]
      conv_rhs => rw [← List.map_id command.toList]
      refine List.map_congr_left fun c member => if_neg ?_
      rw [beq_iff_eq]
      rintro rfl
      exact dash member
    rw [same]

theorem isName_packageName (named : isCommandName command.toList = true) :
    isName (packageName command) = !keywords.contains command := by
  have keyword : keywords.contains (packageName command) = keywords.contains command := by
    rw [Bool.eq_iff_iff, List.contains_iff_mem, List.contains_iff_mem, packageName_mem_keywords]
  have letter : ((packageName command).toList.take 1).any Char.isDigit = false := by
    cases spelt : command.toList with
    | nil => rw [spelt] at named; cases named
    | cons c rest =>
      rw [spelt, isCommandName, Bool.and_eq_true] at named
      have digit : c.isDigit = false := isAsciiDigit_of_isSmall named.1
      rw [packageName_cons spelt named.1, List.take_succ_cons, List.take_zero, List.any_cons, digit]
      rfl
  rw [isName, letter, keyword]
  rfl

end Name

/-! ### Commands named after their services -/

section Default

theorem replaceChar_back {a b : Char} {s : String} (absent : b ∉ s.toList) :
    replaceChar b a (replaceChar a b s) = s := by
  apply String.toList_injective
  rw [replaceChar, replaceChar, String.toList_ofList, String.toList_ofList, List.map_map]
  conv_rhs => rw [← List.map_id s.toList]
  refine List.map_congr_left fun c member => ?_
  have other : c ≠ b := fun same => absent (same ▸ member)
  by_cases same : c = a <;> simp [same, other]

theorem default_not_mem_keywords {service command : String}
    (named : commandName (defaultCommandName service) = .ok command) : command ∉ keywords := by
  obtain ⟨begins, lower, unreserved⟩ := identifier_form service
  have undashed : '-' ∉ (identifier service).toList := fun member =>
    absurd (lower '-' member) (by decide)
  have filled : defaultCommandName service ≠ "" := by
    intro empty
    have spelt : identifier service = "" := by
      rw [← replaceChar_back undashed (a := '_'), ← defaultCommandName, empty]
      rfl
    rw [spelt] at begins
    cases begins
  have kept : command = defaultCommandName service :=
    (commandName_eq_ok.mp named).1.trans (dashed_eq_self (defaultCommandName_chars service) filled)
  rw [← packageName_mem_keywords, kept, packageName, defaultCommandName, replaceChar_back undashed]
  exact unreserved

end Default

/-! ### The lines of a package -/

def IsLineOf (line content : String) : Prop :=
  line.toList ∈ content.toList.splitOnP (· == '\n')

theorem isLineOf_textOf {lines : List Line} {l : Line} (member : l ∈ lines)
    (whole : '\n' ∉ l.text.toList) : IsLineOf l.text (textOf lines) := by
  induction lines with
  | nil => exact absurd member List.not_mem_nil
  | cons first lines ih =>
    have ended : (textOf (first :: lines)).toList
        = first.text.toList ++ '\n' :: (textOf lines).toList := by
      rw [textOf_cons, String.toList_append, String.toList_append, List.append_assoc]
      rfl
    rw [IsLineOf, ended, List.splitOnP_append_cons _ _ rfl, List.mem_append]
    rcases List.mem_cons.mp member with rfl | later
    · have inside : ∀ c ∈ l.text.toList, (c == '\n') = false := by
        intro c among
        refine beq_eq_false_iff_ne.mpr ?_
        rintro rfl
        exact whole among
      rw [List.splitOnP_eq_singleton inside]
      exact .inl List.mem_cons_self
    · exact .inr (ih later)

/-! ### The statements that import from a package -/

section Package

variable {model : Value} {settings : Settings} {client : Client} {policy : Option AuthPolicy}
variable {c : Compiled} {command : String}

theorem package_of_compile (compiled : compile model settings client policy = .ok c) :
    c.package = packageName c.command := by
  obtain ⟨_, -, compiled⟩ := Outcome.bind_eq_ok.mp compiled
  obtain ⟨_, -, compiled⟩ := Outcome.bind_eq_ok.mp compiled
  obtain ⟨_, -, compiled⟩ := Outcome.bind_eq_ok.mp compiled
  obtain ⟨_, -, compiled⟩ := Outcome.bind_eq_ok.mp compiled
  cases Outcome.pure_eq_ok.mp compiled
  rfl

theorem text_codeLine (s : String) : (codeLine s).text = s := by
  simp [codeLine, Line.text, Piece.text]

theorem importLine_whole {module name : String} (plain : '\n' ∉ module.toList)
    (also : '\n' ∉ name.toList) : '\n' ∉ (importLine module name).toList := by
  simp only [importLine, String.toList_append, List.mem_append, not_or]
  exact ⟨by decide, by decide, plain, by decide, by decide, by decide, also⟩

/-- The two statements are lines of the program and of the module that runs it. -/
theorem importLines_in_files (compiled : compile model settings client policy = .ok c) :
    ∃ program runner, ⟨"src/" ++ c.package ++ "/cli.py", program⟩ ∈ c.files ∧
      IsLineOf (importLine c.package "__version__") program ∧
      ⟨"src/" ++ c.package ++ "/__main__.py", runner⟩ ∈ c.files ∧
      IsLineOf (importLine (c.package ++ ".cli") "main") runner := by
  obtain ⟨_, plans, -, -, named, -, files⟩ := compile_eq_ok compiled
  have package := package_of_compile compiled
  have lower := isLowerName_packageName (isCommandName_of_commandName named)
  have plain : '\n' ∉ c.package.toList := fun member =>
    absurd (isLowerChar_of_isLowerName lower _ (package ▸ member)) (by decide)
  have dotless : '\n' ∉ (c.package ++ ".cli").toList := by
    rw [String.toList_append, List.mem_append, not_or]
    exact ⟨plain, by decide⟩
  have inside : codeLine (importLine c.package "__version__") ∈
      programLines (metaOf c.service settings client c.command) plans := by
    have imports : codeLine (importLine c.package "__version__") ∈
        importLines (metaOf c.service settings client c.command) := by
      rw [importLines_eq, package]
      exact List.mem_append_right _ (by simp [codeLines, metaOf])
    simp only [programLines, headerLines, List.mem_append]
    simp [imports]
  have running : codeLine (importLine (c.package ++ ".cli") "main") ∈
      mainLines (metaOf c.service settings client c.command) := by
    have spelt : "from " ++ c.package ++ ".cli import main"
        = importLine (c.package ++ ".cli") "main" := by
      apply String.toList_injective
      simp only [importLine, String.toList_append, List.append_assoc]
      rfl
    rw [mainLines, ← spelt, package]
    simp [codeLines, metaOf]
  have first := isLineOf_textOf inside
  have second := isLineOf_textOf running
  rw [text_codeLine] at first second
  refine ⟨_, _, ?_, first (importLine_whole plain (by decide)), ?_,
    second (importLine_whole dotless (by decide))⟩
  · rw [files, filesOf, package]
    simp [metaOf]
  · rw [files, filesOf, package]
    simp [metaOf]

/-- The package of an accepted command is spelt like a name in small letters, and is a keyword just
when the command is one, which no command named after its service is. The two statements that import
from the package, which are lines of every package compiled under this command, are read as such
unless it is a keyword; if it is, neither of them is a statement of the language. -/
theorem package_imports {given : String} (accepted : commandName given = .ok command) :
    isLowerName (packageName command).toList = true ∧
    (packageName command ∈ keywords ↔ command ∈ keywords) ∧
    (∀ service, given = defaultCommandName service → command ∉ keywords) ∧
    readImport (importLine (packageName command) "__version__")
      = (if command ∈ keywords then none else some ⟨[packageName command], "__version__"⟩) ∧
    readImport (importLine (packageName command ++ ".cli") "main")
      = (if command ∈ keywords then none else some ⟨[packageName command, "cli"], "main"⟩) ∧
    ∀ model settings client policy c, compile model settings client policy = .ok c →
      c.command = command → c.package = packageName command ∧
      ∃ program runner, ⟨"src/" ++ c.package ++ "/cli.py", program⟩ ∈ c.files ∧
        IsLineOf (importLine c.package "__version__") program ∧
        ⟨"src/" ++ c.package ++ "/__main__.py", runner⟩ ∈ c.files ∧
        IsLineOf (importLine (c.package ++ ".cli") "main") runner := by
  have named := isCommandName_of_commandName accepted
  have lower := isLowerName_packageName named
  have word := isWord_of_isLowerName lower
  have package := isName_packageName named
  have whole : readImport (importLine (packageName command) "__version__")
      = if [packageName command].all isName then some ⟨[packageName command], "__version__"⟩
        else none := by
    have read : readImport (importLine (Script.dotted [packageName command]) "__version__") = _ :=
      readImport_importLine (by simp) (List.forall_mem_singleton.mpr word) (by decide) (by decide)
    exact read
  have part : readImport (importLine (packageName command ++ ".cli") "main")
      = if [packageName command, "cli"].all isName
        then some ⟨[packageName command, "cli"], "main"⟩ else none := by
    have read : readImport (importLine (Script.dotted [packageName command, "cli"]) "main") = _ :=
      readImport_importLine (by simp)
        (List.forall_mem_cons.mpr ⟨word, List.forall_mem_singleton.mpr (by decide)⟩)
        (by decide) (by decide)
    rwa [Script.dotted, Script.dotted, String.append_assoc] at read
    simp
  have cli : isName "cli" = true := by decide
  refine ⟨lower, packageName_mem_keywords, ?_, ?_, ?_, ?_⟩
  · rintro service rfl
    exact default_not_mem_keywords accepted
  · rw [whole]
    by_cases keyword : command ∈ keywords <;> simp [package, keyword]
  · rw [part]
    by_cases keyword : command ∈ keywords <;> simp [package, keyword, cli]
  · rintro model settings client policy c compiled rfl
    exact ⟨package_of_compile compiled, importLines_in_files compiled⟩

/-- A booth with nothing to sell, and a name for its command. -/
private def booth : Value :=
  .object [("shapes", .object [("market#Booth", .object [("type", .str "service")])])]

private def called (name : String) : Settings
  | .cliName => some name
  | _ => none

private def boothClient : Client := ⟨"client", "1", none⟩

/-- A name of two words makes a package that can be imported from. -/
theorem package_imports_booth : commandName "Booth Widgets" = .ok "booth-widgets" ∧
    readImport (importLine "booth_widgets" "__version__")
      = some ⟨["booth_widgets"], "__version__"⟩ ∧
    readImport (importLine "booth_widgets.cli" "main") = some ⟨["booth_widgets", "cli"], "main"⟩ ∧
    ∃ c, compile booth (called "Booth Widgets") boothClient none = .ok c ∧
      c.package = "booth_widgets" := by
  have accepted : commandName "Booth Widgets" = .ok "booth-widgets" := rfl
  obtain ⟨-, -, -, whole, part, files⟩ := package_imports accepted
  obtain ⟨c, compiled, same⟩ : ∃ c,
      compile booth (called "Booth Widgets") boothClient none = .ok c ∧
        c.command = "booth-widgets" := ⟨_, rfl, rfl⟩
  exact ⟨accepted, whole, part, c, compiled, (files _ _ _ _ c compiled same).1⟩

/-- A keyword is accepted as the name of a command, and the package of that name cannot be imported
from. -/
theorem package_imports_keyword : commandName "class" = .ok "class" ∧
    packageName "class" ∈ keywords ∧
    readImport (importLine (packageName "class") "__version__") = none ∧
    readImport (importLine (packageName "class" ++ ".cli") "main") = none ∧
    ∃ c, compile booth (called "class") boothClient none = .ok c ∧ c.package = "class" := by
  have whole : readImport (importLine (Script.dotted ["class"]) "__version__") = _ :=
    readImport_importLine (by simp) (by decide) (by decide) (by decide)
  have part : readImport (importLine (Script.dotted ["class", "cli"]) "main") = _ :=
    readImport_importLine (by simp) (by decide) (by decide) (by decide)
  refine ⟨rfl, by decide, whole, part, _, rfl, rfl⟩

end Package

end ServiceCli.Package
