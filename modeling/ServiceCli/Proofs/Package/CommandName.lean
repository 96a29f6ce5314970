import ServiceCli.Package.Compile
import ServiceCli.Proofs.Command.Identifier
import ServiceCli.Proofs.Outcome

set_option autoImplicit false
set_option relaxedAutoImplicit false

namespace ServiceCli.Text

/-! ### Words and blanks -/

section Blanks

variable {cs : List Char}

theorem stripList_eq_self (solid : ∀ c ∈ cs, isBlank c = false) : stripList cs = cs := by
  have kept {ds : List Char} (solid : ∀ c ∈ ds, isBlank c = false) :
      ds.dropWhile isBlank = ds := by
    cases ds with
    | nil => rfl
    | cons c ds => exact List.dropWhile_cons_of_neg (by simp [solid c List.mem_cons_self])
  rw [stripList, kept solid, kept fun c member => solid c (List.mem_reverse.mp member),
    List.reverse_reverse]

theorem wordsFrom_eq_singleton (solid : ∀ c ∈ cs, isBlank c = false) {word : List Char}
    (filled : word ++ cs ≠ []) : wordsFrom word cs = [word ++ cs] := by
  induction cs generalizing word with
  | nil =>
    rw [List.append_nil] at filled ⊢
    rw [wordsFrom, if_neg (by simpa using filled)]
  | cons c cs ih =>
    have inside : ¬isBlank c = true := by simp [solid c List.mem_cons_self]
    rw [wordsFrom, if_neg inside,
      ih (fun d member => solid d (List.mem_cons_of_mem c member)) (by simp), List.append_assoc]
    rfl

theorem wordsFrom_solid {word : List Char} (begun : ∀ c ∈ word, isBlank c = false)
    (cs : List Char) : ∀ w ∈ wordsFrom word cs, ∀ c ∈ w, isBlank c = false := by
  fun_induction wordsFrom word cs with
  | case1 word empty => exact fun w member => absurd member List.not_mem_nil
  | case2 word filled => exact List.forall_mem_singleton.mpr begun
  | case3 word c rest blank empty ih => exact ih fun d member => absurd member List.not_mem_nil
  | case4 word c rest blank filled ih =>
    exact List.forall_mem_cons.mpr ⟨begun, ih fun d member => absurd member List.not_mem_nil⟩
  | case5 word c rest solid ih =>
    refine ih (List.forall_mem_append.mpr ⟨begun, List.forall_mem_singleton.mpr ?_⟩)
    simpa using solid

theorem mem_intercalate {sep : List Char} {parts : List (List Char)} {c : Char}
    (member : c ∈ sep.intercalate parts) : c ∈ sep ∨ ∃ part ∈ parts, c ∈ part := by
  induction parts with
  | nil => exact absurd member List.not_mem_nil
  | cons part parts ih =>
    cases parts with
    | nil =>
      rw [List.intercalate_singleton] at member
      exact .inr ⟨part, List.mem_cons_self, member⟩
    | cons next parts =>
      rw [List.intercalate_cons_cons, List.mem_append, List.mem_append] at member
      rcases member with (own | between) | later
      · exact .inr ⟨part, List.mem_cons_self, own⟩
      · exact .inl between
      · exact (ih later).imp_right fun ⟨other, among, within⟩ =>
          ⟨other, List.mem_cons_of_mem part among, within⟩

end Blanks

end ServiceCli.Text

namespace ServiceCli.Command

open ServiceCli.Text (isBlank)

/-! ### Dashed names -/

theorem dashed_solid (name : String) : ∀ c ∈ (dashed name).toList, isBlank c = false := by
  intro c member
  rw [dashed, String.toList_intercalate] at member
  rcases Text.mem_intercalate member with dash | ⟨part, among, within⟩
  · rw [List.mem_singleton.mp dash]
    decide
  · obtain ⟨word, told, rfl⟩ := List.mem_map.mp among
    obtain ⟨w, there, rfl⟩ := List.mem_map.mp told
    rw [String.toList_ofList] at within
    exact Text.wordsFrom_solid (fun _ begun => absurd begun List.not_mem_nil) _ w there c within

theorem not_isBlank_of_isCommandChar {c : Char} (named : isCommandChar c = true) :
    isBlank c = false := by
  obtain ⟨low, high, -⟩ := range_of_isCommandChar named
  simp only [isBlank, Text.inRanges, Text.blankRanges, List.any_cons, List.any_nil,
    Bool.or_false, Bool.or_eq_false_iff, Bool.and_eq_false_iff, decide_eq_false_iff_not]
  omega

theorem dashed_eq_self {name : String} (named : ∀ c ∈ name.toList, isCommandChar c = true)
    (filled : name ≠ "") : dashed name = name := by
  have solid : ∀ c ∈ name.toList, isBlank c = false :=
    fun c member => not_isBlank_of_isCommandChar (named c member)
  have whole : [] ++ name.toList ≠ [] := by simpa using filled
  rw [dashed, Text.strip, Text.stripList_eq_self solid, String.ofList_toList, Text.lower,
    lowerFrom_eq_self named, String.ofList_toList, Text.words,
    Text.wordsFrom_eq_singleton solid whole]
  simp

/-! ### The pattern of command names -/

/-- A text that the pattern of command names describes: a small letter, and after it small letters,
digits, underscores and dashes. -/
def IsCommandText (cs : List Char) : Prop :=
  ∃ c rest, cs = c :: rest ∧ ('a' ≤ c ∧ c ≤ 'z') ∧
    ∀ d ∈ rest, ('a' ≤ d ∧ d ≤ 'z') ∨ ('0' ≤ d ∧ d ≤ '9') ∨ d = '_' ∨ d = '-'

/-- A text that the pattern is found in from end to end, where a line break may stand last. -/
def FitsPattern (cs : List Char) : Prop :=
  IsCommandText cs ∨ ∃ body, cs = body ++ ['\n'] ∧ IsCommandText body

theorem isCommandName_iff {cs : List Char} : isCommandName cs = true ↔ IsCommandText cs := by
  cases cs with
  | nil => exact iff_of_false nofun nofun
  | cons c cs =>
    have char (d : Char) : isCommandChar d = true ↔
        ('a' ≤ d ∧ d ≤ 'z') ∨ ('0' ≤ d ∧ d ≤ '9') ∨ d = '_' ∨ d = '-' := by
      simp only [isCommandChar, isSmall, isAsciiDigit, Bool.or_eq_true, Bool.and_eq_true,
        decide_eq_true_eq, beq_iff_eq, or_assoc]
    rw [isCommandName, Bool.and_eq_true, List.all_eq_true, isSmall, Bool.and_eq_true,
      decide_eq_true_eq, decide_eq_true_eq]
    simp only [char]
    constructor
    · rintro ⟨small, rest⟩
      exact ⟨c, cs, rfl, small, rest⟩
    · rintro ⟨_, _, ⟨⟩, small, rest⟩
      exact ⟨small, rest⟩

/-- Where there is no line break the pattern describes the text to its last character. -/
theorem fitsPattern_iff {cs : List Char} (unbroken : '\n' ∉ cs) :
    FitsPattern cs ↔ IsCommandText cs := by
  refine ⟨?_, .inl⟩
  rintro (whole | ⟨body, rfl, -⟩)
  · exact whole
  · exact absurd (List.mem_append_right body List.mem_cons_self) unbroken

theorem isCommandChar_of_isCommandName {cs : List Char} (named : isCommandName cs = true) :
    ∀ c ∈ cs, isCommandChar c = true := by
  cases cs with
  | nil => exact nomatch named
  | cons c cs =>
    rw [isCommandName, Bool.and_eq_true] at named
    refine List.forall_mem_cons.mpr ⟨?_, List.all_eq_true.mp named.2⟩
    rw [isCommandChar, named.1]
    rfl

variable {given command name : String}

theorem commandName_eq_ok :
    commandName given = .ok command ↔ command = dashed given ∧ isCommandName command.toList := by
  have told : commandName given = if isCommandName (dashed given).toList then .ok (dashed given)
    else .error (.usage (.invalidCommandName given)) := rfl
  rw [told]
  split
  · rename_i valid
    rw [Except.ok.injEq, eq_comm]
    exact ⟨fun same => ⟨same, same ▸ valid⟩, And.left⟩
  · rename_i invalid
    simp only [reduceCtorEq, false_iff]
    intro ⟨same, valid⟩
    rw [same] at valid
    exact invalid valid

theorem isCommandName_of_commandName (named : commandName given = .ok name) :
    isCommandName name.toList = true := (commandName_eq_ok.mp named).2

theorem commandName_eq_self (named : isCommandName name.toList = true) :
    commandName name = .ok name := by
  have filled : name ≠ "" := by
    rintro rfl
    cases named
  have kept := dashed_eq_self (isCommandChar_of_isCommandName named) filled
  exact commandName_eq_ok.mpr ⟨kept.symm, named⟩

/-! ### Names made of services -/

def BeginsWithLetter (cs : List Char) : Prop :=
  ∃ c rest, cs = c :: rest ∧ (('a' ≤ c ∧ c ≤ 'z') ∨ ('A' ≤ c ∧ c ≤ 'Z'))

section Letter

variable (c : Char) (cs : List Char)

theorem splitHumps_cons : ∃ ds, splitHumps (c :: cs) = c :: ds := by
  cases cs with
  | nil => exact ⟨[], rfl⟩
  | cons d cs =>
    rw [splitHumps]
    split
    · exact ⟨_, rfl⟩
    · exact ⟨_, rfl⟩

theorem splitAcronyms_cons : ∃ ds, splitAcronyms (c :: cs) = c :: ds := by
  match cs with
  | [] => exact ⟨[], rfl⟩
  | [d] => exact ⟨[d], rfl⟩
  | d :: e :: cs =>
    rw [splitAcronyms]
    split
    · exact ⟨_, rfl⟩
    · exact ⟨_, rfl⟩

variable {c}

theorem identifierChar_of_isSmall (small : isSmall c = true) : identifierChar c = c := by
  rw [identifierChar, small]
  rfl

theorem ne_underscore_of_isSmall (small : isSmall c = true) : c ≠ '_' := by
  rintro rfl
  cases small

theorem squeeze_cons_of_ne (solid : c ≠ '_') : squeeze (c :: cs) = c :: squeeze cs :=
  squeeze.eq_2 c cs fun _ same => absurd same solid

theorem trimUnderscores_cons_of_ne (solid : c ≠ '_') :
    ∃ ds, trimUnderscores (c :: cs) = c :: ds := by
  have front : (c :: cs).dropWhile (· == '_') = c :: cs :=
    List.dropWhile_cons_of_neg (by simpa using solid)
  have last : [c].dropWhile (· == '_') = [c] :=
    List.dropWhile_cons_of_neg (by simpa using solid)
  rw [trimUnderscores, front, List.reverse_cons, List.dropWhile_append, last]
  split
  · exact ⟨[], rfl⟩
  · exact ⟨_, List.reverse_append ..⟩

theorem lowerChar_letter (letter : ('a' ≤ c ∧ c ≤ 'z') ∨ ('A' ≤ c ∧ c ≤ 'Z')) :
    ∃ d, isSmall d = true ∧ Text.lowerChar c = [d] := by
  have bounds : (0x61 ≤ c.toNat ∧ c.toNat ≤ 0x7a) ∨ (0x41 ≤ c.toNat ∧ c.toNat ≤ 0x5a) := letter
  rw [Text.lowerChar, if_pos (by omega)]
  refine ⟨_, ?_, rfl⟩
  rcases letter with small | capital
  · have other : ¬('A' ≤ c && c ≤ 'Z') = true := by
      rw [← isCapital, Text.isCapital_iff]
      have least : 0x61 ≤ c.toNat := small.1
      omega
    rw [if_neg other]
    simpa [isSmall] using small
  · obtain ⟨n, few, point⟩ : ∃ n < 26, c.toNat + 32 = n + 0x61 := by
      have least : 0x41 ≤ c.toNat := capital.1
      have greatest : c.toNat ≤ 0x5a := capital.2
      exact ⟨c.toNat - 0x41, by omega, by omega⟩
    have each : ∀ n < 26, isSmall (Char.ofNat (n + 0x61)) = true := by decide
    rw [if_pos (by simpa using capital), point]
    exact each n few

theorem snakeCase_letter (letter : ('a' ≤ c ∧ c ≤ 'z') ∨ ('A' ≤ c ∧ c ≤ 'Z')) :
    ∃ d rest, snakeCase (c :: cs) = d :: rest ∧ isSmall d = true := by
  obtain ⟨humps, split⟩ := splitHumps_cons c cs
  obtain ⟨acronyms, parted⟩ := splitAcronyms_cons c humps
  obtain ⟨d, small, lowered⟩ := lowerChar_letter letter
  have latin : (c.toNat == 0x3a3) = false := by
    have bounds : (0x61 ≤ c.toNat ∧ c.toNat ≤ 0x7a) ∨ (0x41 ≤ c.toNat ∧ c.toNat ≤ 0x5a) := letter
    exact beq_eq_false_iff_ne.mpr (by omega)
  have first : Text.lowerFrom [] (c :: acronyms) = d :: Text.lowerFrom [c] acronyms := by
    rw [Text.lowerFrom, latin, lowered]
    rfl
  obtain ⟨rest, trimmed⟩ := trimUnderscores_cons_of_ne
    (squeeze ((Text.lowerFrom [c] acronyms).map identifierChar)) (ne_underscore_of_isSmall small)
  refine ⟨d, rest, ?_, small⟩
  rw [snakeCase, split, parted, first, List.map_cons, identifierChar_of_isSmall small,
    squeeze_cons_of_ne _ (ne_underscore_of_isSmall small), trimmed]

theorem isAsciiDigit_of_isSmall (small : isSmall c = true) : isAsciiDigit c = false := by
  rw [isSmall, Bool.and_eq_true, decide_eq_true_eq] at small
  refine Bool.eq_false_iff.mpr fun digit => ?_
  rw [isAsciiDigit, Bool.and_eq_true, decide_eq_true_eq, decide_eq_true_eq] at digit
  have order : 'a' ≤ '9' := Char.le_trans small.1 digit.2
  exact absurd order (by decide)

end Letter

theorem identifier_letter {name : String} (letter : BeginsWithLetter name.toList) :
    ∃ d rest, (identifier name).toList = d :: rest ∧ isSmall d = true := by
  obtain ⟨c, cs, spelt, letter⟩ := letter
  obtain ⟨d, rest, snake, small⟩ := snakeCase_letter cs letter
  have digit := isAsciiDigit_of_isSmall small
  rw [identifier, String.toList_ofList, spelt, identifierList, snake]
  simp only [List.isEmpty_cons, Bool.false_eq_true, if_false, digit]
  split
  · exact ⟨d, rest ++ ['_'], rfl, small⟩
  · exact ⟨d, rest, rfl, small⟩

theorem defaultCommandName_chars (service : String) :
    ∀ c ∈ (defaultCommandName service).toList, isCommandChar c = true := by
  intro c member
  rw [defaultCommandName, replaceChar, String.toList_ofList] at member
  obtain ⟨d, among, rfl⟩ := List.mem_map.mp member
  split
  · rfl
  · rw [isCommandChar, Bool.or_eq_true]
    exact .inl ((identifier_form service).2.1 d among)

theorem isCommandName_default {service : String} (letter : BeginsWithLetter service.toList) :
    isCommandName (defaultCommandName service).toList = true := by
  obtain ⟨d, rest, spelt, small⟩ := identifier_letter letter
  have chars := defaultCommandName_chars service
  have solid : (d == '_') = false := beq_eq_false_iff_ne.mpr (ne_underscore_of_isSmall small)
  have begun : (defaultCommandName service).toList
      = d :: rest.map fun c => if c == '_' then '-' else c := by
    rw [defaultCommandName, replaceChar, String.toList_ofList, spelt, List.map_cons, solid]
    rfl
  rw [begun] at chars ⊢
  rw [isCommandName, small, Bool.true_and, List.all_eq_true]
  exact (List.forall_mem_cons.mp chars).2

end ServiceCli.Command

namespace ServiceCli.Package

open ServiceCli.Command ServiceCli.Data ServiceCli.Service ServiceCli.Settings

section Unnamed

variable {service : Service} {settings : Settings}

theorem chosenCommand_default (letter : BeginsWithLetter service.name.toList)
    (unnamed : settings.given? .cliName = none) :
    chosenCommand service settings = .ok (defaultCommandName service.name) := by
  rw [chosenCommand, unnamed]
  exact commandName_eq_self (isCommandName_default letter)

/-- Without a name that is set, the package of such a service fails only with one of its plans. -/
theorem compile_default {model : Value} (letter : BeginsWithLetter service.name.toList)
    (unnamed : settings.given? .cliName = none)
    (read : chosenService model settings >>= extract model = .ok service) (client : Client)
    (policy : Option AuthPolicy) :
    compile model settings client policy
      = (plansOf (defaultCommandName service.name) (policy.getD (bearerAuth service))
          service.operations).map fun plans =>
        let about := metaOf service settings client (defaultCommandName service.name)
        ⟨defaultCommandName service.name, about.package, service, filesOf about plans⟩ := by
  obtain ⟨id, chosen, extracted⟩ := Outcome.bind_eq_ok.mp read
  rw [compile, chosen, Outcome.ok_bind, extracted, Outcome.ok_bind, assemble,
    chosenCommand_default letter unnamed, Outcome.ok_bind]
  cases plansOf _ _ service.operations <;> rfl

end Unnamed

/-- A name is accepted exactly when, dashed, it fits the pattern of command names. What is accepted
is described by the pattern to its last character, holds no blank, and is accepted again as it is.
The name made of a service that begins with a letter is accepted as it is; so where no name is set,
the package of such a service fails only with one of its plans. -/
theorem commandName_settled :
    (∀ given command, commandName given = .ok command ↔
      command = dashed given ∧ FitsPattern command.toList) ∧
    (∀ given command, commandName given = .ok command → IsCommandText command.toList ∧
      (∀ c ∈ command.toList, Text.isBlank c = false) ∧ commandName command = .ok command) ∧
    ∀ service : Service, BeginsWithLetter service.name.toList →
      commandName (defaultCommandName service.name) = .ok (defaultCommandName service.name) ∧
      ∀ model settings client policy, settings.given? .cliName = none →
        chosenService model settings >>= extract model = .ok service →
        compile model settings client policy
          = (plansOf (defaultCommandName service.name) (policy.getD (bearerAuth service))
              service.operations).map fun plans =>
            let about := metaOf service settings client (defaultCommandName service.name)
            ⟨defaultCommandName service.name, about.package, service, filesOf about plans⟩ := by
  refine ⟨fun given command => ?_, fun given command accepted => ?_, fun service letter => ?_⟩
  · rw [commandName_eq_ok, isCommandName_iff]
    refine and_congr_right fun same => (fitsPattern_iff fun broken => ?_).symm
    have solid := dashed_solid given _ (same ▸ broken)
    exact absurd solid (by decide)
  · have named := isCommandName_of_commandName accepted
    refine ⟨isCommandName_iff.mp named, ?_, commandName_eq_self named⟩
    exact fun c member =>
      not_isBlank_of_isCommandChar (isCommandChar_of_isCommandName named c member)
  · exact ⟨commandName_eq_self (isCommandName_default letter),
      fun model settings client policy unnamed read =>
        compile_default letter unnamed read client policy⟩

/-- The letter is needed: a digit in front is put behind a dash, which no command begins with. -/
example : commandName (defaultCommandName "2Go") = .error (.usage (.invalidCommandName "-2-go")) :=
  rfl

/-- A service whose name is a keyword in small letters, and which has no operations. -/
private def school : Value :=
  .object [("shapes", .object [("school#Class", .object [("type", .str "service")])])]

private def schoolClient : Client := ⟨"client", "1", none⟩

/-- Blanks of all kinds in a name that is given, and a service that is named like a keyword. -/
theorem commandName_settled_class :
    commandName " My\t2nd  Tool_\n" = .ok "my-2nd-tool_" ∧ IsCommandText "my-2nd-tool_".toList ∧
    commandName "my-2nd-tool_" = .ok "my-2nd-tool_" ∧
    commandName (defaultCommandName "Class") = .ok "class-" ∧
    ∃ c, compile school (fun _ => none) schoolClient none = .ok c ∧ c.command = "class-" := by
  obtain ⟨-, accepted, unnamed⟩ := commandName_settled
  have given : commandName " My\t2nd  Tool_\n" = .ok "my-2nd-tool_" := rfl
  obtain ⟨spelt, -, again⟩ := accepted _ _ given
  obtain ⟨service, read, named, none⟩ : ∃ service,
      chosenService school (fun _ => none) >>= extract school = .ok service ∧
        service.name = "Class" ∧ service.operations = [] := ⟨_, rfl, rfl, rfl⟩
  have letter : BeginsWithLetter service.name.toList := by
    rw [named]
    exact ⟨'C', _, rfl, by decide⟩
  obtain ⟨default, made⟩ := unnamed service letter
  have package := made school (fun _ => Option.none) schoolClient Option.none rfl read
  rw [named] at default package
  rw [none] at package
  exact ⟨given, spelt, again, default, _, package, rfl⟩

end ServiceCli.Package
