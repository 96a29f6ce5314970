import ServiceCli.Proofs.Package.CommandName
import ServiceCli.Proofs.Package.FreeText
import ServiceCli.Proofs.Toml.Reader

/-!
The manifest of a package, read as TOML. Main statement: a quoted string of JSON is a basic string
of TOML and denotes its text when one unit is enough for each character of it, and is no basic
string otherwise, since the two units of a character are no scalar values. So the manifest says what
the package says about itself where this holds of the version, the description and the client's
requirement; otherwise it is no TOML document.
-/

set_option autoImplicit false
set_option relaxedAutoImplicit false

namespace ServiceCli.Toml

open ServiceCli.Script (IsBasic charOf? charOf?_toNat)

section Character

variable {c : Char} {read : List Char}

theorem feed_digits (width n left : Nat) :
    feed Mode.next (.code read (width + (left + 1)) 0) (Literal.hexDigits width n)
      = some ([], .code read (left + 1) (n % 16 ^ width)) := by
  have digit : ∀ d < 16, Json.hexValue? (Literal.hexDigit d) = some d := by decide
  induction width generalizing n left with
  | zero => simp [Literal.hexDigits, feed, Nat.mod_one]
  | succ width ih =>
    have last : n % 16 ^ (width + 1) = 16 * (n / 16 % 16 ^ width) + n % 16 := by
      rw [Nat.pow_succ', Nat.mod_mul, Nat.add_comm]
    have front := ih (n / 16) (left + 1)
    have longer : width + 1 + (left + 1) = width + (left + 1 + 1) := by omega
    rw [Literal.hexDigits, longer, feed_after front, last]
    simp [feed, Mode.next, digit (n % 16) (Nat.mod_lt n (by decide))]

theorem feed_unitEscape {n : Nat} (small : n < 0x10000) :
    feed Mode.next (.text read) (Json.unitEscape n)
      = (charOf? n).map fun d => ([], .text (read ++ [d])) := by
  have digit : ∀ d < 16, Json.hexValue? (Literal.hexDigit d) = some d := by decide
  have first : feed Mode.next (.code read 4 0) (Literal.hexDigits 3 (n / 16))
      = some ([], .code read 1 (n / 16 % 16 ^ 3)) := feed_digits 3 (n / 16) 0
  have number : 16 * (n / 16 % 16 ^ 3) + n % 16 = n := by omega
  have begins : (Mode.text read).next '\\' = some ([], .escape read) := rfl
  have counts : (Mode.escape read).next 'u' = some ([], .code read 4 0) := rfl
  have taken : (Mode.code read 1 (n / 16 % 16 ^ 3)).next (Literal.hexDigit (n % 16))
      = (charOf? n).map fun d => ([], .text (read ++ [d])) := by
    rw [Mode.next, digit (n % 16) (Nat.mod_lt n (by decide)), Option.bind_some, number]
  rw [Json.unitEscape, Literal.hexDigits, feed_cons begins, feed_cons counts, feed_after first,
    feed, taken]
  cases charOf? n <;> simp [feed]

theorem feed_escapeChar (small : c.toNat < 0x10000) :
    feed Mode.next (.text read) (Json.escapeChar true c) = some ([], .text (read ++ [c])) := by
  have numbered : feed Mode.next (.text read) (Json.longEscape c)
      = some ([], .text (read ++ [c])) := by
    rw [Json.longEscape, if_pos small, feed_unitEscape small, charOf?_toNat]
    rfl
  by_cases foreign : 0x7f ≤ c.toNat
  · rw [Json.escapeChar_of_foreign foreign]
    exact numbered
  have letters : ∀ p ∈ Json.ownLetters, (Mode.escape read).next p.2
      = some ([], .text (read ++ [p.1])) := by
    intro p member
    simp only [Json.ownLetters, List.mem_cons, List.not_mem_nil, or_false] at member
    rcases member with rfl | rfl | rfl | rfl | rfl | rfl | rfl <;> rfl
  have written := Json.escapeChar_written true c
  generalize Json.escapeChar true c = text at written
  cases written with
  | lettered own =>
    have begins : (Mode.text read).next '\\' = some ([], .escape read) := rfl
    rw [feed_cons begins, feed, letters _ own]
    rfl
  | numbered => exact numbered
  | plain isQuote isBackslash visible =>
    have plain : isPlain c = true := by
      have under : c.toNat ≠ 0x7f := by omega
      simp [isPlain, visible, under, isQuote, isBackslash]
    rw [feed, next_plain plain]
    rfl

theorem feed_escapeChar_refused (large : ¬c.toNat < 0x10000) :
    feed Mode.next (.text read) (Json.escapeChar true c) = none := by
  have below : c.toNat < 0x110000 := by
    rcases c.valid with low | ⟨-, high⟩
    · exact Nat.lt_trans low (by decide)
    · exact high
  have unit : 0xd800 + (c.toNat - 0x10000) / 0x400 < 0x10000 := by omega
  have half : charOf? (0xd800 + (c.toNat - 0x10000) / 0x400) = none := by
    have invalid : ¬(0xd800 + (c.toNat - 0x10000) / 0x400).isValidChar := by
      rw [Nat.isValidChar]
      omega
    rw [charOf?, if_neg invalid]
  rw [Json.escapeChar_of_foreign (by omega), Json.longEscape, if_neg large]
  refine feed_refused ?_ _
  rw [feed_unitEscape unit, half]
  rfl

end Character

section Text

theorem feed_escapeChars {cs : List Char} (basic : ∀ c ∈ cs, c.toNat < 0x10000)
    (read : List Char) : feed Mode.next (.text read) (cs.flatMap (Json.escapeChar true))
      = some ([], .text (read ++ cs)) := by
  induction cs generalizing read with
  | nil => simp [feed]
  | cons c cs ih =>
    have own : feed Mode.next (.text read) (Json.escapeChar true c)
        = some ([], .text (read ++ [c])) := feed_escapeChar (basic c List.mem_cons_self)
    have others := ih (fun d member => basic d (List.mem_cons_of_mem c member)) (read ++ [c])
    rw [List.flatMap_cons, feed_after own, others]
    simp

theorem feed_escapeChars_refused {cs : List Char} {c : Char} (member : c ∈ cs)
    (large : ¬c.toNat < 0x10000) (read : List Char) :
    feed Mode.next (.text read) (cs.flatMap (Json.escapeChar true)) = none := by
  induction cs generalizing read with
  | nil => exact absurd member List.not_mem_nil
  | cons d cs ih =>
    rw [List.flatMap_cons]
    by_cases small : d.toNat < 0x10000
    · have later : c ∈ cs := by
        refine (List.mem_cons.mp member).resolve_left ?_
        rintro rfl
        exact large small
      rw [feed_after (feed_escapeChar small), ih later]
      rfl
    · exact feed_refused (feed_escapeChar_refused small) _

theorem isWhole_quote {s : String} (basic : IsBasic s) : IsWhole (Json.quote s) [.text s] := by
  have opens : Mode.between.next '"' = some ([], .text []) := rfl
  have inside : feed Mode.next (.text []) (s.toList.flatMap (Json.escapeChar true))
      = some ([], .text s.toList) := feed_escapeChars basic []
  have closes : feed Mode.next (.text s.toList) ['"'] = some ([.text s], .between) := by
    simp [feed, Mode.next]
  rw [IsWhole, Json.quote, String.toList_ofList, Json.quoteWith, List.cons_append, feed_cons opens,
    feed_after inside, closes]
  rfl

theorem tokens?_quote_refused {front : String} {before : List Token} (whole : IsWhole front before)
    {s : String} (large : ¬IsBasic s) (back : String) :
    tokens? (front ++ Json.quote s ++ back) = none := by
  obtain ⟨c, member, wide⟩ : ∃ c ∈ s.toList, ¬c.toNat < 0x10000 := by
    simpa [IsBasic] using large
  have opens : Mode.between.next '"' = some ([], .text []) := rfl
  have refuses : feed Mode.next .between (Json.quote s).toList = none := by
    rw [Json.quote, String.toList_ofList, Json.quoteWith, List.cons_append, feed_cons opens,
      feed_refused (feed_escapeChars_refused member wide [])]
    rfl
  rw [tokens?, String.toList_append, String.toList_append, List.append_assoc, feed_after whole,
    feed_refused refuses]
  rfl

/-- A quoted string denotes its text just when one unit is enough for each character of it. -/
theorem text?_quote (s : String) :
    (text? (Json.quote s) = some s ↔ IsBasic s) ∧ (¬IsBasic s → text? (Json.quote s) = none) := by
  have reads (basic : IsBasic s) : text? (Json.quote s) = some s := by
    rw [text?, (isWhole_quote basic).tokens?]
  have refuses (large : ¬IsBasic s) : text? (Json.quote s) = none := by
    have empty : IsWhole "" [] := rfl
    have none := tokens?_quote_refused empty large ""
    rw [String.empty_append, String.append_empty] at none
    rw [text?, none]
  refine ⟨⟨fun denotes => ?_, reads⟩, refuses⟩
  by_contra large
  cases denotes.symm.trans (refuses large)

end Text

end ServiceCli.Toml

namespace ServiceCli.Package

open ServiceCli.Command ServiceCli.Data ServiceCli.Service ServiceCli.Settings ServiceCli.Toml
open ServiceCli.Script (IsBasic)

def manifestOf (m : Meta) : List (List String × Content) := [
  (["build-system", "requires"], .texts ["hatchling"]),
  (["build-system", "build-backend"], .text "hatchling.build"),
  (["project", "name"], .text m.command),
  (["project", "version"], .text m.version),
  (["project", "description"], .text m.description),
  (["project", "requires-python"], .text ">=3.10"),
  (["project", "dependencies"], .texts [m.clientDependency, "shapecli", "typer>=0.12"]),
  (["project", "scripts", m.command], .text (m.package ++ ".cli:main")),
  (["tool", "hatch", "metadata", "allow-direct-references"], .truth true),
  (["tool", "hatch", "build", "targets", "wheel", "packages"], .texts ["src/" ++ m.package])]

/-- One unit is enough for each character of the free texts of a package. -/
structure IsPlainMeta (m : Meta) : Prop where
  version : IsBasic m.version
  description : IsBasic m.description
  dependency : IsBasic m.clientDependency

/-- A package is named for its command, which is the name of one. -/
structure IsNamed (m : Meta) : Prop where
  command : isCommandName m.command.toList = true
  package : m.package = packageName m.command

def headerTokens (parts : List String) : List Token :=
  .mark '[' :: (parts.map Token.word).intersperse (.mark '.') ++ [.mark ']']

/-- The tokens of a key with its equals sign, and those behind it. -/
def pairTokens (key : String) (content : List Token) : List Token :=
  [.word key, .mark '='] ++ content

/-- The tokens of the lines about how the package is built. -/
def buildTokens : List (List Token) := [
  headerTokens ["build-system"],
  pairTokens "requires" [.mark '[', .text "hatchling", .mark ']'],
  pairTokens "build-backend" [.text "hatchling.build"],
  []]

def projectTokens (m : Meta) : List (List Token) := [
  headerTokens ["project"],
  pairTokens "name" [.text m.command],
  pairTokens "version" [.text m.version],
  pairTokens "description" [.text m.description],
  pairTokens "requires-python" [.text ">=3.10"],
  pairTokens "dependencies" [.mark '['],
  [.text m.clientDependency, .mark ','],
  [.text "shapecli", .mark ','],
  [.text "typer>=0.12", .mark ','],
  [.mark ']'],
  []]

/-- The tokens of the lines about its command and its files. -/
def partTokens (m : Meta) : List (List Token) := [
  headerTokens ["project", "scripts"],
  pairTokens m.command [.text (m.package ++ ".cli:main")],
  [],
  headerTokens ["tool", "hatch", "metadata"],
  pairTokens "allow-direct-references" [.word "true"],
  [],
  headerTokens ["tool", "hatch", "build", "targets", "wheel"],
  pairTokens "packages" [.mark '[', .text ("src/" ++ m.package), .mark ']']]

def manifestTokens (m : Meta) : List (List Token) :=
  buildTokens ++ (projectTokens m ++ partTokens m)

def buildStatements : List Statement := [
  .table ["build-system"],
  .pair "requires" (.texts ["hatchling"]),
  .pair "build-backend" (.text "hatchling.build")]

def projectStatements (m : Meta) : List Statement := [
  .table ["project"],
  .pair "name" (.text m.command),
  .pair "version" (.text m.version),
  .pair "description" (.text m.description),
  .pair "requires-python" (.text ">=3.10"),
  .pair "dependencies" (.texts [m.clientDependency, "shapecli", "typer>=0.12"])]

def partStatements (m : Meta) : List Statement := [
  .table ["project", "scripts"],
  .pair m.command (.text (m.package ++ ".cli:main")),
  .table ["tool", "hatch", "metadata"],
  .pair "allow-direct-references" (.truth true),
  .table ["tool", "hatch", "build", "targets", "wheel"],
  .pair "packages" (.texts ["src/" ++ m.package])]

def manifestStatements (m : Meta) : List Statement :=
  buildStatements ++ (projectStatements m ++ partStatements m)

theorem statements?_manifestTokens (m : Meta) :
    statements? ((manifestTokens m).flatMap (· ++ [.newline])) = some (manifestStatements m) := by
  have build : feed Place.next .line (buildTokens.flatMap (· ++ [.newline]))
      = some (buildStatements, .line) := by rfl
  have project : feed Place.next .line ((projectTokens m).flatMap (· ++ [.newline]))
      = some (projectStatements m, .line) := by rfl
  have parts : feed Place.next .line ((partTokens m).flatMap (· ++ [.newline]))
      = some (partStatements m, .line) := by rfl
  rw [statements?, manifestTokens, List.flatMap_append, List.flatMap_append, feed_after build,
    feed_after project, parts]
  rfl

theorem manifestStatements_consistent (m : Meta) : isConsistent (manifestStatements m) = true := by
  simp [isConsistent, manifestStatements, buildStatements, projectStatements, partStatements,
    tablesOf, saidWithin, List.isPrefixOf]

section Names

variable {m : Meta}

theorem isBare_of_isCommandChar {c : Char} (named : isCommandChar c = true) : isBare c = true := by
  have letters : Script.isWordChar c = (c.isUpper || isSmall c || isAsciiDigit c || c == '_') := rfl
  rw [isCommandChar, Bool.or_eq_true, Bool.or_eq_true, Bool.or_eq_true] at named
  rw [isBare, letters]
  rcases named with ((small | digit) | mark) | dash
  · simp [small]
  · simp [digit]
  · simp [mark]
  · simp [dash]

theorem IsNamed.command_bare (named : IsNamed m) : ∀ c ∈ m.command.toList, isBare c = true :=
  fun c member => isBare_of_isCommandChar (isCommandChar_of_isCommandName named.command c member)

theorem IsNamed.command_ne_empty (named : IsNamed m) : m.command ≠ "" := by
  intro empty
  have command := named.command
  rw [empty] at command
  cases command

theorem IsNamed.package_bare (named : IsNamed m) : ∀ c ∈ m.package.toList, isBare c = true := by
  intro c member
  rw [named.package, packageName, replaceChar, String.toList_ofList] at member
  obtain ⟨d, among, rfl⟩ := List.mem_map.mp member
  split
  · rfl
  · exact named.command_bare d among

theorem le_of_isCommandChar {c : Char} (named : isCommandChar c = true) : c ≤ 'z' := by
  simp only [isCommandChar, isSmall, isAsciiDigit, Bool.or_eq_true, Bool.and_eq_true,
    decide_eq_true_eq, beq_iff_eq] at named
  rcases named with ((⟨-, small⟩ | ⟨-, digit⟩) | rfl) | rfl
  · exact small
  · exact Char.le_trans digit (by decide)
  · decide
  · decide

theorem IsNamed.command_basic (named : IsNamed m) : IsBasic m.command := by
  intro c member
  have last := le_of_isCommandChar (isCommandChar_of_isCommandName named.command c member)
  have number : c.toNat ≤ 'z'.toNat := last
  exact Nat.lt_of_le_of_lt number (by decide)

end Names

section Lines

variable {m : Meta}

theorem tokens?_ofList {cs : List Char} {part : List Token}
    (reads : (feed Mode.next .between cs).bind finished? = some part) :
    tokens? (String.ofList cs) = some part := by
  rw [tokens?, String.toList_ofList, reads]

theorem isWhole_ofList {cs : List Char} {part : List Token}
    (reads : feed Mode.next .between cs = some (part, .between)) :
    IsWhole (String.ofList cs) part := by
  rw [IsWhole, String.toList_ofList, reads]

theorem manifestLines_tokens (named : IsNamed m) (plain : IsPlainMeta m) :
    List.Forall₂ (fun line part => tokens? line = some part) (manifestLines m)
      (manifestTokens m) := by
  have package : IsVerbatim m.package :=
    fun c member => isPlain_of_isBare (named.package_bare c member)
  have entry : tokens? (m.command ++ " = \"" ++ m.package ++ ".cli:main\"")
      = some (pairTokens m.command [.text (m.package ++ ".cli:main")]) := by
    have key := isWhole_key named.command_bare named.command_ne_empty
    have text := isWhole_verbatim (package.append (by decide : IsVerbatim ".cli:main"))
    have spelt : m.command ++ " = \"" ++ m.package ++ ".cli:main\""
        = m.command ++ " = " ++ ("\"" ++ (m.package ++ ".cli:main") ++ "\"") := by
      apply String.toList_injective
      simp only [String.toList_append, List.append_assoc]
      repeat rw [String.toList_ofList]
      rfl
    rw [spelt]
    exact (key.append text).tokens?
  have packages : tokens? ("packages = [\"src/" ++ m.package ++ "\"]")
      = some (pairTokens "packages" [.mark '[', .text ("src/" ++ m.package), .mark ']']) := by
    have opens : IsWhole "packages = [" [.word "packages", .mark '=', .mark '['] :=
      isWhole_ofList rfl
    have text := isWhole_verbatim ((by decide : IsVerbatim "src/").append package)
    have closes : IsWhole "]" [.mark ']'] :=
      isWhole_ofList rfl
    have spelt : "packages = [\"src/" ++ m.package ++ "\"]"
        = "packages = [" ++ ("\"" ++ ("src/" ++ m.package) ++ "\"") ++ "]" := by
      apply String.toList_injective
      simp only [String.toList_append, List.append_assoc]
      repeat rw [String.toList_ofList]
      rfl
    rw [spelt]
    exact ((opens.append text).append closes).tokens?
  have name : tokens? ("name = " ++ Json.quote m.command)
      = some (pairTokens "name" [.text m.command]) := by
    have key : IsWhole "name = " [.word "name", .mark '='] :=
      isWhole_ofList rfl
    exact (key.append (isWhole_quote named.command_basic)).tokens?
  have version : tokens? ("version = " ++ Json.quote m.version)
      = some (pairTokens "version" [.text m.version]) := by
    have key : IsWhole "version = " [.word "version", .mark '='] := isWhole_ofList rfl
    exact (key.append (isWhole_quote plain.version)).tokens?
  have description : tokens? ("description = " ++ Json.quote m.description)
      = some (pairTokens "description" [.text m.description]) := by
    have key : IsWhole "description = " [.word "description", .mark '='] := isWhole_ofList rfl
    exact (key.append (isWhole_quote plain.description)).tokens?
  have item : tokens? ("    " ++ Json.quote m.clientDependency ++ ",")
      = some [.text m.clientDependency, .mark ','] := by
    have blanks : IsWhole "    " [] := isWhole_ofList rfl
    have comma : IsWhole "," [.mark ','] :=
      isWhole_ofList rfl
    exact ((blanks.append (isWhole_quote plain.dependency)).append comma).tokens?
  have fixed {cs : List Char} {part : List Token} := @tokens?_ofList cs part
  refine .cons (fixed rfl) (.cons (fixed rfl) (.cons (fixed rfl) (.cons (fixed rfl)
    (.cons (fixed rfl) (.cons name (.cons version (.cons description (.cons (fixed rfl)
    (.cons (fixed rfl) (.cons item (.cons (fixed rfl) (.cons (fixed rfl) (.cons (fixed rfl)
    (.cons (fixed rfl) (.cons (fixed rfl) (.cons entry (.cons (fixed rfl) (.cons (fixed rfl)
    (.cons (fixed rfl) (.cons (fixed rfl) (.cons (fixed rfl) (.cons packages
    .nil))))))))))))))))))))))

theorem read?_manifestText (named : IsNamed m) (plain : IsPlainMeta m) :
    read? (manifestText m) = some (manifestOf m) := by
  have tokens : tokens? (manifestText m) = some _ :=
    tokens?_lines (manifestLines_tokens named plain)
  rw [read?, tokens, Option.bind_some, statements?_manifestTokens, Option.bind_some,
    if_pos (manifestStatements_consistent m)]
  rfl

/-- A manifest with a free text that needs pairs of units is refused. -/
theorem read?_manifestText_refused (rough : ¬IsPlainMeta m) : read? (manifestText m) = none := by
  have ended (front : String) {before : List Token} (whole : IsWhole front before) {s : String}
      (large : ¬IsBasic s) : tokens? (front ++ Json.quote s) = none := by
    have refuses := tokens?_quote_refused whole large ""
    rwa [String.append_empty] at refuses
  obtain ⟨line, member, refuses⟩ : ∃ line ∈ manifestLines m, tokens? line = none := by
    by_cases version : IsBasic m.version
    · by_cases description : IsBasic m.description
      · have dependency : ¬IsBasic m.clientDependency :=
          fun basic => rough ⟨version, description, basic⟩
        have blanks : IsWhole "    " [] := isWhole_ofList rfl
        exact ⟨_, by simp [manifestLines], tokens?_quote_refused blanks dependency ","⟩
      · have key : IsWhole "description = " [.word "description", .mark '='] :=
          isWhole_ofList rfl
        exact ⟨_, by simp [manifestLines], ended _ key description⟩
    · have key : IsWhole "version = " [.word "version", .mark '='] := isWhole_ofList rfl
      exact ⟨_, by simp [manifestLines], ended _ key version⟩
  rw [read?, manifestText, tokens?_lines_refused member refuses]
  rfl

end Lines

section Compile

variable {model : Value} {settings : Settings} {client : Client} {policy : Option AuthPolicy}
variable {c : Compiled}

theorem isNamed_of_compile (compiled : compile model settings client policy = .ok c) :
    IsNamed (metaOf c.service settings client c.command) := by
  obtain ⟨_, _, -, -, named, -⟩ := compile_eq_ok compiled
  exact ⟨isCommandName_of_commandName named, rfl⟩

theorem manifest_mem_files (compiled : compile model settings client policy = .ok c) :
    ⟨"pyproject.toml", manifestText (metaOf c.service settings client c.command)⟩ ∈ c.files := by
  obtain ⟨_, _, -, -, -, -, files⟩ := compile_eq_ok compiled
  rw [files, filesOf]
  exact List.mem_cons_self

/-- A quoted text is a basic string that denotes the text just when one unit is enough for each of
its characters, and no basic string otherwise. So the manifest of a package says what the package
says about itself just when this holds of its version, its description and the requirement of its
client, and is no document otherwise. Compiled packages are named as this asks for. -/
theorem manifest_reads (s : String) (m : Meta) (named : IsNamed m) :
    (text? (Json.quote s) = some s ↔ IsBasic s) ∧ (¬IsBasic s → text? (Json.quote s) = none) ∧
    (read? (manifestText m) = some (manifestOf m) ↔ IsPlainMeta m) ∧
    (¬IsPlainMeta m → read? (manifestText m) = none) ∧
    ∀ model settings client policy c, compile model settings client policy = .ok c →
      ∃ about, about = metaOf c.service settings client c.command ∧ IsNamed about ∧
        ⟨"pyproject.toml", manifestText about⟩ ∈ c.files := by
  obtain ⟨denotes, refuses⟩ := text?_quote s
  refine ⟨denotes, refuses, ⟨?_, read?_manifestText named⟩, read?_manifestText_refused, ?_⟩
  · intro reads
    by_contra rough
    cases reads.symm.trans (read?_manifestText_refused rough)
  · intro model settings client policy c compiled
    exact ⟨_, rfl, isNamed_of_compile compiled, manifest_mem_files compiled⟩

/-- A stall with nothing to sell, and a description of it. -/
private def stall : Value :=
  .object [("shapes", .object [("market#Stall", .object [("type", .str "service")])])]

private def described (text : String) : Settings
  | .cliDescription => some text
  | _ => none

private def stallClient : Client := ⟨"client", "1", none⟩

private def rough : String := "Größe \"\\\" \t\n\u0001\u007f"

private theorem isBasic_of_all {s : String}
    (all : s.toList.all (fun c => decide (c.toNat < 0x10000)) = true) : IsBasic s :=
  fun c member => of_decide_eq_true (List.all_eq_true.mp all c member)

/-- A description with quotes, a backslash and control characters is read back. -/
theorem manifest_reads_stall : ∃ c text, compile stall (described rough) stallClient none = .ok c ∧
    ⟨"pyproject.toml", text⟩ ∈ c.files ∧
    (read? text).bind (·.lookup ["project", "description"]) = some (.text rough) ∧
    text? (Json.quote rough) = some rough := by
  obtain ⟨c, compiled⟩ : ∃ c, compile stall (described rough) stallClient none = .ok c := ⟨_, rfl⟩
  have named := isNamed_of_compile compiled
  obtain ⟨quoted, -, manifest, -, files⟩ := manifest_reads rough
    (metaOf c.service (described rough) stallClient c.command) named
  obtain ⟨m, about, -, written⟩ := files _ _ _ _ c compiled
  have description : m.description = rough := by
    rw [about]
    rfl
  have basic : IsBasic rough := isBasic_of_all (by decide)
  have version : IsBasic "1" := isBasic_of_all (by decide)
  have dependency : IsBasic stallClient.dependency := isBasic_of_all (by decide)
  rw [← about] at manifest
  refine ⟨c, _, compiled, written, ?_, quoted.mpr basic⟩
  rw [manifest.mpr (about ▸ ⟨version, basic, dependency⟩), Option.bind_some, ← description]
  rfl

/-- A character beyond the first 65536 makes a description that is no basic string, and a manifest
that is no document. -/
theorem manifest_reads_astral : text? (Json.quote "😀") = none ∧
    ∃ c text, compile stall (described "😀") stallClient none = .ok c ∧
      ⟨"pyproject.toml", text⟩ ∈ c.files ∧ read? text = none := by
  have large : ¬IsBasic "😀" := fun basic => absurd (basic '😀' (by decide)) (by decide)
  obtain ⟨c, compiled⟩ : ∃ c, compile stall (described "😀") stallClient none = .ok c := ⟨_, rfl⟩
  refine ⟨(text?_quote _).2 large, c, _, compiled, manifest_mem_files compiled, ?_⟩
  exact read?_manifestText_refused fun plain => large plain.description

end Compile

end ServiceCli.Package
