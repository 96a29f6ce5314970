import Mathlib.Data.List.Basic
import ServiceCli.Conversion.Lines
import ServiceCli.Proofs.Conversion.Effect
import ServiceCli.Proofs.Script.Grammar
import ServiceCli.Proofs.Script.Spelling
import ServiceCli.Proofs.Shape.MemberName

set_option autoImplicit false
set_option relaxedAutoImplicit false

namespace ServiceCli.Conversion

open ServiceCli.Path ServiceCli.Path.AccessPath ServiceCli.Script ServiceCli.Shape

/-- A name that its key literal denotes and that a label holds on one line. A label escapes no line
break, so a name with one breaks the line of the label, and no script is read there. -/
def IsWritable (name : String) : Prop :=
  ∀ c ∈ name.toList, breaksLine c = false ∧ c.toNat < 0x10000

theorem isWritable_of_all {name : String}
    (all : name.toList.all (fun c => !breaksLine c && decide (c.toNat < 0x10000)) = true) :
    IsWritable name := by
  intro c member
  simpa using List.all_eq_true.mp all c member

/-- The variable that holds the parameters. -/
def treeName : String := "params"

/-- A place among the parameters. -/
structure Rooted (p : AccessPath) : Prop where
  inStep : p.InStep
  root : p.root = treeName

/-- A place among the parameters, reached through members whose names have a property. -/
structure Passes (P : String → Prop) (p : AccessPath) : Prop extends Rooted p where
  names : ∀ name, .member name ∈ p.label → P name

/-- A place among the parameters, reached through members of writable names. -/
abbrev IsWritten (p : AccessPath) : Prop := Passes IsWritable p

def Probe.IsWritten : Probe → Prop
  | .lookup parent name => Conversion.IsWritten parent ∧ IsWritable name
  | .place path => Conversion.IsWritten path

section Paths

variable {P : String → Prop} {p : AccessPath}

theorem Passes.ofRoot : Passes P (.ofRoot treeName) :=
  ⟨⟨inStep_ofRoot treeName, rfl⟩, fun _ member => absurd member (by simp [AccessPath.ofRoot])⟩

theorem Passes.names_append (passes : Passes P p) {s : Segment}
    (named : ∀ name, s = .member name → P name) :
    ∀ name, .member name ∈ p.label ++ [s] → P name := by
  intro name member
  rcases List.mem_append.mp member with earlier | last
  · exact passes.names name earlier
  · exact named name (List.mem_singleton.mp last).symm

theorem Passes.key (passes : Passes P p) {name : String} (named : P name) :
    Passes P (p.key name) :=
  ⟨⟨passes.inStep.key name, passes.root⟩,
    passes.names_append fun _ same => Segment.member.inj same ▸ named⟩

theorem Passes.element (passes : Passes P p) : Passes P p.element :=
  ⟨⟨passes.inStep.element, passes.root⟩,
    passes.names_append fun _ same => Segment.noConfusion same⟩

theorem Passes.mapValue (passes : Passes P p) : Passes P p.mapValue :=
  ⟨⟨passes.inStep.mapValue, passes.root⟩,
    passes.names_append fun _ same => Segment.noConfusion same⟩

end Paths

/-- A text without a line break. -/
def IsWhole (s : String) : Prop := ∀ c ∈ s.toList, breaksLine c = false

theorem IsWritable.whole {name : String} (writable : IsWritable name) : IsWhole name :=
  fun c member => (writable c member).1

private theorem forall_appendText {Q : Char → Prop} {t s : String} (first : ∀ c ∈ t.toList, Q c)
    (point : ∀ c ∈ ".".toList, Q c) (second : ∀ c ∈ s.toList, Q c) :
    ∀ c ∈ (FieldPath.appendText t s).toList, Q c := by
  have joined : ∀ t s : String, (∀ c ∈ t.toList, Q c) → (∀ c ∈ s.toList, Q c) →
      ∀ c ∈ (t ++ s).toList, Q c := by
    intro t s first second
    rw [String.toList_append]
    exact List.forall_mem_append.mpr ⟨first, second⟩
  rw [FieldPath.appendText]
  split
  · exact joined t s first second
  · split
    · exact second
    · exact joined _ s (joined t "." first point) second

theorem Passes.label {P : String → Prop} {Q : Char → Prop} {p : AccessPath} (passes : Passes P p)
    (named : ∀ name, P name → ∀ c ∈ name.toList, Q c)
    (marks : ∀ c ∈ ".[]\x7bvalue\x7d".toList, Q c) : ∀ c ∈ p.label.text.toList, Q c := by
  have marked : ∀ s : String, s.toList ⊆ ".[]\x7bvalue\x7d".toList → ∀ c ∈ s.toList, Q c :=
    fun s within c member => marks c (within member)
  have texts : ∀ s ∈ p.label, ∀ c ∈ s.text.toList, Q c := by
    intro s member
    cases s with
    | member name => exact named name (passes.names name member)
    | element => exact marked elementText (by decide)
    | value => exact marked valueText (by decide)
  have fold : ∀ (steps : FieldPath) (t : String), (∀ s ∈ steps, ∀ c ∈ s.text.toList, Q c) →
      (∀ c ∈ t.toList, Q c) →
      ∀ c ∈ (steps.foldl (fun t s => FieldPath.appendText t s.text) t).toList, Q c := by
    intro steps
    induction steps with
    | nil => exact fun t _ holds => holds
    | cons s steps ih =>
      intro t all holds
      obtain ⟨own, others⟩ := List.forall_mem_cons.mp all
      exact ih _ others (forall_appendText holds (marked "." (by decide)) own)
  exact fold p.label "" texts (marked "" (by decide))

theorem Passes.whole {p : AccessPath} (written : IsWritten p) : IsWhole p.label.text :=
  written.label (fun _ writable => writable.whole)
    (List.forall_iff_forall_mem.mp (by decide))

private theorem tokens?_bracketed {text : String} {token : Token}
    (inside : ∀ rest, tokens? (text.toList ++ ']' :: rest)
      = (tokens? (']' :: rest)).map (token :: ·)) (rest : List Char) :
    tokens? (bracketed text ++ rest)
      = (tokens? rest).map ([.mark '[', token, .mark ']'] ++ ·) := by
  have spelt : bracketed text ++ rest = '[' :: (text.toList ++ ']' :: rest) := by
    simp [bracketed]
  rw [spelt, tokens?_mark rfl, inside rest, tokens?_mark rfl]
  simp [Function.comp_def]

theorem tokens?_subscripts {steps : FieldPath}
    (names : ∀ name, Segment.member name ∈ steps → IsWritable name) (n : Nat) (rest : List Char) :
    tokens? ((AccessPath.subscriptsFrom n steps).flatMap bracketed ++ rest)
      = (tokens? rest).map ((subscriptsFrom n steps).flatMap Subscript.tokens ++ ·) := by
  induction steps generalizing n with
  | nil => simp [AccessPath.subscriptsFrom, subscriptsFrom]
  | cons s steps ih =>
    have others := ih fun name member => names name (List.mem_cons_of_mem s member)
    cases s with
    | member name =>
      have small : ∀ c ∈ name.toList, c.toNat < 0x10000 := fun c member =>
        (names name List.mem_cons_self c member).2
      rw [AccessPath.subscriptsFrom, subscriptsFrom, List.flatMap_cons, List.flatMap_cons,
        List.append_assoc, tokens?_bracketed fun rest => tokens?_quote small (']' :: rest), others]
      simp [Subscript.tokens, Function.comp_def]
    | element =>
      rw [AccessPath.subscriptsFrom, subscriptsFrom, List.flatMap_cons, List.flatMap_cons,
        List.append_assoc, tokens?_bracketed fun _ => tokens?_word (indexVariable_isWord n) rfl,
        others]
      simp [Subscript.tokens, Function.comp_def]
    | value =>
      rw [AccessPath.subscriptsFrom, subscriptsFrom, List.flatMap_cons, List.flatMap_cons,
        List.append_assoc, tokens?_bracketed fun _ => tokens?_word (keyVariable_isWord n) rfl,
        others]
      simp [Subscript.tokens, Function.comp_def]

theorem tokens?_expression {p : AccessPath} (written : IsWritten p) {rest : List Char}
    (ends : endsWord rest = true) :
    tokens? (p.expression.toList ++ rest) = (tokens? rest).map ((placeOf p).tokens ++ ·) := by
  have root : isWord p.root = true := by
    rw [written.root]
    decide
  have ends' : endsWord (p.subscripts.flatMap bracketed ++ rest) = true := by
    cases p.subscripts with
    | nil => exact ends
    | cons s subscripts => rfl
  rw [expression_toList, List.append_assoc, tokens?_word root ends', written.inStep.subscripts,
    tokens?_subscripts written.names]
  simp [Place.tokens, placeOf, Function.comp_def]

theorem tokens?_probe {probe : Probe} (written : probe.IsWritten) {rest : List Char}
    (ends : endsWord rest = true) :
    tokens? (probe.expression.toList ++ rest)
      = (tokens? rest).map ((readerOf probe).tokens ++ ·) := by
  cases probe with
  | place path => exact tokens?_expression written ends
  | lookup parent name =>
    have small : ∀ c ∈ name.toList, c.toNat < 0x10000 := fun c member => (written.2 c member).2
    have chars : (Probe.lookup parent name).expression.toList ++ rest
        = parent.expression.toList ++ ('.' :: ("get".toList ++ ('(' :: ((Json.quote name).toList
          ++ (')' :: rest))))) := by
      have opening : ".get(".toList = '.' :: ("get".toList ++ ['(']) := rfl
      have closing : ")".toList = [')'] := rfl
      simp only [Probe.expression, AccessPath.lookup, String.toList_append, List.append_assoc,
        opening, closing, List.cons_append, List.nil_append]
    rw [chars, tokens?_expression written.1 rfl, tokens?_mark rfl, tokens?_word (by decide) rfl,
      tokens?_mark rfl, tokens?_quote small, tokens?_mark rfl]
    simp [readerOf, Reader.tokens, Function.comp_def]

theorem placeOf_isNamed {p : AccessPath} (written : IsWritten p) : (placeOf p).IsNamed := by
  refine ⟨?_, fun name member => ?_⟩
  · rw [show (placeOf p).root = treeName from written.root]
    exact ⟨by decide, by decide⟩
  · obtain ⟨j, -, rfl | rfl⟩ := held_subscriptsFrom member
    · exact indexVariable_isName j
    · exact keyVariable_isName j

theorem readerOf_isNamed {probe : Probe} (written : probe.IsWritten) :
    (readerOf probe).subject.IsNamed := by
  cases probe with
  | place path => exact placeOf_isNamed written
  | lookup parent name => exact placeOf_isNamed written.1

/-- A text that begins with no blank and is read as a line. -/
structure ReadsAs (text : String) (line : Line) : Prop where
  solid : ∀ c ∈ text.toList.head?, c ≠ ' '
  reads : (tokens? text.toList).bind line? = some line

/-- A line so many blanks further in. -/
def pad (n : Nat) (text : String) : String := String.ofList (List.replicate n ' ' ++ text.toList)

theorem pad_indented (n : Nat) (text : String) : pad n ("    " ++ text) = pad (n + 4) text := by
  have four : "    ".toList = List.replicate 4 ' ' := rfl
  rw [pad, pad, String.toList_append, ← List.append_assoc, four, List.replicate_append_replicate]

theorem ReadsAs.pad {text : String} {line : Line} (readsAs : ReadsAs text line) (n : Nat) :
    readLine (pad n text) = some (n, line) := by
  have blank : ∀ d ∈ List.replicate n ' ', (d == ' ') = true := by
    intro d member
    rw [List.eq_of_mem_replicate member]
    rfl
  have blanks : (List.replicate n ' ' ++ text.toList).takeWhile (· == ' ')
      = List.replicate n ' ' := by
    rw [List.takeWhile_append_of_pos blank]
    cases spelt : text.toList with
    | nil => simp
    | cons c cs =>
      have solid : c ≠ ' ' := readsAs.solid c (by rw [spelt]; rfl)
      simp [solid]
  have left : (List.replicate n ' ' ++ text.toList).drop (List.replicate n ' ').length
      = text.toList := List.drop_left
  obtain ⟨tokens, scanned, parsed⟩ := Option.bind_eq_some_iff.mp readsAs.reads
  rw [readLine, Conversion.pad, String.toList_ofList]
  simp only [blanks, left, scanned, parsed, Option.bind_some, Option.map_some]
  rw [List.length_replicate]

section Lines

variable {probe : Probe} {target : AccessPath}

private theorem solid_of_word {word : String} (isWord_ : isWord word = true) (rest : List Char) :
    ∀ c ∈ (word.toList ++ rest).head?, c ≠ ' ' := by
  simp only [isWord, Bool.and_eq_true, List.all_eq_true, bne_iff_ne, ne_eq] at isWord_
  obtain ⟨chars, filled⟩ := isWord_
  obtain ⟨d, ds, spelt⟩ : ∃ d ds, word.toList = d :: ds :=
    List.exists_cons_of_ne_nil (by simpa using filled)
  rintro c member rfl
  have first : d = ' ' := by
    rw [spelt] at member
    exact Option.some.inj member
  have wordChar := chars d (by simp [spelt])
  rw [first] at wordChar
  exact absurd wordChar (by decide)

private theorem expression_solid (written : IsWritten target) (rest : List Char) :
    ∀ c ∈ (target.expression.toList ++ rest).head?, c ≠ ' ' := by
  rw [expression_toList, written.root, List.append_assoc]
  exact solid_of_word (by decide) _

theorem reads_given (written : probe.IsWritten) :
    ReadsAs ("if " ++ probe.expression ++ " is not None:")
      (.opening (.when [.given (readerOf probe)])) := by
  have chars : ("if " ++ probe.expression ++ " is not None:").toList
      = "if".toList ++ (' ' :: (probe.expression.toList ++ (' ' :: ("is".toList ++ (' '
        :: ("not".toList ++ (' ' :: ("None".toList ++ [':'])))))))) := by
    have opening : "if ".toList = "if".toList ++ [' '] := rfl
    have closing : " is not None:".toList = ' ' :: ("is".toList ++ (' ' :: ("not".toList ++ (' '
        :: ("None".toList ++ [':']))))) := rfl
    simp only [String.toList_append, List.append_assoc, opening, closing, List.cons_append,
      List.nil_append]
  refine ⟨?_, ?_⟩
  · rw [chars]
    exact solid_of_word (by decide) _
  · rw [chars, tokens?_word (by decide) rfl, tokens?_blank, tokens?_probe written rfl,
      tokens?_blank, tokens?_word (by decide) rfl, tokens?_blank, tokens?_word (by decide) rfl,
      tokens?_blank, tokens?_word (by decide) rfl, tokens?_mark rfl, tokens?_nil]
    have named : (Check.given (readerOf probe)).subject.subject.IsNamed := readerOf_isNamed written
    simpa [Check.tokens] using line?_when named

theorem reads_document (written : probe.IsWritten) (alsoWritten : IsWritten target) :
    ReadsAs ("if " ++ probe.expression ++ " is not None and not isinstance(" ++ target.expression
        ++ ", str):")
      (.opening (.when [.given (readerOf probe), .notKind (.place (placeOf target)) .text])) := by
  have chars : ("if " ++ probe.expression ++ " is not None and not isinstance("
        ++ target.expression ++ ", str):").toList
      = "if".toList ++ (' ' :: (probe.expression.toList ++ (' ' :: ("is".toList ++ (' '
        :: ("not".toList ++ (' ' :: ("None".toList ++ (' ' :: ("and".toList ++ (' '
        :: ("not".toList ++ (' ' :: ("isinstance".toList ++ ('(' :: (target.expression.toList
        ++ (',' :: ' ' :: ("str".toList ++ [')', ':'])))))))))))))))))) := by
    have opening : "if ".toList = "if".toList ++ [' '] := rfl
    have between : " is not None and not isinstance(".toList
        = ' ' :: ("is".toList ++ (' ' :: ("not".toList ++ (' ' :: ("None".toList ++ (' '
          :: ("and".toList ++ (' ' :: ("not".toList ++ (' ' :: ("isinstance".toList
          ++ ['(']))))))))))) := rfl
    have closing : ", str):".toList = ',' :: ' ' :: ("str".toList ++ [')', ':']) := rfl
    simp only [String.toList_append, List.append_assoc, opening, between, closing,
      List.cons_append, List.nil_append]
  refine ⟨?_, ?_⟩
  · rw [chars]
    exact solid_of_word (by decide) _
  · rw [chars, tokens?_word (by decide) rfl, tokens?_blank, tokens?_probe written rfl,
      tokens?_blank, tokens?_word (by decide) rfl, tokens?_blank, tokens?_word (by decide) rfl,
      tokens?_blank, tokens?_word (by decide) rfl, tokens?_blank, tokens?_word (by decide) rfl,
      tokens?_blank, tokens?_word (by decide) rfl, tokens?_blank, tokens?_word (by decide) rfl,
      tokens?_mark rfl, tokens?_expression alsoWritten rfl, tokens?_mark rfl, tokens?_blank,
      tokens?_word (by decide) rfl, tokens?_mark rfl, tokens?_mark rfl, tokens?_nil]
    have named : (Check.given (readerOf probe)).subject.subject.IsNamed := readerOf_isNamed written
    have alsoNamed : (Check.notKind (.place (placeOf target)) .text).subject.subject.IsNamed :=
      placeOf_isNamed alsoWritten
    simpa [Check.tokens, kindTestTokens, Reader.tokens, Kind.word] using
      line?_when_and named alsoNamed

theorem reads_isKind (written : probe.IsWritten) (kind : Kind) :
    ReadsAs ("if isinstance(" ++ probe.expression ++ ", " ++ kind.word ++ "):")
      (.opening (.when [.isKind (readerOf probe) kind])) := by
  have chars : ("if isinstance(" ++ probe.expression ++ ", " ++ kind.word ++ "):").toList
      = "if".toList ++ (' ' :: ("isinstance".toList ++ ('(' :: (probe.expression.toList ++ (','
        :: ' ' :: (kind.word.toList ++ [')', ':'])))))) := by
    simp only [String.toList_append, List.append_assoc]
    rfl
  have word : isWord kind.word = true := by cases kind <;> decide
  refine ⟨?_, ?_⟩
  · rw [chars]
    exact solid_of_word (by decide) _
  · rw [chars, tokens?_word (by decide) rfl, tokens?_blank, tokens?_word (by decide) rfl,
      tokens?_mark rfl, tokens?_probe written rfl, tokens?_mark rfl, tokens?_blank,
      tokens?_word word rfl, tokens?_mark rfl, tokens?_mark rfl, tokens?_nil]
    have named : (Check.isKind (readerOf probe) kind).subject.subject.IsNamed :=
      readerOf_isNamed written
    simpa [Check.tokens, kindTestTokens] using line?_when named

theorem reads_overIndices (written : IsWritten target) :
    ReadsAs ("for " ++ target.loopVariable ++ " in range(len(" ++ target.expression ++ ")):")
      (.opening (.overIndices target.loopVariable (placeOf target))) := by
  have chars : ("for " ++ target.loopVariable ++ " in range(len(" ++ target.expression
        ++ ")):").toList
      = "for".toList ++ (' ' :: (target.loopVariable.toList ++ (' ' :: ("in".toList ++ (' '
        :: ("range".toList ++ ('(' :: ("len".toList ++ ('(' :: (target.expression.toList
        ++ [')', ')', ':'])))))))))) := by
    simp only [String.toList_append, List.append_assoc]
    rfl
  have word : isWord target.loopVariable = true := indexVariable_isWord target.depth
  refine ⟨?_, ?_⟩
  · rw [chars]
    exact solid_of_word (by decide) _
  · rw [chars, tokens?_word (by decide) rfl, tokens?_blank,
      tokens?_word word rfl, tokens?_blank,
      tokens?_word (by decide) rfl, tokens?_blank, tokens?_word (by decide) rfl, tokens?_mark rfl,
      tokens?_word (by decide) rfl, tokens?_mark rfl, tokens?_expression written rfl,
      tokens?_mark rfl, tokens?_mark rfl, tokens?_mark rfl, tokens?_nil]
    exact line?_overIndices (indexVariable_isName target.depth) (placeOf_isNamed written)

theorem reads_overMembers (written : IsWritten target) :
    ReadsAs ("for " ++ target.mapVariable ++ " in list(" ++ target.expression ++ "):")
      (.opening (.overMembers target.mapVariable (placeOf target))) := by
  have chars : ("for " ++ target.mapVariable ++ " in list(" ++ target.expression ++ "):").toList
      = "for".toList ++ (' ' :: (target.mapVariable.toList ++ (' ' :: ("in".toList ++ (' '
        :: ("list".toList ++ ('(' :: (target.expression.toList ++ [')', ':'])))))))) := by
    simp only [String.toList_append, List.append_assoc]
    rfl
  have word : isWord target.mapVariable = true := keyVariable_isWord target.depth
  refine ⟨?_, ?_⟩
  · rw [chars]
    exact solid_of_word (by decide) _
  · rw [chars, tokens?_word (by decide) rfl, tokens?_blank,
      tokens?_word word rfl, tokens?_blank,
      tokens?_word (by decide) rfl, tokens?_blank, tokens?_word (by decide) rfl, tokens?_mark rfl,
      tokens?_expression written rfl, tokens?_mark rfl, tokens?_mark rfl, tokens?_nil]
    exact line?_overMembers (keyVariable_isName target.depth) (placeOf_isNamed written)

private theorem blobCall_tokens (streaming : Bool) :
    (blobCall target streaming).tokens
      = .word "rt" :: .mark '.' :: .word (if streaming then "stream_blob" else "read_blob")
        :: .mark '(' :: ((placeOf target).tokens
          ++ [.mark ',', .text target.label.text, .mark ')']) := by
  cases streaming <;> simp [blobCall, Call.tokens]

theorem reads_blob (written : IsWritten target) (streaming : Bool) :
    ReadsAs (target.expression ++ " = " ++ (if streaming then "rt.stream_blob" else "rt.read_blob")
        ++ "(" ++ target.expression ++ ", " ++ quoteLabel target.label.text ++ ")")
      (.store (placeOf target) (blobCall target streaming)) := by
  have chars : (target.expression ++ " = "
        ++ (if streaming then "rt.stream_blob" else "rt.read_blob") ++ "(" ++ target.expression
        ++ ", " ++ quoteLabel target.label.text ++ ")").toList
      = target.expression.toList ++ (' ' :: '=' :: ' ' :: ("rt".toList ++ ('.'
        :: ((if streaming then "stream_blob" else "read_blob").toList ++ ('('
        :: (target.expression.toList ++ (',' :: ' ' :: ((quoteLabel target.label.text).toList
        ++ [')'])))))))) := by
    have equals : " = ".toList = [' ', '=', ' '] := rfl
    have opening : "(".toList = ['('] := rfl
    have comma : ", ".toList = [',', ' '] := rfl
    have closing : ")".toList = [')'] := rfl
    have reader : (if streaming then "rt.stream_blob" else "rt.read_blob").toList
        = "rt".toList ++ ('.' :: (if streaming then "stream_blob" else "read_blob").toList) := by
      cases streaming <;> rfl
    simp only [String.toList_append, List.append_assoc, equals, opening, comma, closing, reader,
      List.cons_append, List.nil_append]
  have word : isWord (if streaming then "stream_blob" else "read_blob") = true := by
    cases streaming <;> decide
  refine ⟨?_, ?_⟩
  · rw [chars]
    exact expression_solid written _
  · rw [chars, tokens?_expression written rfl, tokens?_blank, tokens?_mark rfl, tokens?_blank,
      tokens?_word (by decide) rfl, tokens?_mark rfl, tokens?_word word rfl, tokens?_mark rfl,
      tokens?_expression written rfl, tokens?_mark rfl, tokens?_blank, tokens?_label written.whole,
      tokens?_mark rfl, tokens?_nil]
    have argument : (blobCall target streaming).argument = placeOf target := by
      cases streaming <;> rfl
    have line := line?_store (placeOf_isNamed written) (argument ▸ placeOf_isNamed written)
    rw [blobCall_tokens] at line
    exact line

theorem reads_serialize (written : IsWritten target) :
    ReadsAs (target.expression ++ " = rt.serialize_document(" ++ target.expression ++ ")")
      (.store (placeOf target) (.serialize (placeOf target))) := by
  have chars : (target.expression ++ " = rt.serialize_document(" ++ target.expression
        ++ ")").toList
      = target.expression.toList ++ (' ' :: '=' :: ' ' :: ("rt".toList ++ ('.'
        :: ("serialize_document".toList ++ ('(' :: (target.expression.toList ++ [')'])))))) := by
    simp only [String.toList_append, List.append_assoc]
    rfl
  refine ⟨?_, ?_⟩
  · rw [chars]
    exact expression_solid written _
  · rw [chars, tokens?_expression written rfl, tokens?_blank, tokens?_mark rfl, tokens?_blank,
      tokens?_word (by decide) rfl, tokens?_mark rfl, tokens?_word (by decide) rfl,
      tokens?_mark rfl, tokens?_expression written rfl, tokens?_mark rfl, tokens?_nil]
    have argument : (Call.serialize (placeOf target)).argument.IsNamed := placeOf_isNamed written
    exact line?_store (placeOf_isNamed written) argument

end Lines

end ServiceCli.Conversion
