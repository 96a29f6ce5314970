import Mathlib.Data.List.Forall2
import Mathlib.Tactic.ByContra
import ServiceCli.Proofs.Script.Denotation

/-!
A reader of TOML documents, as far as they are made of tables, texts, truth values and lists of
texts, with bare keys; it refuses all else. Two machines work one after the other: the first makes
tokens of characters, the second statements of tokens. What a machine makes of two pieces one after
the other is what it makes of each, and a document is read line by line.
-/

set_option autoImplicit false
set_option relaxedAutoImplicit false

namespace ServiceCli.Toml

open ServiceCli.Script (isWordChar charOf?)

/-- What a machine puts out for its input, and the state it is left in, if it takes the input. -/
def feed {σ α β : Type} (next : σ → α → Option (List β × σ)) : σ → List α → Option (List β × σ)
  | s, [] => some ([], s)
  | s, a :: rest =>
    (next s a).bind fun first => (feed next first.2 rest).map fun more =>
      (first.1 ++ more.1, more.2)

section Feed

variable {σ α β : Type} {next : σ → α → Option (List β × σ)} {s t : σ} {a : α} {out : List β}

theorem feed_cons (takes : next s a = some (out, t)) (rest : List α) :
    feed next s (a :: rest) = (feed next t rest).map fun more => (out ++ more.1, more.2) := by
  rw [feed, takes, Option.bind_some]

theorem feed_append (first rest : List α) : feed next s (first ++ rest)
    = (feed next s first).bind fun before => (feed next before.2 rest).map fun more =>
      (before.1 ++ more.1, more.2) := by
  induction first generalizing s with
  | nil => simp [feed]
  | cons a first ih =>
    rw [List.cons_append, feed, feed]
    cases next s a with
    | none => rfl
    | some head =>
      rw [Option.bind_some, Option.bind_some, ih]
      cases feed next head.2 first with
      | none => rfl
      | some before =>
        rw [Option.map_some, Option.bind_some, Option.map_map]
        exact congrArg (Option.map · _) (funext fun more => by simp)

theorem feed_after {first : List α} (takes : feed next s first = some (out, t)) (rest : List α) :
    feed next s (first ++ rest)
      = (feed next t rest).map fun more => (out ++ more.1, more.2) := by
  rw [feed_append, takes, Option.bind_some]

theorem feed_refused {first : List α} (refuses : feed next s first = none) (rest : List α) :
    feed next s (first ++ rest) = none := by
  rw [feed_append, refuses, Option.bind_none]

end Feed

/-! ### From characters to tokens -/

/-- The tokens of a document. -/
inductive Token where
  | word (name : String)
  | text (content : String)
  | mark (c : Char)
  | newline
  deriving DecidableEq, Repr

def isBare (c : Char) : Bool := isWordChar c || c == '-'

/-- A character that stands for itself in a basic string. -/
def isPlain (c : Char) : Bool :=
  c == '\t' || (decide (0x20 ≤ c.toNat) && c.toNat != 0x7f && c != '"' && c != '\\')

/-- The character that one letter after a backslash stands for. -/
def lettered? (c : Char) : Option Char :=
  match c with
  | 'b' => some (Char.ofNat 0x08)
  | 't' => some '\t'
  | 'n' => some '\n'
  | 'f' => some (Char.ofNat 0x0c)
  | 'r' => some '\r'
  | '"' => some '"'
  | '\\' => some '\\'
  | _ => none

/-- Where the reader of characters stands: between tokens, in a word, in a text, behind a backslash
in a text, or among the digits of a character's number, with those of them that are left. -/
inductive Mode where
  | between
  | word (read : List Char)
  | text (read : List Char)
  | escape (read : List Char)
  | code (read : List Char) (left number : Nat)
  deriving DecidableEq, Repr

/-- What a character between tokens begins, or is. -/
def opened? (c : Char) : Option (List Token × Mode) :=
  if isBare c then some ([], .word [c])
  else match c with
    | '"' => some ([], .text [])
    | ' ' => some ([], .between)
    | '\t' => some ([], .between)
    | '\n' => some ([.newline], .between)
    | '[' => some ([.mark '['], .between)
    | ']' => some ([.mark ']'], .between)
    | '=' => some ([.mark '='], .between)
    | ',' => some ([.mark ','], .between)
    | '.' => some ([.mark '.'], .between)
    | _ => none

/-- The reader takes one character. A number counts as a character only when it is the scalar value
of one. -/
def Mode.next : Mode → Char → Option (List Token × Mode)
  | .between, c => opened? c
  | .word read, c =>
    if isBare c then some ([], .word (read ++ [c]))
    else (opened? c).map fun more => (.word (String.ofList read) :: more.1, more.2)
  | .text read, c =>
    if c = '"' then some ([.text (String.ofList read)], .between)
    else if c = '\\' then some ([], .escape read)
    else if isPlain c then some ([], .text (read ++ [c]))
    else none
  | .escape read, c =>
    if c = 'u' then some ([], .code read 4 0)
    else if c = 'U' then some ([], .code read 8 0)
    else (lettered? c).map fun d => ([], .text (read ++ [d]))
  | .code _ 0 _, _ => none
  | .code read 1 number, c =>
    (Json.hexValue? c).bind fun digit =>
      (charOf? (16 * number + digit)).map fun d => ([], .text (read ++ [d]))
  | .code read (left + 2) number, c =>
    (Json.hexValue? c).map fun digit => ([], .code read (left + 1) (16 * number + digit))

/-- The tokens of what was read, when nothing is left open but a word. -/
def finished? : List Token × Mode → Option (List Token)
  | (tokens, .between) => some tokens
  | (tokens, .word read) => some (tokens ++ [.word (String.ofList read)])
  | _ => none

def tokens? (source : String) : Option (List Token) :=
  (feed Mode.next .between source.toList).bind finished?

def text? (source : String) : Option String :=
  match tokens? source with
  | some [.text content] => some content
  | _ => none

/-! ### From tokens to documents -/

/-- What stands behind a key. -/
inductive Content where
  | text (content : String)
  | truth (value : Bool)
  | texts (items : List String)
  deriving DecidableEq, Repr

/-- The header of a table, or a key with its content. -/
inductive Statement where
  | table (path : List String)
  | pair (key : String) (content : Content)
  deriving DecidableEq, Repr

/-- Where the reader of tokens stands: at the beginning of a line, before or behind a part of a
header, behind a key, behind its equals sign, before or behind an item of a list, or at the end of a
statement. -/
inductive Place where
  | line
  | header (path : List String)
  | part (path : List String)
  | key (name : String)
  | value (name : String)
  | items (name : String) (read : List String)
  | item (name : String) (read : List String)
  | ended
  deriving DecidableEq, Repr

def Place.next : Place → Token → Option (List Statement × Place)
  | .line, .newline => some ([], .line)
  | .line, .mark '[' => some ([], .header [])
  | .line, .word name => some ([], .key name)
  | .header path, .word name => some ([], .part (path ++ [name]))
  | .part path, .mark '.' => some ([], .header path)
  | .part path, .mark ']' => some ([.table path], .ended)
  | .key name, .mark '=' => some ([], .value name)
  | .value name, .text said => some ([.pair name (.text said)], .ended)
  | .value name, .word "true" => some ([.pair name (.truth true)], .ended)
  | .value name, .word "false" => some ([.pair name (.truth false)], .ended)
  | .value name, .mark '[' => some ([], .items name [])
  | .items name read, .newline => some ([], .items name read)
  | .items name read, .text said => some ([], .item name (read ++ [said]))
  | .items name read, .mark ']' => some ([.pair name (.texts read)], .ended)
  | .item name read, .newline => some ([], .item name read)
  | .item name read, .mark ',' => some ([], .items name read)
  | .item name read, .mark ']' => some ([.pair name (.texts read)], .ended)
  | .ended, .newline => some ([], .line)
  | _, _ => none

def statements? (tokens : List Token) : Option (List Statement) :=
  match feed Place.next .line tokens with
  | some (statements, .line) => some statements
  | some (statements, .ended) => some statements
  | _ => none

def tablesOf (statements : List Statement) : List (List String) :=
  statements.filterMap fun statement =>
    match statement with
    | .table path => some path
    | .pair _ _ => none

def saidWithin (table : List String) : List Statement → List (List String × Content)
  | [] => []
  | .table path :: rest => saidWithin path rest
  | .pair key content :: rest => (table ++ [key], content) :: saidWithin table rest

/-- A document begins no table twice, gives no key twice, and has no table at or below a key. -/
def isConsistent (statements : List Statement) : Bool :=
  let keys := (saidWithin [] statements).map Prod.fst
  decide (tablesOf statements).Nodup && decide keys.Nodup
    && keys.all fun key => (tablesOf statements).all fun table => !key.isPrefixOf table

/-- What a document says: the paths of its keys with their contents, in order. -/
def read? (source : String) : Option (List (List String × Content)) :=
  ((tokens? source).bind statements?).bind fun statements =>
    if isConsistent statements then some (saidWithin [] statements) else none

section Lines

theorem finished?_newline (front : List Token) (mode : Mode) :
    ((mode.next '\n').map fun more => (front ++ more.1, more.2))
      = (finished? (front, mode)).map fun tokens => (tokens ++ [.newline], .between) := by
  cases mode with
  | between => rfl
  | word read => simp [Mode.next, finished?, opened?, isBare, isWordChar]
  | text read => rfl
  | escape read => rfl
  | code read left number =>
    match left with
    | 0 | 1 | _ + 2 => rfl

/-- The tokens of a document are those of its first line, a line end, and those of the rest. -/
theorem tokens?_line (line rest : String) : tokens? (line ++ "\n" ++ rest)
    = (tokens? line).bind fun tokens => (tokens? rest).map fun more =>
      tokens ++ .newline :: more := by
  have breaks : "\n".toList = ['\n'] := rfl
  have ending (mode : Mode) : feed Mode.next mode ['\n'] = mode.next '\n' := by
    rw [feed]
    cases mode.next '\n' with
    | none => rfl
    | some more => simp [feed]
  rw [tokens?, tokens?, tokens?, String.toList_append, String.toList_append, breaks, feed_append,
    feed_append]
  cases feed Mode.next .between line.toList with
  | none => rfl
  | some front =>
    obtain ⟨tokens, mode⟩ := front
    have ends := finished?_newline tokens mode
    rw [Option.bind_some, Option.bind_some, ending, ends]
    cases finished? (tokens, mode) with
    | none => rfl
    | some closed =>
      simp only [Option.map_some, Option.bind_some]
      cases feed Mode.next .between rest.toList with
      | none => rfl
      | some more =>
        obtain ⟨others, last⟩ := more
        cases last <;> simp [finished?]

theorem tokens?_lines {lines : List String} {parts : List (List Token)}
    (reads : List.Forall₂ (fun line part => tokens? line = some part) lines parts) :
    tokens? (String.join (lines.map (· ++ "\n")))
      = some (parts.flatMap (· ++ [.newline])) := by
  induction reads with
  | nil => rfl
  | @cons line part lines parts own _ ih =>
    rw [List.map_cons, String.join_cons, tokens?_line, own, ih]
    simp

theorem tokens?_lines_refused {lines : List String} {line : String} (member : line ∈ lines)
    (refuses : tokens? line = none) : tokens? (String.join (lines.map (· ++ "\n"))) = none := by
  induction lines with
  | nil => exact absurd member List.not_mem_nil
  | cons first lines ih =>
    rw [List.map_cons, String.join_cons, tokens?_line]
    rcases List.mem_cons.mp member with rfl | later
    · rw [refuses, Option.bind_none]
    · rw [ih later]
      cases tokens? first <;> rfl

end Lines

/-- A piece of a source that begins and ends between tokens has these tokens. -/
def IsWhole (piece : String) (tokens : List Token) : Prop :=
  feed Mode.next .between piece.toList = some (tokens, .between)

/-- A text that can stand between quotes as it is. -/
def IsVerbatim (text : String) : Prop := ∀ c ∈ text.toList, isPlain c = true

instance (text : String) : Decidable (IsVerbatim text) :=
  List.decidableBAll (fun c => isPlain c = true) text.toList

section Pieces

variable {piece other s : String} {tokens others : List Token} {cs : List Char}

theorem IsWhole.append (whole : IsWhole piece tokens) (also : IsWhole other others) :
    IsWhole (piece ++ other) (tokens ++ others) := by
  rw [IsWhole] at also
  rw [IsWhole, String.toList_append, feed_after whole, also]
  rfl

theorem IsWhole.tokens? (whole : IsWhole piece tokens) : tokens? piece = some tokens := by
  rw [Toml.tokens?, whole]
  rfl

theorem feed_bare (bare : ∀ c ∈ cs, isBare c = true) (read : List Char) :
    feed Mode.next (.word read) cs = some ([], .word (read ++ cs)) := by
  induction cs generalizing read with
  | nil => simp [feed]
  | cons c cs ih =>
    have own : (Mode.word read).next c = some ([], .word (read ++ [c])) := by
      rw [Mode.next, if_pos (bare c List.mem_cons_self)]
    rw [feed_cons own, ih (fun d member => bare d (List.mem_cons_of_mem c member))]
    simp

theorem next_plain {c : Char} (plain : isPlain c = true) (read : List Char) :
    (Mode.text read).next c = some ([], .text (read ++ [c])) := by
  have differs : ∀ d : Char, isPlain d = false → c ≠ d := by
    rintro d other rfl
    exact absurd (plain.symm.trans other) (by decide)
  rw [Mode.next, if_neg (differs '"' rfl), if_neg (differs '\\' rfl), if_pos plain]

theorem feed_plain (plain : ∀ c ∈ cs, isPlain c = true) (read : List Char) :
    feed Mode.next (.text read) cs = some ([], .text (read ++ cs)) := by
  induction cs generalizing read with
  | nil => simp [feed]
  | cons c cs ih =>
    rw [feed_cons (next_plain (plain c List.mem_cons_self) read),
      ih (fun d member => plain d (List.mem_cons_of_mem c member))]
    simp

theorem isWhole_key (bare : ∀ c ∈ s.toList, isBare c = true) (filled : s ≠ "") :
    IsWhole (s ++ " = ") [.word s, .mark '='] := by
  have reads : feed Mode.next .between s.toList = some ([], .word s.toList) := by
    cases spelt : s.toList with
    | nil => exact absurd (String.toList_injective spelt) filled
    | cons c cs =>
      rw [spelt] at bare
      have own : Mode.between.next c = some ([], .word [c]) := by
        unfold Mode.next opened?
        exact if_pos (bare c List.mem_cons_self)
      rw [feed_cons own, feed_bare (fun d member => bare d (List.mem_cons_of_mem c member))]
      rfl
  have ends : feed Mode.next (.word s.toList) " = ".toList
      = some ([.word s, .mark '='], .between) := by
    simp [feed, Mode.next, opened?, isBare, isWordChar]
  rw [IsWhole, String.toList_append, feed_after reads, ends]
  rfl

theorem IsVerbatim.append (verbatim : IsVerbatim s) (also : IsVerbatim other) :
    IsVerbatim (s ++ other) := by
  intro c member
  rw [String.toList_append] at member
  exact (List.mem_append.mp member).elim (verbatim c) (also c)

theorem isWhole_verbatim (verbatim : IsVerbatim s) : IsWhole ("\"" ++ s ++ "\"") [.text s] := by
  have quote : "\"".toList = ['"'] := rfl
  have opens : feed Mode.next .between ['"'] = some ([], .text []) := rfl
  have closes : feed Mode.next (.text s.toList) ['"'] = some ([.text s], .between) := by
    simp [feed, Mode.next]
  rw [IsWhole, String.toList_append, String.toList_append, quote, List.append_assoc,
    feed_after opens, feed_after (feed_plain verbatim []), List.nil_append, closes]
  rfl

theorem isPlain_of_isBare {c : Char} (bare : isBare c = true) : isPlain c = true := by
  have differs : ∀ d : Char, isBare d = false → c ≠ d := by
    rintro d other rfl
    exact absurd (bare.symm.trans other) (by decide)
  have hidden : ∀ n < 0x20, isBare (Char.ofNat n) = false := by decide
  have visible : 0x20 ≤ c.toNat := by
    by_contra low
    refine differs _ (hidden c.toNat (by omega)) ?_
    rw [Char.ofNat_toNat]
  have kept : c.toNat ≠ 0x7f := by
    intro deleted
    refine differs (Char.ofNat 0x7f) rfl ?_
    rw [← deleted, Char.ofNat_toNat]
  simp [isPlain, visible, kept, differs '"' rfl, differs '\\' rfl]

end Pieces

end ServiceCli.Toml
