import ServiceCli.Command.Name
import ServiceCli.Proofs.Script.Token

/-!
Scripts: the lines that convert parameters, as a reader of the generated language takes them. A line
either opens a block or stores what a call answers; a block holds the lines that stand further in
than the line that opens it. Main statement: reading the lines that commands are laid out as gives
the commands back, as long as no block is empty.
-/

set_option autoImplicit false
set_option relaxedAutoImplicit false

namespace ServiceCli.Script

/-- A subscript: a text, or what a variable holds. -/
inductive Subscript where
  | text (value : String)
  | held (name : String)
  deriving DecidableEq, Repr

/-- A place: the variable that holds a tree of values, and the subscripts from it. -/
structure Place where
  root : String
  subscripts : List Subscript
  deriving DecidableEq, Repr

/-- An expression that reads a value: a place, or a member that may be absent. -/
inductive Reader where
  | place (p : Place)
  | lookup (p : Place) (name : String)
  deriving DecidableEq, Repr

/-- A kind of values that can be tested for. -/
inductive Kind where
  | mapping
  | list
  | text
  deriving DecidableEq, Repr

/-- One condition. -/
inductive Check where
  | given (r : Reader)
  | isKind (r : Reader) (kind : Kind)
  | notKind (r : Reader) (kind : Kind)
  deriving DecidableEq, Repr

/-- A call of a converting function. -/
inductive Call where
  | readBlob (p : Place) (label : String)
  | openBlob (p : Place) (label : String)
  | serialize (p : Place)
  deriving DecidableEq, Repr

/-- A line that opens a block: the block runs when all conditions hold, once for each index of a
container, or once for each of its members. -/
inductive Head where
  | when (checks : List Check)
  | overIndices (name : String) (p : Place)
  | overMembers (name : String) (p : Place)
  deriving DecidableEq, Repr

/-- A line. -/
inductive Line where
  | opening (head : Head)
  | store (target : Place) (call : Call)
  deriving DecidableEq, Repr

/-- A command: a line that stores, or a line that opens a block with what the block holds. -/
inductive Command where
  | store (target : Place) (call : Call)
  | block (head : Head) (body : List Command)
  deriving Repr

def isName (word : String) : Bool :=
  !(word.toList.take 1).any Char.isDigit && !Command.keywords.contains word

/-- The subscripts at the beginning of some tokens, with what follows them. -/
def takeSubscripts : List Token → List Subscript × List Token
  | .mark '[' :: .text value :: .mark ']' :: rest =>
    let (subscripts, rest) := takeSubscripts rest
    (.text value :: subscripts, rest)
  | .mark '[' :: .word name :: .mark ']' :: rest =>
    if isName name then
      let (subscripts, rest) := takeSubscripts rest
      (.held name :: subscripts, rest)
    else ([], .mark '[' :: .word name :: .mark ']' :: rest)
  | tokens => ([], tokens)

def takePlace : List Token → Option (Place × List Token)
  | .word name :: rest =>
    if isName name then
      let (subscripts, rest) := takeSubscripts rest
      some (⟨name, subscripts⟩, rest)
    else none
  | _ => none

/-- The reading expression that a place begins, with what follows it. -/
def takeMember (place : Place) : List Token → Reader × List Token
  | .mark '.' :: .word "get" :: .mark '(' :: .text name :: .mark ')' :: rest =>
    (.lookup place name, rest)
  | rest => (.place place, rest)

/-- The reading expression at the beginning of some tokens, with what follows it. -/
def takeReader (tokens : List Token) : Option (Reader × List Token) :=
  (takePlace tokens).map fun (place, rest) => takeMember place rest

def kind? (word : String) : Option Kind :=
  if word = "dict" then some .mapping
  else if word = "list" then some .list
  else if word = "str" then some .text
  else none

def takeKindTest (tokens : List Token) : Option ((Reader × Kind) × List Token) :=
  match takeReader tokens with
  | some (reader, .mark ',' :: .word name :: .mark ')' :: rest) =>
    (kind? name).map fun kind => ((reader, kind), rest)
  | _ => none

/-- The condition at the beginning of some tokens, with what follows it. -/
def takeCheck (tokens : List Token) : Option (Check × List Token) :=
  match tokens with
  | .word "isinstance" :: .mark '(' :: rest =>
    (takeKindTest rest).map fun ((reader, kind), rest) => (.isKind reader kind, rest)
  | .word "not" :: .word "isinstance" :: .mark '(' :: rest =>
    (takeKindTest rest).map fun ((reader, kind), rest) => (.notKind reader kind, rest)
  | tokens =>
    match takeReader tokens with
    | some (reader, .word "is" :: .word "not" :: .word "None" :: rest) =>
      some (.given reader, rest)
    | _ => none

/-- One condition, or two of which the second is tested when the first holds, up to the end of the
line. -/
def checks? (tokens : List Token) : Option (List Check) :=
  match takeCheck tokens with
  | some (check, [.mark ':']) => some [check]
  | some (check, .word "and" :: rest) =>
    match takeCheck rest with
    | some (second, [.mark ':']) => some [check, second]
    | _ => none
  | _ => none

/-- The call up to the end of the line. -/
def call? : List Token → Option Call
  | .word "rt" :: .mark '.' :: .word name :: .mark '(' :: rest =>
    match takePlace rest with
    | some (place, [.mark ',', .text label, .mark ')']) =>
      if name = "read_blob" then some (.readBlob place label)
      else if name = "stream_blob" then some (.openBlob place label)
      else none
    | some (place, [.mark ')']) =>
      if name = "serialize_document" then some (.serialize place) else none
    | _ => none
  | _ => none

/-- The place up to the brackets and the colon that end a loop. -/
def loopPlace? (closing : List Token) (tokens : List Token) : Option Place :=
  match takePlace tokens with
  | some (place, rest) => if rest = closing then some place else none
  | none => none

def loop? : List Token → Option Head
  | .word name :: .word "in" :: .word "range" :: .mark '(' :: .word "len" :: .mark '(' :: rest =>
    if isName name then (loopPlace? [.mark ')', .mark ')', .mark ':'] rest).map (.overIndices name)
    else none
  | .word name :: .word "in" :: .word "list" :: .mark '(' :: rest =>
    if isName name then (loopPlace? [.mark ')', .mark ':'] rest).map (.overMembers name) else none
  | _ => none

def line? : List Token → Option Line
  | .word "if" :: rest => (checks? rest).map fun checks => .opening (.when checks)
  | .word "for" :: rest => (loop? rest).map .opening
  | tokens =>
    match takePlace tokens with
    | some (place, .mark '=' :: rest) => (call? rest).map (.store place)
    | _ => none

def readLine (text : String) : Option (Nat × Line) :=
  let cs := text.toList
  let blanks := cs.takeWhile (· == ' ')
  (tokens? (cs.drop blanks.length)).bind fun tokens =>
    (line? tokens).map fun line => (blanks.length, line)

/-- Whether a line stands further in than so many blanks. -/
def isBelow (indent : Nat) (line : Nat × Line) : Bool := indent < line.1

/-- The commands of lines that stand so far in. The lines of a block stand further in than its head,
and a line that stores has none below it. -/
def commands? (indent : Nat) : List (Nat × Line) → Option (List Command)
  | [] => some []
  | (n, line) :: rest =>
    let below := rest.takeWhile (isBelow indent)
    let others := rest.dropWhile (isBelow indent)
    if n = indent then
      match line, below.head? with
      | .store target call, none => (commands? indent others).map (.store target call :: ·)
      | .opening head, some first =>
        (commands? first.1 below).bind fun body =>
          (commands? indent others).map (.block head body :: ·)
      | _, _ => none
    else none
termination_by lines => lines.length
decreasing_by
  · exact Nat.lt_succ_of_le (List.dropWhile_suffix (isBelow indent)).length_le
  · exact Nat.lt_succ_of_le (List.takeWhile_prefix (isBelow indent)).length_le
  · exact Nat.lt_succ_of_le (List.dropWhile_suffix (isBelow indent)).length_le

def read (lines : List String) : Option (List Command) := (lines.mapM readLine).bind (commands? 0)

mutual
def Command.layout (n : Nat) : Command → List (Nat × Line)
  | .store target call => [(n, .store target call)]
  | .block head body => (n, .opening head) :: layoutAll (n + 4) body
def layoutAll (n : Nat) : List Command → List (Nat × Line)
  | [] => []
  | c :: rest => c.layout n ++ layoutAll n rest
end

mutual
def Command.IsFilled : Command → Prop
  | .store _ _ => True
  | .block _ body => body ≠ [] ∧ AllFilled body
/-- No block within commands is empty. -/
def AllFilled : List Command → Prop
  | [] => True
  | c :: rest => c.IsFilled ∧ AllFilled rest
end

theorem layoutAll_append (n : Nat) (first rest : List Command) :
    layoutAll n (first ++ rest) = layoutAll n first ++ layoutAll n rest := by
  induction first with
  | nil => rfl
  | cons c first ih => rw [List.cons_append, layoutAll, layoutAll, ih, List.append_assoc]

theorem AllFilled.append {first rest : List Command} (filled : AllFilled first)
    (others : AllFilled rest) : AllFilled (first ++ rest) := by
  induction first with
  | nil => exact others
  | cons c first ih => exact ⟨filled.1, ih filled.2⟩

theorem layout_head (n : Nat) (c : Command) :
    ∃ line lines, c.layout n = (n, line) :: lines := by
  cases c with
  | store target call => exact ⟨_, [], rfl⟩
  | block head body => exact ⟨_, _, rfl⟩

mutual
theorem le_of_mem_layout (n : Nat) : ∀ (c : Command) (line : Nat × Line),
    line ∈ c.layout n → n ≤ line.1
  | .store target call, line, member => by
    rw [Command.layout, List.mem_singleton] at member
    exact Nat.le_of_eq (congrArg Prod.fst member).symm
  | .block head body, line, member => by
    rw [Command.layout, List.mem_cons] at member
    rcases member with rfl | member
    · exact Nat.le_refl n
    · have deeper := le_of_mem_layoutAll (n + 4) body line member
      omega
theorem le_of_mem_layoutAll (n : Nat) : ∀ (commands : List Command) (line : Nat × Line),
    line ∈ layoutAll n commands → n ≤ line.1
  | [], _, member => absurd member (by simp [layoutAll])
  | c :: rest, line, member => by
    rw [layoutAll, List.mem_append] at member
    rcases member with member | member
    · exact le_of_mem_layout n c line member
    · exact le_of_mem_layoutAll n rest line member
end

theorem not_isBelow_head (n : Nat) (commands : List Command) :
    ∀ line ∈ (layoutAll n commands).head?, isBelow n line = false := by
  intro line member
  cases commands with
  | nil => exact absurd member (by simp [layoutAll])
  | cons c rest =>
    obtain ⟨first, lines, spelt⟩ := layout_head n c
    rw [layoutAll, spelt] at member
    rw [← Option.some.inj member]
    simp [isBelow]

private theorem below_append {n : Nat} {inside : List (Nat × Line)}
    (deeper : ∀ line ∈ inside, isBelow n line = true) (rest : List Command) :
    (inside ++ layoutAll n rest).takeWhile (isBelow n) = inside
      ∧ (inside ++ layoutAll n rest).dropWhile (isBelow n) = layoutAll n rest := by
  have ends := not_isBelow_head n rest
  rw [List.takeWhile_append_of_pos deeper, List.dropWhile_append_of_pos deeper]
  cases lines : layoutAll n rest with
  | nil => simp
  | cons line lines' =>
    have clear : isBelow n line = false := ends line (by rw [lines]; rfl)
    simp [clear]

private theorem commands?_store (n : Nat) (target : Place) (call : Call) (rest : List Command) :
    commands? n ((n, .store target call) :: layoutAll n rest)
      = (commands? n (layoutAll n rest)).map (.store target call :: ·) := by
  have none : ∀ line ∈ ([] : List (Nat × Line)), isBelow n line = true := by simp
  obtain ⟨below, others⟩ := below_append none rest
  rw [List.nil_append] at below others
  rw [commands?.eq_def]
  simp only [if_true, below, others, List.head?_nil]

private theorem commands?_block (n : Nat) (head : Head) {body : List Command} (filled : body ≠ [])
    (rest : List Command) :
    commands? n ((n, .opening head) :: (layoutAll (n + 4) body ++ layoutAll n rest))
      = (commands? (n + 4) (layoutAll (n + 4) body)).bind fun inside =>
        (commands? n (layoutAll n rest)).map (.block head inside :: ·) := by
  have deeper : ∀ line ∈ layoutAll (n + 4) body, isBelow n line = true := by
    intro line member
    have far := le_of_mem_layoutAll (n + 4) body line member
    simp only [isBelow, decide_eq_true_eq]
    omega
  obtain ⟨below, others⟩ := below_append deeper rest
  obtain ⟨c, more, rfl⟩ := List.exists_cons_of_ne_nil filled
  obtain ⟨first, lines, spelt⟩ := layout_head (n + 4) c
  have start : (layoutAll (n + 4) (c :: more)).head? = some (n + 4, first) := by
    rw [layoutAll, spelt]
    rfl
  rw [commands?.eq_def]
  simp only [if_true, below, others, start]

mutual
theorem commands?_layout (n : Nat) : ∀ (c : Command), c.IsFilled → ∀ rest : List Command,
    commands? n (c.layout n ++ layoutAll n rest)
      = (commands? n (layoutAll n rest)).map (c :: ·)
  | .store target call, _, rest => commands?_store n target call rest
  | .block head body, filled, rest => by
    rw [Command.layout, List.cons_append, commands?_block n head filled.1,
      commands?_layoutAll (n + 4) body filled.2]
    rfl
/-- Reading the lines of commands gives the commands back. -/
theorem commands?_layoutAll (n : Nat) : ∀ commands : List Command, AllFilled commands →
    commands? n (layoutAll n commands) = some commands
  | [], _ => by rw [layoutAll, commands?]
  | c :: rest, filled => by
    rw [layoutAll, commands?_layout n c filled.1, commands?_layoutAll n rest filled.2]
    rfl
end

end ServiceCli.Script
