import ServiceCli.Proofs.Script.Grammar
import ServiceCli.Proofs.Script.Outside
import ServiceCli.Proofs.Text.Character

/-!
The nesting of a script, read off its lines: how far in a line stands, whether it opens a block, and
which loop variables it binds and uses outside its literals. A line is enclosed by the nearest lines
above it that stand further and further out. Main statement: blocks that are built one inside the
other are well nested.
-/

set_option autoImplicit false
set_option relaxedAutoImplicit false

namespace ServiceCli.Script

open ServiceCli.Text

/-- The words of a text: its longest runs of word characters. -/
def wordsIn (cs : List Char) : List String :=
  ((cs.splitOnP fun c => !isWordChar c).filter (!·.isEmpty)).map String.ofList

/-- The words of a source outside its literals. -/
def spokenIn (cs : List Char) : List String := wordsIn (Stand.code.leftOf cs)

def isLoopVariable (word : String) : Bool :=
  match word.toList with
  | c :: digits => (c == 'i' || c == 'k') && !digits.isEmpty && digits.all Char.isDigit
  | [] => false

/-- What a line says about the nesting of its script. -/
structure LineShape where
  indent : Nat
  opens : Bool
  binds : Option String
  uses : List String
  deriving DecidableEq, Repr

/-- The variable that the words of a line bind. -/
def boundIn : List String → Option String
  | "for" :: name :: _ => some name
  | _ => none

/-- The words of a line without the one that it binds. -/
def unboundIn : List String → List String
  | "for" :: _ :: rest => rest
  | words => words

/-- The shape of a line, as it is read outside its literals. -/
def LineShape.of (text : String) : LineShape :=
  let words := spokenIn text.toList
  { indent := indentOf text.toList
    opens := text.toList.getLast? == some ':'
    binds := boundIn words
    uses := (unboundIn words).filter isLoopVariable }

example : LineShape.of "    for i1 in range(len(params[\"k7: for\"][i0])):"
    = ⟨4, true, some "i1", ["i0"]⟩ := by decide

section Words

variable {c : Char} {rest : List Char}

theorem wordsIn_append_cons (parts : isWordChar c = false) (first rest : List Char) :
    wordsIn (first ++ c :: rest) = wordsIn first ++ wordsIn rest := by
  have separates : (!isWordChar c) = true := by rw [parts]; rfl
  rw [wordsIn, List.splitOnP_append_cons first rest separates, List.filter_append, List.map_append]
  rfl

theorem wordsIn_cons (parts : isWordChar c = false) (rest : List Char) :
    wordsIn (c :: rest) = wordsIn rest := wordsIn_append_cons parts [] rest

theorem wordsIn_word {word : String} (isWord : isWord word = true) :
    wordsIn word.toList = [word] := by
  rw [Script.isWord, Bool.and_eq_true, List.all_eq_true, bne_iff_ne] at isWord
  have filled : word.toList ≠ [] := by simpa using isWord.2
  have inside : ∀ c ∈ word.toList, (!isWordChar c) = false := fun c member => by
    rw [isWord.1 c member]
    rfl
  rw [wordsIn, List.splitOnP_eq_singleton inside]
  simp [filled]

/-- Whether a character is code that begins no literal and no comment and ends no line. -/
def isPlainCode (c : Char) : Bool := !isQuote c && c != '#' && c != '\n'

theorem isPlainCode_of_isWordChar (inside : isWordChar c = true) : isPlainCode c = true := by
  have differs : ∀ d : Char, isWordChar d = false → c ≠ d := by
    rintro d outside rfl
    exact absurd (inside.symm.trans outside) (by decide)
  have others := (⟨differs '"' rfl, differs '\'' rfl, differs '#' rfl, differs '\n' rfl⟩ :
    c ≠ '"' ∧ c ≠ '\'' ∧ c ≠ '#' ∧ c ≠ '\n')
  simp [isPlainCode, isQuote, others]

theorem leftOf_plainCode {cs : List Char} (plain : ∀ c ∈ cs, isPlainCode c = true) :
    Stand.code.after cs = .code ∧ Stand.code.leftOf cs = cs := by
  induction cs with
  | nil => exact ⟨rfl, rfl⟩
  | cons c cs ih =>
    have first := plain c List.mem_cons_self
    simp only [isPlainCode, Bool.and_eq_true, Bool.not_eq_true', bne_iff_ne] at first
    obtain ⟨⟨quote, comment⟩, whole⟩ := first
    have next : Stand.code.next c = .code := by simp [Stand.next, quote, comment, whole]
    have left : Stand.code.left c = [c] := by simp [Stand.left, quote]
    obtain ⟨after, leftOf⟩ := ih fun d member => plain d (List.mem_cons_of_mem c member)
    constructor
    · rw [Stand.after, List.foldl_cons, next]
      exact after
    · rw [Stand.leftOf, left, next, leftOf]
      rfl

theorem spokenIn_append {first left : List Char}
    (read : Stand.code.after first = .code ∧ Stand.code.leftOf first = left ++ [c])
    (parts : isWordChar c = false) (rest : List Char) :
    spokenIn (first ++ rest) = wordsIn left ++ spokenIn rest := by
  rw [spokenIn, Stand.leftOf_append, read.1, read.2, List.append_assoc, List.singleton_append,
    wordsIn_append_cons parts]
  rfl

/-- Code that ends between words. -/
def isParted (cs : List Char) : Bool :=
  cs.all isPlainCode && cs.getLast?.any fun c => !isWordChar c

theorem spokenIn_code {code : String} (parted : isParted code.toList = true) (rest : List Char) :
    spokenIn (code.toList ++ rest) = wordsIn code.toList ++ spokenIn rest := by
  rw [isParted, Bool.and_eq_true, List.all_eq_true] at parted
  obtain ⟨plain, last⟩ := parted
  rcases List.eq_nil_or_concat code.toList with empty | ⟨front, c, spelt⟩
  · rw [empty] at last
    exact absurd last (by decide)
  · rw [List.concat_eq_append] at spelt
    rw [spelt] at plain last ⊢
    have parts : isWordChar c = false := by simpa using last
    rw [spokenIn_append (leftOf_plainCode plain) parts, wordsIn_append_cons parts,
      show wordsIn [] = [] from rfl, List.append_nil]

theorem spokenIn_literal {literal : List Char}
    (read : Stand.code.after literal = .code ∧ Stand.code.leftOf literal = ['"'])
    (rest : List Char) : spokenIn (literal ++ rest) = spokenIn rest :=
  @spokenIn_append '"' literal [] read (by decide) rest

theorem spokenIn_word {word : String} (isWord : isWord word = true) (ends : endsWord rest = true) :
    spokenIn (word.toList ++ rest) = word :: spokenIn rest := by
  have chars := isWord
  rw [Script.isWord, Bool.and_eq_true, List.all_eq_true] at chars
  obtain ⟨after, leftOf⟩ := leftOf_plainCode fun c member =>
    isPlainCode_of_isWordChar (chars.1 c member)
  rw [spokenIn, Stand.leftOf_append, after, leftOf]
  cases rest with
  | nil =>
    rw [Stand.leftOf, List.append_nil, wordsIn_word isWord]
    rfl
  | cons d rest =>
    have parts : isWordChar d = false := by simpa [endsWord] using ends
    obtain ⟨m, more, split, other⟩ : ∃ m more, Stand.code.leftOf (d :: rest) = m :: more
        ∧ isWordChar m = false := by
      rw [Stand.leftOf, Stand.left]
      split
      · exact ⟨d, _, rfl, parts⟩
      · by_cases quote : isQuote d = true
        · exact ⟨'"', _, by rw [if_pos quote]; rfl, by decide⟩
        · exact ⟨d, _, by rw [if_neg quote]; rfl, parts⟩
    rw [spokenIn, split, wordsIn_append_cons other, wordsIn_cons other, wordsIn_word isWord]
    rfl

end Words

def LineShape.further (line : LineShape) : LineShape := { line with indent := line.indent + 4 }

theorem toList_indented (text : String) :
    ("    " ++ text).toList = List.replicate 4 ' ' ++ text.toList := by
  rw [String.toList_append]
  rfl

theorem spokenIn_indented (text : String) :
    spokenIn ("    " ++ text).toList = spokenIn text.toList := by
  rw [toList_indented]
  exact @spokenIn_append ' ' (List.replicate 4 ' ') [' ', ' ', ' '] ⟨rfl, rfl⟩ rfl _

theorem LineShape.of_indented (text : String) : of ("    " ++ text) = (of text).further := by
  have last : (("    " ++ text).toList.getLast? == some ':')
      = (text.toList.getLast? == some ':') := by
    rw [toList_indented]
    cases chars : text.toList with
    | nil => rfl
    | cons c cs => rw [List.getLast?_append, List.getLast?_cons, Option.some_or]
  have indent : indentOf ("    " ++ text).toList = indentOf text.toList + 4 := by
    rw [toList_indented, indentOf_append, Nat.add_comm]
  simp only [of, further, spokenIn_indented, last, indent]

/-- A text as a line at the margin: how it begins and ends, and the words that it says. -/
structure IsLine (text : String) (opens : Bool) (words : List String) : Prop where
  solid : text.toList.head? ≠ some ' '
  last : (text.toList.getLast? == some ':') = opens
  spoken : spokenIn text.toList = words

theorem IsLine.shape {text : String} {opens : Bool} {words : List String}
    (line : IsLine text opens words) : LineShape.of text
      = ⟨0, opens, boundIn words, (unboundIn words).filter isLoopVariable⟩ := by
  simp only [LineShape.of, indentOf_solid line.solid, line.last, line.spoken]

/-- The lines that enclose one so far in, nearest first; those above it are given nearest first. -/
def enclosing : Nat → List LineShape → List LineShape
  | _, [] => []
  | n, line :: above =>
    if line.indent < n then line :: enclosing line.indent above else enclosing n above

/-- How a line fits between those above it, nearest first, and those below it. -/
structure Fits (above : List LineShape) (line : LineShape) (below : List LineShape) : Prop where
  opened : line.opens = true → ∃ next, below.head? = some next ∧ next.indent = line.indent + 4
  closed : line.opens = false → ∀ next, below.head? = some next →
    next.indent = line.indent ∨ ∃ outer ∈ enclosing line.indent above, next.indent = outer.indent
  bound : ∀ name ∈ line.uses, ∃ outer ∈ enclosing line.indent above, outer.binds = some name
  fresh : ∀ name, line.binds = some name →
    ∀ outer ∈ enclosing line.indent above, outer.binds ≠ some name

/-- Whether each of the lines fits between those above it, nearest first, and those below it. -/
def AllFit (above : List LineShape) : List LineShape → Prop
  | [] => True
  | line :: below => Fits above line below ∧ AllFit (line :: above) below

/-- A well-nested script: it begins at the margin, and each of its lines fits. -/
structure IsNested (lines : List LineShape) : Prop where
  first : ∀ line, lines.head? = some line → line.indent = 0
  fits : AllFit [] lines

/-- The lines of a block so far in, inside loops that bind the given variables: lines that open
nothing, and lines with the block that they open. -/
inductive IsBlock : Nat → List String → List LineShape → Prop
  | nil {n : Nat} {bound : List String} : IsBlock n bound []
  | plain {n : Nat} {bound : List String} {line : LineShape} {rest : List LineShape} :
    line.indent = n → line.opens = false → line.binds = none → line.uses ⊆ bound →
    IsBlock n bound rest → IsBlock n bound (line :: rest)
  | opening {n : Nat} {bound : List String} {line : LineShape} {inside rest : List LineShape} :
    line.indent = n → line.opens = true → (∀ name ∈ line.binds, name ∉ bound) →
    line.uses ⊆ bound → inside ≠ [] → IsBlock (n + 4) (line.binds.toList ++ bound) inside →
    IsBlock n bound rest → IsBlock n bound (line :: (inside ++ rest))

namespace IsBlock

variable {n : Nat} {bound : List String} {lines others : List LineShape}

theorem le_indent (block : IsBlock n bound lines) : ∀ line ∈ lines, n ≤ line.indent := by
  induction block with
  | nil => simp
  | plain here _ _ _ _ ih => exact List.forall_mem_cons.mpr ⟨Nat.le_of_eq here.symm, ih⟩
  | @opening n _ _ inside _ here _ _ _ _ _ _ ihInside ihRest =>
    have further : ∀ line ∈ inside, n ≤ line.indent := fun line member =>
      Nat.le_of_add_right_le (ihInside line member)
    exact List.forall_mem_cons.mpr ⟨Nat.le_of_eq here.symm,
      List.forall_mem_append.mpr ⟨further, ihRest⟩⟩

theorem head_indent (block : IsBlock n bound lines) {line : LineShape}
    (first : lines.head? = some line) : line.indent = n := by
  cases block with
  | nil => exact absurd first (by simp)
  | plain here => exact Option.some.inj first ▸ here
  | opening here => exact Option.some.inj first ▸ here

theorem append (block : IsBlock n bound lines) (also : IsBlock n bound others) :
    IsBlock n bound (lines ++ others) := by
  induction block with
  | nil => exact also
  | plain here closes free uses _ ih => exact .plain here closes free uses (ih also)
  | opening here opens fresh uses filled inside _ _ ih =>
    rw [List.cons_append, List.append_assoc]
    exact .opening here opens fresh uses filled inside (ih also)

theorem further (block : IsBlock n bound lines) :
    IsBlock (n + 4) bound (lines.map LineShape.further) := by
  induction block with
  | nil => exact .nil
  | plain here closes free uses _ ih =>
    exact .plain (congrArg (· + 4) here) closes free uses ih
  | opening here opens fresh uses filled _ _ ihInside ihRest =>
    rw [List.map_cons, List.map_append]
    exact .opening (congrArg (· + 4) here) opens fresh uses (by simpa using filled) ihInside ihRest

end IsBlock

theorem enclosing_append {n : Nat} {lines : List LineShape}
    (inner : ∀ line ∈ lines, n ≤ line.indent) (above : List LineShape) :
    enclosing n (lines ++ above) = enclosing n above := by
  induction lines with
  | nil => rfl
  | cons line lines ih =>
    have here : ¬ line.indent < n := Nat.not_lt.mpr (inner line List.mem_cons_self)
    rw [List.cons_append, enclosing, if_neg here]
    exact ih fun other member => inner other (List.mem_cons_of_mem _ member)

theorem enclosing_of_le {n : Nat} {line : LineShape} (inner : n ≤ line.indent)
    (above : List LineShape) : enclosing n (line :: above) = enclosing n above := by
  rw [enclosing, if_neg (Nat.not_lt.mpr inner)]

section Fit

variable {n : Nat} {bound : List String} {above below lines : List LineShape}

/-- What comes next after a block and stands at its indentation or back at that of a line that
encloses it is either the next line of the block or what follows the block. -/
theorem IsBlock.back (block : IsBlock n bound lines)
    (back : ∀ next, below.head? = some next →
      next.indent = n ∨ ∃ outer ∈ enclosing n above, next.indent = outer.indent) :
    ∀ next, (lines ++ below).head? = some next →
      next.indent = n ∨ ∃ outer ∈ enclosing n above, next.indent = outer.indent := by
  intro next first
  cases lines with
  | nil => exact back next first
  | cons line lines => exact .inl (block.head_indent first)

/-- The lines of a block fit, wherever the block stands: under lines that bind its variables, and
above a line at its own indentation or at that of a line that encloses it. -/
theorem IsBlock.allFit (block : IsBlock n bound lines)
    (binders : ∀ name, name ∈ bound ↔ ∃ outer ∈ enclosing n above, outer.binds = some name)
    (back : ∀ next, below.head? = some next →
      next.indent = n ∨ ∃ outer ∈ enclosing n above, next.indent = outer.indent)
    (further : AllFit (lines.reverse ++ above) below) : AllFit above (lines ++ below) := by
  induction block generalizing above below with
  | nil => exact further
  | @plain n bound line rest here closes free uses block ih =>
    have same : enclosing n (line :: above) = enclosing n above :=
      enclosing_of_le (Nat.le_of_eq here.symm) above
    rw [List.reverse_cons, List.append_assoc] at further
    refine ⟨?_, ih (same ▸ binders) (same ▸ back) further⟩
    rw [← here] at binders back block
    exact {
      opened := fun opens => absurd (closes.symm.trans opens) (by decide)
      closed := fun _ => block.back back
      bound := fun name used => (binders name).mp (uses used)
      fresh := fun name binds => absurd (free.symm.trans binds) (by simp) }
  | @opening n bound line inside rest here opens fresh uses filled block others ihInside ihRest =>
    have same : enclosing n (line :: above) = enclosing n above :=
      enclosing_of_le (Nat.le_of_eq here.symm) above
    have outside : enclosing n (inside.reverse ++ line :: above) = enclosing n above := by
      rw [enclosing_append _ _, same]
      intro inner member
      exact Nat.le_of_add_right_le (block.le_indent inner (List.mem_reverse.mp member))
    have within : enclosing (n + 4) (line :: above) = line :: enclosing n above := by
      rw [enclosing, if_pos (by omega), here]
    have later : AllFit (inside.reverse ++ line :: above) (rest ++ below) := by
      refine ihRest (outside.symm ▸ binders) (outside.symm ▸ back) ?_
      simpa using further
    have body : AllFit (line :: above) (inside ++ (rest ++ below)) := by
      refine ihInside ?_ ?_ later
      · intro name
        rw [within, List.mem_append, Option.mem_toList, binders name]
        simp
      · intro next first
        rw [within]
        rcases others.back back next first with level | ⟨outer, encloses, level⟩
        · exact .inr ⟨line, List.mem_cons_self, level.trans here.symm⟩
        · exact .inr ⟨outer, List.mem_cons_of_mem _ encloses, level⟩
    rw [List.cons_append, List.append_assoc]
    refine ⟨?_, body⟩
    obtain ⟨next, inner, rfl⟩ := List.exists_cons_of_ne_nil filled
    exact {
      opened := fun _ => ⟨next, rfl, by rw [block.head_indent rfl, here]⟩
      closed := fun closes => absurd (closes.symm.trans opens) (by decide)
      bound := fun name used => by
        rw [here]
        exact (binders name).mp (uses used)
      fresh := fun name binds outer encloses again => by
        rw [here] at encloses
        exact fresh name binds ((binders name).mpr ⟨outer, encloses, again⟩) }

end Fit

theorem IsBlock.isNested {lines : List LineShape} (block : IsBlock 0 [] lines) :
    IsNested lines where
  first := fun _ first => block.head_indent first
  fits := by
    have binders : ∀ name, name ∈ [] ↔ ∃ outer ∈ enclosing 0 [], outer.binds = some name := by
      simp [enclosing]
    have none : ∀ next : LineShape, [].head? = some next →
        next.indent = 0 ∨ ∃ outer ∈ enclosing 0 [], next.indent = outer.indent := by
      simp
    have fits := block.allFit binders none trivial
    rwa [List.append_nil] at fits

end ServiceCli.Script
