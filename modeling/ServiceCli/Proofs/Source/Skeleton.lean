import ServiceCli.Proofs.Script.Outside
import ServiceCli.Source.Line
import ServiceCli.Text.Split

/-!
Skeletons of generated source: its lines without the texts that they quote. Main statement: where
texts are quoted in code, sources with the same skeleton are the same outside their literals and
have as many lines.
-/

set_option autoImplicit false
set_option relaxedAutoImplicit false

namespace ServiceCli.Source

open ServiceCli.Script

def Piece.blank : Piece → Piece
  | .quoted _ => .quoted ""
  | .code text => .code text

/-- A line without the texts that it quotes. -/
def blankLine (l : Line) : Line := l.map Piece.blank

/-- Lines without the texts that they quote. -/
def skeleton (lines : List Line) : List Line := lines.map blankLine

/-- A reader of a line stands in code wherever the line quotes a text. -/
def QuotesInCode (stand : Stand) : Line → Prop
  | [] => True
  | .code text :: l => QuotesInCode (stand.after text.toList) l
  | .quoted _ :: l => stand = .code ∧ QuotesInCode .code l

section Line

variable {stand : Stand} {l : Line}

theorem text_cons (piece : Piece) (l : Line) : Line.text (piece :: l) = piece.text ++ Line.text l :=
  String.join_cons

@[simp] theorem quotesInCode_codeLine (text : String) : QuotesInCode stand (codeLine text) :=
  trivial

theorem quotesInCode_between {front : String} (closed : Stand.code.after front.toList = .code)
    (s back : String) : QuotesInCode .code [.code front, .quoted s, .code back] :=
  ⟨closed, trivial⟩

theorem quotedList_quote (texts : List String) {rest : Line}
    (closed : ∀ stand, QuotesInCode stand rest) :
    QuotesInCode .code (quotedList texts ++ rest) := by
  have items : QuotesInCode .code
      (List.intersperse (.code ", ") (texts.map .quoted) ++ ([.code "]"] ++ rest)) := by
    induction texts with
    | nil => exact closed _
    | cons text texts ih =>
      cases texts with
      | nil => exact ⟨rfl, closed _⟩
      | cons next texts =>
        have comma : Stand.code.after ", ".toList = .code := by decide
        refine ⟨rfl, ?_⟩
        change QuotesInCode (Stand.code.after ", ".toList) _
        rw [comma]
        exact ih
  have opened : Stand.code.after "[".toList = .code := by decide
  rw [quotedList, List.cons_append, List.cons_append, List.append_assoc, QuotesInCode, opened]
  exact items

theorem QuotesInCode.before {before after : Line} {s : String}
    (quotes : QuotesInCode stand (before ++ .quoted s :: after)) :
    stand.after (Line.text before).toList = .code := by
  induction before generalizing stand with
  | nil => exact quotes.1
  | cons piece before ih =>
    rw [text_cons, String.toList_append, Stand.after_append]
    cases piece with
    | code text => exact ih quotes
    | quoted t =>
      obtain ⟨rfl, quotes⟩ := quotes
      rw [Piece.text, (leftOf_quote t).1]
      exact ih quotes

theorem leftOf_blankLine (quotes : QuotesInCode stand l) :
    stand.leftOf (blankLine l).text.toList = stand.leftOf l.text.toList := by
  induction l generalizing stand with
  | nil => rfl
  | cons piece l ih =>
    rw [blankLine, List.map_cons, text_cons, text_cons, String.toList_append, String.toList_append,
      Stand.leftOf_append, Stand.leftOf_append]
    cases piece with
    | code text => exact congrArg _ (ih quotes)
    | quoted s =>
      obtain ⟨rfl, quotes⟩ := quotes
      rw [Piece.blank, Piece.text, Piece.text, (leftOf_quote "").1, (leftOf_quote "").2,
        (leftOf_quote s).1, (leftOf_quote s).2]
      exact congrArg _ (ih quotes)

end Line

def AllQuoteInCode (lines : List Line) : Prop := ∀ l ∈ lines, QuotesInCode .code l

@[simp] theorem allQuoteInCode_append {first second : List Line} :
    AllQuoteInCode (first ++ second) ↔ AllQuoteInCode first ∧ AllQuoteInCode second :=
  List.forall_mem_append

@[simp] theorem allQuoteInCode_cons {l : Line} {lines : List Line} :
    AllQuoteInCode (l :: lines) ↔ QuotesInCode .code l ∧ AllQuoteInCode lines :=
  List.forall_mem_cons

@[simp] theorem allQuoteInCode_nil : AllQuoteInCode [] :=
  fun _ member => absurd member List.not_mem_nil

@[simp] theorem allQuoteInCode_codeLines (texts : List String) :
    AllQuoteInCode (codeLines texts) :=
  List.forall_mem_map.mpr fun _ _ => trivial

theorem skeleton_append (first second : List Line) :
    skeleton (first ++ second) = skeleton first ++ skeleton second :=
  List.map_append

theorem textOf_cons (l : Line) (lines : List Line) :
    textOf (l :: lines) = l.text ++ "\n" ++ textOf lines :=
  String.join_cons

theorem textOf_append (first second : List Line) :
    textOf (first ++ second) = textOf first ++ textOf second := by
  rw [textOf, List.map_append, String.join_append, textOf, textOf]

theorem textOf_flatten (sources : List (List Line)) :
    textOf sources.flatten = String.join (sources.map textOf) := by
  induction sources with
  | nil => rfl
  | cons source sources ih =>
    rw [List.flatten_cons, textOf_append, ih, List.map_cons, String.join_cons]

/-- A source and its skeleton are the same outside their literals. -/
theorem outside_skeleton {lines : List Line} (quotes : AllQuoteInCode lines) :
    outside (textOf (skeleton lines)) = outside (textOf lines) := by
  have left : Stand.code.leftOf (textOf (skeleton lines)).toList
      = Stand.code.leftOf (textOf lines).toList := by
    induction lines with
    | nil => rfl
    | cons l lines ih =>
      -- whatever a line holds, the line after it is begun in code
      have ended (stand : Stand) : stand.after "\n".toList = .code ∧
          stand.leftOf "\n".toList = ['\n'] := ⟨rfl, rfl⟩
      have own := leftOf_blankLine (quotes l List.mem_cons_self)
      have others := ih fun m member => quotes m (List.mem_cons_of_mem l member)
      rw [skeleton, List.map_cons, textOf_cons, textOf_cons]
      simp only [String.toList_append, Stand.leftOf_append, Stand.after_append, (ended _).1,
        (ended _).2, own]
      exact congrArg _ others
  rw [outside, outside, left]

theorem lines_length (source : String) :
    (Text.lines source).length = source.toList.count '\n' + 1 := by
  have split (cs : List Char) : (Text.splitAt '\n' cs).length = cs.count '\n' + 1 := by
    induction cs with
    | nil => rfl
    | cons c cs ih =>
      rw [Text.splitAt]
      split
      · rename_i breaks
        subst breaks
        rw [List.length_cons, ih, List.count_cons_self]
      · rename_i whole
        rw [List.count_cons_of_ne whole, ← ih]
        cases parts : Text.splitAt '\n' cs with
        | nil => exact absurd ih (by simp [parts])
        | cons part others => rfl
  rw [Text.lines, Text.split, List.length_map, split]

/-- Sources with the same code: the same but for the texts that they quote. -/
structure SameCode (first second : List Line) : Prop where
  skeleton : skeleton first = skeleton second
  outside : outside (textOf first) = outside (textOf second)
  lines : (Text.lines (textOf first)).length = (Text.lines (textOf second)).length

/-- Sources with the same skeleton have the same code, where they quote their texts in code. -/
theorem sameCode_of_skeleton {first second : List Line} (quotes : AllQuoteInCode first)
    (also : AllQuoteInCode second) (same : skeleton first = skeleton second) :
    SameCode first second := by
  have outer : Script.outside (textOf first) = Script.outside (textOf second) := by
    rw [← outside_skeleton quotes, ← outside_skeleton also, same]
  have breaks (source : String) : (Script.outside source).toList.count '\n'
      = source.toList.count '\n' := by
    rw [Script.outside, String.toList_ofList, Stand.count_leftOf]
  refine ⟨same, outer, ?_⟩
  rw [lines_length, lines_length, ← breaks (textOf first), outer, breaks]

/-- A line quotes a text whole: the reader of the line stands in code where the literal begins,
every character of the literal is printable, and the literal is complete and denotes the text. -/
structure QuotesWhole (before : Line) (s : String) : Prop where
  begun : Stand.code.after (Line.text before).toList = .code
  printable : ∀ c ∈ (Literal.quote s).toList, Text.isPrintable c = true
  denotes : Denotes (Literal.quote s) s

theorem AllQuoteInCode.whole {lines : List Line} (quotes : AllQuoteInCode lines)
    {before after : Line} {s : String} (member : before ++ .quoted s :: after ∈ lines) :
    QuotesWhole before s :=
  ⟨(quotes _ member).before, quote_isPrintable s, denotes_quote s⟩

end ServiceCli.Source
