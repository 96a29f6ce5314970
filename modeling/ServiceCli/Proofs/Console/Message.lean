import ServiceCli.Console.Manner
import ServiceCli.Proofs.Console.Line
import ServiceCli.Proofs.Console.Styled

/-!
Messages. Main statement: a message of printable characters that is short enough for a line is told
on one line that has it unchanged when colours are turned off, or else when nothing in it is taken
for markup; which texts these are depends on the kind of the message, since some kinds are escaped.
A message of a kind that is escaped can be told whatever its text is; any other one that cannot be
told, because its markup is not in order, is a fault and never a failure that the program knows.
-/

set_option autoImplicit false
set_option relaxedAutoImplicit false

namespace ServiceCli.Console

open Outcome (FaultsOnly)

def Kind.isEscaped : Kind → Bool
  | .info => false
  | .success => false
  | .warning => true
  | .error => true
  | .hint => false
  | .debug => true

def Kind.inner (kind : Kind) (text : List Char) : List Char :=
  if kind.isEscaped then escape text else text

def Kind.closing : Kind → List Char
  | .info => []
  | .success => "[/green]".toList
  | .warning => []
  | .error => []
  | .hint => "[/dim]".toList
  | .debug => "[/dim]".toList

section Telling

variable {m : Manner} {kind : Kind} {cs : List Char} {c : Char}

theorem isShown_of_isUnmarked (unmarked : IsUnmarked cs) : ∀ p ∈ pieces cs, p.IsShown := by
  induction cs with
  | nil => exact nofun
  | cons c rest ih =>
    obtain ⟨⟨absent, -⟩, later⟩ := isUnmarked_cons.mp unmarked
    rw [pieces_text absent]
    exact consChar_isShown (ih later)

theorem isShown_word {word rest : List Char} (plain : word.any isMark = false)
    (shown : ∀ p ∈ pieces rest, p.IsShown) : ∀ p ∈ pieces (word ++ rest), p.IsShown := by
  induction word with
  | nil => exact shown
  | cons c word ih =>
    rw [List.any_cons, Bool.or_eq_false_iff] at plain
    obtain ⟨own, others⟩ := plain
    simp only [isMark, Bool.or_eq_false_iff, beq_eq_false_iff_ne] at own
    rw [List.cons_append, pieces_text (tagAt?_other own.2 own.1)]
    exact consChar_isShown (ih others)

theorem ofMarkup_markup (plain : kind.isEscaped = true ∨ IsUnmarked cs) : ∃ shown styles,
    StyledText.ofMarkup (kind.markup cs) = .ok shown ∧ shown.styles = .ok styles := by
  have styled {style inner rest : List Char} (known : IsStyleTag style)
      (before : ∀ p ∈ pieces inner, p.IsShown) (after : ∀ p ∈ pieces rest, p.IsShown) :
      ∃ shown styles, StyledText.ofMarkup
        ('[' :: (style ++ ']' :: (inner ++ '[' :: ('/' :: style ++ ']' :: rest)))) = .ok shown ∧
        shown.styles = .ok styles := by
    obtain ⟨shown, part, read, spans, same⟩ := ofMarkup_styled known before after
    obtain ⟨s, found⟩ := known.known
    refine ⟨shown, [s], read, ?_⟩
    rw [StyledText.styles, spans, List.mapM_cons, same, found]
    rfl
  have ended : ∀ p ∈ pieces [], p.IsShown := nofun
  have spaced : ∀ p ∈ pieces (" ".toList ++ escape cs), p.IsShown :=
    isShown_word rfl (pieces_escape cs)
  have unmarked (loose : kind.isEscaped = false) : ∀ p ∈ pieces cs, p.IsShown :=
    isShown_of_isUnmarked (plain.resolve_left (by rw [loose]; decide))
  cases kind with
  | info =>
    obtain ⟨shown, read, spans⟩ := ofMarkup_shown (unmarked rfl)
    refine ⟨shown, [], read, ?_⟩
    rw [StyledText.styles, spans]
    rfl
  | success =>
    have markup : Kind.success.markup cs = '[' :: ("green".toList ++ ']' ::
      (cs ++ '[' :: ('/' :: "green".toList ++ ']' :: []))) := List.append_assoc _ _ _
    rw [markup]
    exact styled isStyleTag_green (unmarked rfl) ended
  | warning =>
    have markup : Kind.warning.markup cs = '[' :: ("yellow".toList ++ ']' :: ("Warning:".toList
      ++ '[' :: ('/' :: "yellow".toList ++ ']' :: (" ".toList ++ escape cs)))) := rfl
    rw [markup]
    exact styled isStyleTag_yellow (pieces_isShown (by decide)) spaced
  | error =>
    have markup : Kind.error.markup cs = '[' :: ("bold red".toList ++ ']' :: ("Error:".toList
      ++ '[' :: ('/' :: "bold red".toList ++ ']' :: (" ".toList ++ escape cs)))) := rfl
    rw [markup]
    exact styled isStyleTag_boldRed (pieces_isShown (by decide)) spaced
  | hint =>
    have markup : Kind.hint.markup cs = '[' :: ("dim".toList ++ ']' ::
      (("→ ".toList ++ cs) ++ '[' :: ('/' :: "dim".toList ++ ']' :: []))) := List.append_assoc _ _ _
    rw [markup]
    exact styled isStyleTag_dim (isShown_word rfl (unmarked rfl)) ended
  | debug =>
    have markup : Kind.debug.markup cs = '[' :: ("dim".toList ++ ']' ::
        (("\\[debug]".toList ++ (" ".toList ++ escape cs))
          ++ '[' :: ('/' :: "dim".toList ++ ']' :: []))) :=
      List.append_assoc _ _ _
    have word : tagAt? ("\\[debug]".toList ++ (" ".toList ++ escape cs))
        = some (1, "debug".toList, " ".toList ++ escape cs) := rfl
    rw [markup]
    refine styled isStyleTag_dim ?_ ended
    rw [pieces_tag word]
    exact List.forall_mem_cons.mpr ⟨rfl, spaced⟩

/-- A message that is heard in colours is what its markup shows, printed. -/
theorem message_of_markup {text : String} {shown : StyledText} {styles : List Style}
    (heard : m.isHeard kind = true) (colors : m.colorless = false)
    (read : StyledText.ofMarkup (kind.markup text.toList) = .ok shown)
    (known : shown.styles = .ok styles) :
    m.message kind text = .ok (printed m.width shown.chars) := by
  simp [Manner.message, heard, colors, read, known, ofStyle]

theorem message_escaped (m : Manner) (escaped : kind.isEscaped = true) (text : String) :
    ∃ told, m.message kind text = .ok told := by
  by_cases heard : m.isHeard kind = true
  · by_cases plain : m.colorless = true
    · exact ⟨kind.lead ++ text ++ "\n", by simp [Manner.message, heard, plain]⟩
    · obtain ⟨shown, styles, read, known⟩ : ∃ shown styles,
          StyledText.ofMarkup (kind.markup text.toList) = .ok shown ∧ shown.styles = .ok styles :=
        ofMarkup_markup (.inl escaped)
      exact ⟨_, message_of_markup heard (by simpa using plain) read known⟩
  · exact ⟨"", by simp [Manner.message, heard]⟩

theorem message_error (m : Manner) (text : String) : ∃ told, m.message .error text = .ok told :=
  message_escaped m rfl text

theorem message_debug (m : Manner) (text : String) : ∃ told, m.message .debug text = .ok told :=
  message_escaped m rfl text

end Telling

/-- The texts that a message of a kind has unchanged when it is told in colours. Where the text is
not escaped, nothing in it may be markup; where it is, a backslash before a bracket that begins no
tag is lost. Backslashes at its end may meet the tag that ends a style. -/
def Kind.Keeps (kind : Kind) (text : List Char) : Prop :=
  match kind with
  | .info => IsUnmarked text
  | .success => IsUnmarked text ∧ ¬['\\'] <:+ text
  | .warning => IsTight text
  | .error => IsTight text
  | .hint => IsUnmarked text ∧ ¬['\\'] <:+ text
  | .debug => IsTight text ∧ ¬['\\', '\\'] <:+ text

section Keeping

variable {kind : Kind} {cs : List Char}

theorem visible_markup (kind : Kind) (cs : List Char) : visible (kind.markup cs)
    = kind.lead.toList ++ visible (kind.inner cs ++ kind.closing) := by
  cases kind with
  | info =>
    have own : Kind.info.inner cs ++ Kind.info.closing = cs := List.append_nil cs
    rw [own]
    rfl
  | success =>
    have markup : Kind.success.markup cs = "[green]".toList ++ (cs ++ "[/green]".toList) :=
      List.append_assoc _ _ _
    have opens : tagAt? ("[green]".toList ++ (cs ++ "[/green]".toList))
        = some (0, "green".toList, cs ++ "[/green]".toList) := rfl
    rw [markup, visible_tag opens]
    rfl
  | warning =>
    have own : Kind.warning.inner cs ++ Kind.warning.closing = escape cs := List.append_nil _
    have opens : tagAt? (Kind.warning.markup cs)
        = some (0, "yellow".toList, "Warning:".toList ++ ("[/yellow] ".toList ++ escape cs)) := rfl
    have closes : tagAt? ("[/yellow] ".toList ++ escape cs)
        = some (0, "/yellow".toList, " ".toList ++ escape cs) := rfl
    rw [own, visible_tag opens, visible_word rfl, visible_tag closes,
      visible_word rfl]
    rfl
  | error =>
    have own : Kind.error.inner cs ++ Kind.error.closing = escape cs := List.append_nil _
    have opens : tagAt? (Kind.error.markup cs) = some
        (0, "bold red".toList, "Error:".toList ++ ("[/bold red] ".toList ++ escape cs)) := rfl
    have closes : tagAt? ("[/bold red] ".toList ++ escape cs)
        = some (0, "/bold red".toList, " ".toList ++ escape cs) := rfl
    rw [own, visible_tag opens, visible_word rfl, visible_tag closes,
      visible_word rfl]
    rfl
  | hint =>
    have markup : Kind.hint.markup cs = "[dim]→ ".toList ++ (cs ++ "[/dim]".toList) :=
      List.append_assoc _ _ _
    have opens : tagAt? ("[dim]→ ".toList ++ (cs ++ "[/dim]".toList))
        = some (0, "dim".toList, "→ ".toList ++ (cs ++ "[/dim]".toList)) := rfl
    rw [markup, visible_tag opens, visible_word rfl]
    rfl
  | debug =>
    have markup : Kind.debug.markup cs
        = "[dim]\\[debug] ".toList ++ (escape cs ++ "[/dim]".toList) := List.append_assoc _ _ _
    have opens : tagAt? ("[dim]\\[debug] ".toList ++ (escape cs ++ "[/dim]".toList)) = some (0,
        "dim".toList, "\\[debug]".toList ++ (" ".toList ++ (escape cs ++ "[/dim]".toList))) := rfl
    have word : tagAt? ("\\[debug]".toList ++ (" ".toList ++ (escape cs ++ "[/dim]".toList)))
        = some (1, "debug".toList, " ".toList ++ (escape cs ++ "[/dim]".toList)) := rfl
    rw [markup, visible_tag opens, visible_tag word, visible_word rfl]
    rfl

/-- In colours a message has its text unchanged when its kind keeps that text. -/
theorem infix_visible_markup (kind : Kind) (cs : List Char) :
    cs <:+: visible (kind.markup cs) ↔ kind.Keeps cs := by
  rw [visible_markup]
  cases kind with
  | info =>
    have own : Kind.info.inner cs ++ Kind.info.closing = cs := List.append_nil cs
    rw [own]
    exact infix_visible rfl
  | success =>
    have own : Kind.success.inner cs ++ Kind.success.closing
        = cs ++ '[' :: ("/green".toList ++ [']']) := rfl
    rw [own]
    exact infix_visible_tag rfl rfl (by decide)
  | warning =>
    have own : Kind.warning.inner cs ++ Kind.warning.closing = escape cs := List.append_nil _
    rw [own]
    exact infix_visible_escape (by decide)
  | error =>
    have own : Kind.error.inner cs ++ Kind.error.closing = escape cs := List.append_nil _
    rw [own]
    exact infix_visible_escape (by decide)
  | hint =>
    have own : Kind.hint.inner cs ++ Kind.hint.closing
        = cs ++ '[' :: ("/dim".toList ++ [']']) := rfl
    rw [own]
    exact infix_visible_tag rfl rfl (by decide)
  | debug =>
    have own : Kind.debug.inner cs ++ Kind.debug.closing
        = escape cs ++ '[' :: ("/dim".toList ++ [']']) := rfl
    rw [own]
    exact infix_visible_escape_tag (by decide) rfl (by decide)

end Keeping

/-- Printable ASCII text without colons. -/
def IsPrintable (cs : List Char) : Prop := ∀ c ∈ cs, 0x20 ≤ c.toNat ∧ c.toNat < 0x7f ∧ c ≠ ':'

instance (cs : List Char) : Decidable (IsPrintable cs) :=
  List.decidableBAll (fun c : Char => 0x20 ≤ c.toNat ∧ c.toNat < 0x7f ∧ c ≠ ':') cs

section Printable

variable {kind : Kind} {cs : List Char} {c : Char}

theorem mem_escape (member : c ∈ escape cs) : c ∈ cs ∨ c = '\\' := by
  have inside {cs : List Char} (member : c ∈ escaped cs) : c ∈ cs ∨ c = '\\' := by
    induction cs using piecesInduction with
    | nil => exact .inl member
    | tag cs count content tail found ih =>
      rw [escaped_tag found] at member
      rw [eq_of_tagAt? found]
      simp only [List.mem_append, List.mem_cons, List.mem_replicate] at member ⊢
      grind
    | text c rest absent ih =>
      rw [escaped_text absent] at member
      rw [List.mem_cons] at member ⊢
      exact member.elim (fun own => .inl (.inl own)) fun later => (ih later).imp_left .inr
  obtain ⟨body, n, rfl, solid⟩ := exists_solid cs
  rw [escape_solid solid, List.mem_append] at member
  rcases member with own | slash
  · exact (inside own).imp_left (List.mem_append_left _)
  · exact .inr (List.eq_of_mem_replicate slash)

theorem mem_inner (member : c ∈ kind.inner cs) : c ∈ cs ∨ c = '\\' := by
  rw [Kind.inner] at member
  split at member
  · exact mem_escape member
  · exact .inl member

theorem visible_markup_narrow (kind : Kind) (printable : IsPrintable cs) :
    (∀ c ∈ visible (kind.markup cs), IsNarrow c) ∧ (visible (kind.markup cs)).count ':' ≤ 1 := by
  have lead : (∀ c ∈ kind.lead.toList, IsNarrow c) ∧ kind.lead.toList.count ':' ≤ 1 := by
    rw [← List.forall_iff_forall_mem]
    cases kind <;> decide
  have closing : ∀ c ∈ kind.closing, IsNarrow c ∧ c ≠ ':' := by
    rw [← List.forall_iff_forall_mem]
    cases kind <;> decide
  have inner : ∀ c ∈ kind.inner cs, IsNarrow c ∧ c ≠ ':' := by
    intro c member
    rcases mem_inner member with own | rfl
    · obtain ⟨least, most, other⟩ := printable c own
      exact ⟨.inl ⟨least, most⟩, other⟩
    · decide
  have part : ∀ c ∈ visible (kind.inner cs ++ kind.closing), IsNarrow c ∧ c ≠ ':' := by
    intro c member
    rcases List.mem_append.mp ((visible_sublist _).subset member) with own | behind
    · exact inner c own
    · exact closing c behind
  rw [visible_markup]
  constructor
  · intro c member
    rcases List.mem_append.mp member with first | own
    · exact lead.1 c first
    · exact (part c own).1
  · have none : (visible (kind.inner cs ++ kind.closing)).count ':' = 0 :=
      List.count_eq_zero.mpr fun member => (part _ member).2 rfl
    rw [List.count_append, none]
    exact lead.2

end Printable

namespace Manner

/-- What a message shows fits a line. Where no colours are used, nothing is laid out. -/
def Fits (m : Manner) (kind : Kind) (text : String) : Prop :=
  m.colorless = true ∨ 0 < m.width ∧ ∀ shown,
    StyledText.ofMarkup (kind.markup text.toList) = .ok shown → cells shown.chars ≤ m.width

/-- A message is told on one line, which has its text unchanged. -/
def Shows (m : Manner) (kind : Kind) (text : String) : Prop :=
  ∃ line, m.message kind text = .ok (line ++ "\n") ∧ '\n' ∉ line.toList ∧
    text.toList <:+: line.toList

end Manner

section Showing

variable {m : Manner} {kind : Kind} {text : String}

theorem message_line (heard : m.isHeard kind = true) (colors : m.colorless = false)
    (printable : IsPrintable text.toList) (fits : m.Fits kind text) {told : String}
    (tells : m.message kind text = .ok told) :
    told = String.ofList (visible (kind.markup text.toList)) ++ "\n" := by
  obtain ⟨wide, within⟩ := fits.resolve_left (by rw [colors]; decide)
  obtain ⟨narrow, few⟩ := visible_markup_narrow kind printable
  simp only [Manner.message, heard, colors, Bool.not_true, Bool.false_eq_true, if_false] at tells
  obtain ⟨shown, read, later⟩ := Outcome.bind_eq_ok.mp tells
  obtain ⟨styles, -, made⟩ := Outcome.bind_eq_ok.mp later
  have same := chars_ofMarkup narrow few read
  have fit := within shown read
  rw [same] at fit made
  rw [printed_narrow narrow wide fit] at made
  cases made
  rw [String.ofList_append]

theorem Kind.Keeps.plain {cs : List Char} (keeps : kind.Keeps cs) :
    kind.isEscaped = true ∨ IsUnmarked cs := by
  cases kind with
  | info => exact .inr keeps
  | success => exact .inr keeps.1
  | hint => exact .inr keeps.1
  | warning => exact .inl rfl
  | error => exact .inl rfl
  | debug => exact .inl rfl

theorem shows_colorless (heard : m.isHeard kind = true) (plain : m.colorless = true)
    (printable : IsPrintable text.toList) : m.Shows kind text := by
  refine ⟨kind.lead ++ text, by simp [Manner.message, heard, plain], ?_, ?_⟩
  · rw [String.toList_append, List.mem_append, not_or]
    refine ⟨by cases kind <;> decide, fun member => ?_⟩
    exact absurd (printable _ member).1 (by decide)
  · rw [String.toList_append]
    exact (List.suffix_append _ _).isInfix

theorem shows_colored (heard : m.isHeard kind = true) (colors : m.colorless = false)
    (printable : IsPrintable text.toList) (fits : m.Fits kind text) :
    m.Shows kind text ↔ kind.Keeps text.toList := by
  rw [← infix_visible_markup]
  constructor
  · rintro ⟨line, tells, -, inside⟩
    have same := congrArg String.toList (message_line heard colors printable fits tells)
    rw [String.toList_append, String.toList_append, String.toList_ofList] at same
    rw [List.append_cancel_right same, String.toList_ofList] at inside
    exact inside
  · intro inside
    have keeps := (infix_visible_markup kind text.toList).mp inside
    obtain ⟨shown, styles, read, known⟩ := ofMarkup_markup keeps.plain
    have tells := message_of_markup heard colors read known
    refine ⟨String.ofList (visible (kind.markup text.toList)), ?_, ?_, ?_⟩
    · rw [tells, message_line heard colors printable fits tells]
    · rw [String.toList_ofList]
      intro member
      exact ((visible_markup_narrow kind printable).1 _ member).ne_of_toNat (.inl (by decide))
        (by decide) rfl
    · rwa [String.toList_ofList]

/-- A printable message that is heard and fits a line is shown unchanged exactly when colours are
turned off or its kind keeps its text; one that is escaped is told in any case. -/
theorem message_shows (heard : m.isHeard kind = true) (printable : IsPrintable text.toList)
    (fits : m.Fits kind text) :
    (m.Shows kind text ↔ m.colorless = true ∨ kind.Keeps text.toList) ∧
      (kind.isEscaped = true → ∃ told, m.message kind text = .ok told) := by
  refine ⟨?_, fun escaped => message_escaped m escaped text⟩
  cases colors : m.colorless with
  | true => exact iff_of_true (shows_colorless heard colors printable) (.inl rfl)
  | false => simpa using shows_colored heard colors printable fits

theorem fits_of_length (wide : 0 < m.width) (printable : IsPrintable text.toList)
    (short : (kind.markup text.toList).length ≤ m.width) : m.Fits kind text := by
  refine .inr ⟨wide, fun shown read => ?_⟩
  obtain ⟨narrow, few⟩ := visible_markup_narrow kind printable
  rw [chars_ofMarkup narrow few read, cells_narrow narrow]
  exact (visible_sublist _).length_le.trans short

/-- A terminal of the usual width that shows colours. -/
def usualManner : Manner := ⟨.plain, false, false, true, usualWidth, true, .basic⟩

theorem message_shows_brackets : usualManner.Shows .warning "shape [ex#Thing] ignored" ∧
    usualManner.Shows .success "Generated tags[0] with 2 command(s)" := by
  have ignored : IsPrintable "shape [ex#Thing] ignored".toList := by decide
  have room : usualManner.Fits .warning "shape [ex#Thing] ignored" :=
    fits_of_length (by decide) ignored (by decide)
  have tight : IsTight "shape [ex#Thing] ignored".toList := by decide
  have generated : IsPrintable "Generated tags[0] with 2 command(s)".toList := by decide
  have space : usualManner.Fits .success "Generated tags[0] with 2 command(s)" :=
    fits_of_length (by decide) generated (by decide)
  have unmarked : IsUnmarked "Generated tags[0] with 2 command(s)".toList := by decide
  exact ⟨(message_shows rfl ignored room).1.mpr (.inr tight),
    (message_shows rfl generated space).1.mpr (.inr ⟨unmarked, by decide⟩)⟩

/-- A directory in brackets is taken for a tag where nothing escapes it, and a closing tag without
an opening one cannot be told. -/
theorem message_hides_tags : usualManner.isHeard .info = true ∧ IsPrintable "out[dir]".toList ∧
    usualManner.Fits .info "out[dir]" ∧ ¬usualManner.Shows .info "out[dir]" ∧
    usualManner.message .info "[/x]" = faulty .unmatchedMarkup := by
  have printable : IsPrintable "out[dir]".toList := by decide
  have fits : usualManner.Fits .info "out[dir]" :=
    fits_of_length (by decide) printable (by decide)
  have marked : ¬IsUnmarked "out[dir]".toList := by decide
  exact ⟨rfl, printable, fits, mt (shows_colored rfl rfl printable fits).mp marked, rfl⟩

end Showing

section Faults

theorem ofStyle_faultsOnly {α : Type} (s : Except StyleProblem α) : FaultsOnly (ofStyle s) := by
  cases s with
  | ok a => exact .ok a
  | error problem => exact .faulty _

theorem addTag_faultsOnly (d : Draft) (content : List Char) : FaultsOnly (d.addTag content) := by
  rw [Draft.addTag]
  split
  · refine .bind (ofStyle_faultsOnly _) fun found? _ => ?_
    split
    · exact .ok _
    · exact .faulty _
  · exact .bind (ofStyle_faultsOnly _) fun style _ => .ok _

theorem addPiece_faultsOnly (d : Draft) (p : Piece) : FaultsOnly (d.addPiece p) := by
  cases p with
  | text cs => exact .ok _
  | tag backslashes content =>
    rw [Draft.addPiece]
    split
    · exact .ok _
    · exact addTag_faultsOnly _ content

theorem addPieces_faultsOnly (d : Draft) (ps : List Piece) :
    FaultsOnly (ps.foldlM Draft.addPiece d) := by
  induction ps generalizing d with
  | nil => exact .ok d
  | cons p ps ih =>
    rw [List.foldlM_cons]
    exact .bind (addPiece_faultsOnly d p) fun next _ => ih next

theorem ofMarkup_faultsOnly (cs : List Char) : FaultsOnly (StyledText.ofMarkup cs) := by
  rw [StyledText.ofMarkup]
  split
  · exact .bind (addPieces_faultsOnly _ _) fun _ _ => .ok _
  · exact .ok _

theorem message_faultsOnly (m : Manner) (kind : Kind) (text : String) :
    FaultsOnly (m.message kind text) := by
  rw [Manner.message]
  split
  · exact .ok _
  · split
    · exact .ok _
    · refine .bind (ofMarkup_faultsOnly _) fun shown _ => ?_
      exact .bind (ofStyle_faultsOnly _) fun _ _ => .ok _

end Faults

end ServiceCli.Console
