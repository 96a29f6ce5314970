import ServiceCli.Console.Markup
import ServiceCli.Proofs.Console.Escape
import ServiceCli.Proofs.Outcome

set_option autoImplicit false
set_option relaxedAutoImplicit false

namespace ServiceCli.Console

section Reading

variable {d : Draft} {p : Piece} {ps : List Piece}

theorem addPiece_shown (shown : p.IsShown) :
    ∃ d', d.addPiece p = .ok d' ∧ d'.tags = d.tags ∧ d'.spans = d.spans := by
  cases p with
  | text cs => exact ⟨_, rfl, rfl, rfl⟩
  | tag backslashes content =>
    have odd : (backslashes % 2 == 1) = true := beq_iff_eq.mpr shown
    rw [Draft.addPiece]
    simp only [odd, if_true]
    exact ⟨_, rfl, rfl, rfl⟩

theorem addPieces_shown (shown : ∀ p ∈ ps, p.IsShown) :
    ∃ d', ps.foldlM Draft.addPiece d = .ok d' ∧ d'.tags = d.tags ∧ d'.spans = d.spans := by
  induction ps generalizing d with
  | nil => exact ⟨d, rfl, rfl, rfl⟩
  | cons p ps ih =>
    obtain ⟨own, others⟩ := List.forall_mem_cons.mp shown
    obtain ⟨next, added, tags, spans⟩ := addPiece_shown (d := d) own
    obtain ⟨last, rest, sameTags, sameSpans⟩ := ih (d := next) others
    refine ⟨last, ?_, sameTags.trans tags, sameSpans.trans spans⟩
    rw [List.foldlM_cons, added]
    exact rest

theorem ofMarkup_of_pieces {cs : List Char} {d : Draft} (opened : '[' ∈ cs)
    (read : (pieces cs).foldlM Draft.addPiece ⟨[], [], []⟩ = .ok d) :
    StyledText.ofMarkup cs = .ok d.finish := by
  have bracket : cs.contains '[' = true := by simpa using opened
  rw [StyledText.ofMarkup, bracket, if_pos rfl, read]
  rfl

theorem ofMarkup_shown {cs : List Char} (shown : ∀ p ∈ pieces cs, p.IsShown) :
    ∃ text, StyledText.ofMarkup cs = .ok text ∧ text.spans = [] := by
  by_cases opened : '[' ∈ cs
  · obtain ⟨d, read, tags, spans⟩ := addPieces_shown (d := ⟨[], [], []⟩) shown
    refine ⟨d.finish, ofMarkup_of_pieces opened read, ?_⟩
    rw [Draft.finish, tags, spans]
    exact List.mergeSort_nil
  · have bracket : ¬cs.contains '[' = true := by simpa using opened
    rw [StyledText.ofMarkup, if_neg bracket]
    exact ⟨_, rfl, rfl⟩

end Reading

def styleTag (style : List Char) (start : Nat) : OpenTag := ⟨start, String.ofList style, none⟩

/-- The name of a style that its tags in markup open and close. -/
structure IsStyleTag (style : List Char) : Prop where
  opens : ∀ rest, takeTag? (style ++ ']' :: rest) = some (style, rest)
  closes : ∀ rest, takeTag? ('/' :: style ++ ']' :: rest) = some ('/' :: style, rest)
  begun : ∀ d : Draft, d.addTag style
    = .ok { d with tags := styleTag style d.chars.length :: d.tags }
  ended : ∀ chars start, Draft.addTag ⟨chars, [styleTag style start], []⟩ ('/' :: style)
    = .ok ⟨chars, [], [(styleTag style start).closedAt chars.length]⟩
  named : ¬['@'] <+: style
  known : ∃ s, Style.find (String.ofList style) = .ok s

theorem isStyleTag_green : IsStyleTag "green".toList := by
  rw [String.toList_ofList]
  exact ⟨fun _ => rfl, fun _ => rfl, fun _ => rfl, fun _ _ => rfl, by decide, ⟨_, rfl⟩⟩

theorem isStyleTag_yellow : IsStyleTag "yellow".toList := by
  rw [String.toList_ofList]
  exact ⟨fun _ => rfl, fun _ => rfl, fun _ => rfl, fun _ _ => rfl, by decide, ⟨_, rfl⟩⟩

theorem isStyleTag_boldRed : IsStyleTag "bold red".toList := by
  rw [String.toList_ofList]
  exact ⟨fun _ => rfl, fun _ => rfl, fun _ => rfl, fun _ _ => rfl, by decide, ⟨_, rfl⟩⟩

theorem isStyleTag_dim : IsStyleTag "dim".toList := by
  rw [String.toList_ofList]
  exact ⟨fun _ => rfl, fun _ => rfl, fun _ => rfl, fun _ _ => rfl, by decide, ⟨_, rfl⟩⟩

section Styled

variable {style content cs rest : List Char}

theorem IsStyleTag.style_closedAt (known : IsStyleTag style) (start stop : Nat) :
    ((styleTag style start).closedAt stop).style = String.ofList style := by
  have plain : (String.ofList style).startsWith "@" = false := by
    rw [String.startsWith_string_eq_false_iff, String.toList_ofList, String.toList_ofList]
    exact known.named
  rw [OpenTag.closedAt, styleTag]
  simp only [plain]
  rfl

def ClosedBy (content : List Char) (ps : List Piece) : Prop := ∃ front count back,
  (∀ p ∈ front, p.IsShown) ∧ (∀ p ∈ back, p.IsShown) ∧ ps = front ++ .tag count content :: back

theorem ClosedBy.cons {p : Piece} {ps : List Piece} (closed : ClosedBy content ps)
    (shown : p.IsShown) : ClosedBy content (p :: ps) := by
  obtain ⟨front, count, back, before, after, rfl⟩ := closed
  exact ⟨p :: front, count, back, List.forall_mem_cons.mpr ⟨shown, before⟩, after, rfl⟩

theorem ClosedBy.consChar {ps : List Piece} (closed : ClosedBy content ps) (c : Char) :
    ClosedBy content (consChar c ps) := by
  obtain ⟨front, count, back, before, after, rfl⟩ := closed
  refine ⟨Console.consChar c front, count, back, consChar_isShown before, after, ?_⟩
  rcases front with _ | ⟨_ | _, front⟩ <;> rfl

theorem isShown_of_consChar {c : Char} {ps : List Piece} (shown : ∀ p ∈ consChar c ps, p.IsShown) :
    ∀ p ∈ ps, p.IsShown := by
  rw [consChar.eq_def] at shown
  split at shown
  · exact List.forall_mem_cons.mpr ⟨trivial, (List.forall_mem_cons.mp shown).2⟩
  · exact (List.forall_mem_cons.mp shown).2

theorem pieces_closedBy (tag : takeTag? (content ++ ']' :: rest) = some (content, rest))
    (before : ∀ p ∈ pieces cs, p.IsShown) (after : ∀ p ∈ pieces rest, p.IsShown) :
    ClosedBy content (pieces (cs ++ '[' :: (content ++ ']' :: rest))) := by
  have apart : IsApart ('[' :: (content ++ ']' :: rest)) := isApart_bracket _
  have alone (count : Nat) : ClosedBy content
      (pieces (List.replicate count '\\' ++ '[' :: (content ++ ']' :: rest))) := by
    have found : tagAt? (List.replicate count '\\' ++ '[' :: (content ++ ']' :: rest))
        = some (count, content, rest) := by
      rw [tagAt?_replicate, tag, Option.map_some]
    rw [pieces_tag found]
    exact ⟨[], count, pieces rest, nofun, after, rfl⟩
  induction cs using piecesInduction with
  | nil => exact alone 0
  | tag cs count inner tail found ih =>
    rcases tagAt?_append apart cs with same | ⟨count, rfl⟩
    · rw [found] at same
      rw [pieces_tag found, List.forall_mem_cons] at before
      rw [pieces_tag same]
      exact (ih before.2).cons before.1
    · exact alone count
  | text c cs absent ih =>
    rcases tagAt?_append apart (c :: cs) with same | ⟨count, slashes⟩
    · rw [absent, List.cons_append] at same
      rw [pieces_text absent] at before
      rw [List.cons_append, pieces_text same]
      exact (ih (isShown_of_consChar before)).consChar c
    · exact slashes ▸ alone count

theorem addPieces_closedBy (known : IsStyleTag style) {ps : List Piece}
    (closed : ClosedBy ('/' :: style) ps) {d : Draft} {start : Nat}
    (tags : d.tags = [styleTag style start]) (spans : d.spans = []) :
    ∃ d', ps.foldlM Draft.addPiece d = .ok d' ∧
      (d'.tags = [styleTag style start] ∧ d'.spans = [] ∨
        ∃ stop, d'.tags = [] ∧ d'.spans = [(styleTag style start).closedAt stop]) := by
  obtain ⟨front, count, back, before, after, rfl⟩ := closed
  obtain ⟨last, added, sameTags, sameSpans⟩ := addPieces_shown (d := d) before
  rw [tags] at sameTags
  rw [spans] at sameSpans
  rw [List.foldlM_append, added, Outcome.ok_bind, List.foldlM_cons]
  by_cases odd : count % 2 = 1
  · -- backslashes before the tag leave it to be shown
    obtain ⟨next, kept, nextTags, nextSpans⟩ :=
      addPiece_shown (d := last) (p := .tag count ('/' :: style)) odd
    obtain ⟨final, rest, finalTags, finalSpans⟩ := addPieces_shown (d := next) after
    rw [kept, Outcome.ok_bind]
    exact ⟨final, rest, .inl ⟨(finalTags.trans nextTags).trans sameTags,
      (finalSpans.trans nextSpans).trans sameSpans⟩⟩
  · obtain ⟨chars, ends⟩ : ∃ chars, last.addPiece (.tag count ('/' :: style))
        = .ok ⟨chars, [], [(styleTag style start).closedAt chars.length]⟩ := by
      obtain ⟨chars, _, _⟩ := last
      cases sameTags
      cases sameSpans
      rw [Draft.addPiece, if_neg (by simpa using odd)]
      exact ⟨_, known.ended _ start⟩
    obtain ⟨final, rest, finalTags, finalSpans⟩ :=
      addPieces_shown (d := ⟨chars, [], [(styleTag style start).closedAt chars.length]⟩) after
    rw [ends, Outcome.ok_bind]
    exact ⟨final, rest, .inr ⟨chars.length, finalTags, finalSpans⟩⟩

/-- Markup that begins with the tag of a style, and is shown but for the end of the style, has one
part with a style. -/
theorem ofMarkup_styled (known : IsStyleTag style) (before : ∀ p ∈ pieces cs, p.IsShown)
    (after : ∀ p ∈ pieces rest, p.IsShown) : ∃ shown part,
    StyledText.ofMarkup ('[' :: (style ++ ']' :: (cs ++ '[' :: ('/' :: style ++ ']' :: rest))))
      = .ok shown ∧ shown.spans = [part] ∧ part.style = String.ofList style := by
  have found : tagAt? ('[' :: (style ++ ']' :: (cs ++ '[' :: ('/' :: style ++ ']' :: rest))))
      = some (0, style, cs ++ '[' :: ('/' :: style ++ ']' :: rest)) := by
    rw [tagAt?_bracket, known.opens, Option.map_some]
  obtain ⟨first, begun⟩ : ∃ first, Draft.addPiece ⟨[], [], []⟩ (.tag 0 style)
      = .ok ⟨first, [styleTag style first.length], []⟩ := by
    rw [Draft.addPiece, if_neg (by decide), known.begun]
    exact ⟨_, rfl⟩
  obtain ⟨last, added, ending⟩ := addPieces_closedBy known
    (pieces_closedBy (known.closes rest) before after)
    (d := ⟨first, [styleTag style first.length], []⟩) rfl rfl
  have read := ofMarkup_of_pieces (d := last) List.mem_cons_self (by
    rw [pieces_tag found, List.foldlM_cons, begun]
    exact added)
  rcases ending with ⟨tags, spans⟩ | ⟨stop, tags, spans⟩
  · refine ⟨last.finish, ⟨first.length, last.chars.length, String.ofList style⟩, read, ?_, rfl⟩
    rw [Draft.finish, tags, spans]
    exact List.mergeSort_singleton _
  · refine ⟨last.finish, (styleTag style first.length).closedAt stop, read, ?_,
      known.style_closedAt _ stop⟩
    rw [Draft.finish, tags, spans]
    exact List.mergeSort_singleton _

end Styled

end ServiceCli.Console
