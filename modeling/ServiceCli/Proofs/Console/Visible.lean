import Mathlib.Data.List.Infix
import ServiceCli.Proofs.Console.Escape

/-!
What markup shows: its text without the tags, without the backslashes that escape them, and without
a backslash before any other opening bracket. Main statements: a text is shown as it is when it has
no tag and no backslash before a bracket, and loses a bracket or a backslash otherwise; an escaped
text keeps its brackets, but loses each backslash before a bracket that begins no tag.
-/

set_option autoImplicit false
set_option relaxedAutoImplicit false

namespace ServiceCli.Console

def Piece.visible : Piece → List Char
  | .text cs => unescape cs
  | .tag backslashes content => List.replicate (backslashes / 2) '\\'
      ++ if backslashes % 2 = 1 then '[' :: (content ++ [']']) else []

def visible (cs : List Char) : List Char := (pieces cs).flatMap Piece.visible

/-- The characters that begin markup. -/
def isMark (c : Char) : Bool := c == '[' || c == '\\'

def bracketEscape : List Char := ['\\', '[']

/-- A text in which nothing is markup: no tag begins in it, and no backslash escapes a bracket. -/
def IsUnmarked (cs : List Char) : Prop :=
  ∀ t ∈ cs.tails, tagAt? t = none ∧ ¬bracketEscape <+: t

/-- A text in which a backslash stands before a bracket only where the bracket begins a tag. -/
def IsTight (cs : List Char) : Prop := ∀ t ∈ cs.tails, bracketEscape <+: t → tagAt? t ≠ none

instance (cs : List Char) : Decidable (IsUnmarked cs) :=
  List.decidableBAll (fun t => tagAt? t = none ∧ ¬bracketEscape <+: t) cs.tails

instance (cs : List Char) : Decidable (IsTight cs) :=
  List.decidableBAll (fun t => bracketEscape <+: t → tagAt? t ≠ none) cs.tails

section Reading

variable {cs content tail rest word : List Char} {c : Char} {count : Nat}

theorem visible_tag (found : tagAt? cs = some (count, content, tail)) : visible cs
    = List.replicate (count / 2) '\\'
      ++ (if count % 2 = 1 then '[' :: (content ++ [']']) else []) ++ visible tail := by
  rw [visible, pieces_tag found, List.flatMap_cons, Piece.visible, visible]

theorem begins_bracketEscape : bracketEscape <+: c :: rest ↔ c = '\\' ∧ rest.head? = some '[' := by
  rw [bracketEscape, List.cons_prefix_cons, eq_comm]
  cases rest with
  | nil => simp
  | cons d rest => simp [eq_comm]

theorem unescape_cons (other : ¬bracketEscape <+: c :: rest) :
    unescape (c :: rest) = c :: unescape rest := by
  rw [begins_bracketEscape] at other
  rw [unescape.eq_def]
  split
  · rename_i same
    cases same
    exact absurd ⟨rfl, rfl⟩ other
  · rename_i same
    cases same
    rfl
  · rename_i same
    cases same

theorem visible_text (absent : tagAt? (c :: rest) = none) : visible (c :: rest)
    = if bracketEscape <+: c :: rest then visible rest else c :: visible rest := by
  have put {ps : List Piece} (apart : ∀ cs ps', ps = .text cs :: ps' →
      ¬bracketEscape <+: c :: cs) :
      (consChar c ps).flatMap Piece.visible = c :: ps.flatMap Piece.visible := by
    rw [consChar.eq_def]
    split
    · rename_i cs ps'
      rw [List.flatMap_cons, Piece.visible, unescape_cons (apart cs ps' rfl), List.cons_append,
        List.flatMap_cons, Piece.visible]
    · have alone : unescape [c] = [c] := unescape_cons (by simp [bracketEscape])
      rw [List.flatMap_cons, Piece.visible, alone, List.singleton_append]
  have first (d : Char) (ps : List Piece) : ∀ cs ps', consChar d ps = .text cs :: ps' →
      cs.head? = some d := by
    intro cs ps' same
    rw [consChar.eq_def] at same
    split at same
    · cases same
      rfl
    · cases same
      rfl
  rw [visible, pieces_text absent]
  by_cases escapes : bracketEscape <+: c :: rest
  · -- the bracket after the backslash is at the head of the same piece
    rw [if_pos escapes]
    obtain ⟨rfl, bracket⟩ := begins_bracketEscape.mp escapes
    obtain ⟨rest, rfl⟩ := List.head?_eq_some_iff.mp bracket
    rw [tagAt?_backslash, Option.map_eq_none_iff] at absent
    rw [visible, pieces_text absent]
    rcases pieces rest with _ | ⟨_ | _, _⟩ <;> rfl
  · rw [if_neg escapes, visible]
    refine put fun cs ps' same => ?_
    rw [begins_bracketEscape] at escapes ⊢
    rintro ⟨rfl, bracket⟩
    rw [tagAt?_backslash, Option.map_eq_none_iff] at absent
    cases rest with
    | nil => cases same
    | cons d rest =>
      rw [pieces_text absent] at same
      rw [first d _ cs ps' same] at bracket
      exact escapes ⟨rfl, bracket⟩

theorem visible_cons (plain : c ≠ '\\') (open' : c ≠ '[') :
    visible (c :: rest) = c :: visible rest := by
  rw [visible_text (tagAt?_other plain open')]
  exact if_neg fun escapes => plain (begins_bracketEscape.mp escapes).1

theorem visible_word (plain : word.any isMark = false) :
    visible (word ++ rest) = word ++ visible rest := by
  induction word with
  | nil => rfl
  | cons c word ih =>
    rw [List.any_cons, Bool.or_eq_false_iff] at plain
    obtain ⟨own, others⟩ := plain
    simp only [isMark, Bool.or_eq_false_iff, beq_eq_false_iff_ne] at own
    rw [List.cons_append, visible_cons own.2 own.1, ih others, List.cons_append]

theorem visible_sublist (cs : List Char) : (visible cs).Sublist cs := by
  induction cs using piecesInduction with
  | nil => exact List.Sublist.refl []
  | tag cs count content tail found ih =>
    have slashes : (List.replicate (count / 2) '\\').Sublist (List.replicate count '\\') :=
      (List.replicate_sublist_replicate '\\').mpr (Nat.div_le_self count 2)
    have brackets : (if count % 2 = 1 then '[' :: (content ++ [']']) else []).Sublist
        ('[' :: (content ++ [']'])) := by
      split
      · exact List.Sublist.refl _
      · exact List.nil_sublist _
    rw [visible_tag found, eq_append_of_tagAt? found]
    exact (slashes.append brackets).append ih
  | text c rest absent ih =>
    rw [visible_text absent]
    split
    · exact ih.cons c
    · exact ih.cons_cons c

end Reading

section Texts

variable {cs content tail rest : List Char} {c : Char} {count : Nat}

theorem isUnmarked_cons : IsUnmarked (c :: rest) ↔
    (tagAt? (c :: rest) = none ∧ ¬bracketEscape <+: c :: rest) ∧ IsUnmarked rest := by
  rw [IsUnmarked, List.tails_cons, List.forall_mem_cons, ← IsUnmarked]

theorem isTight_cons : IsTight (c :: rest) ↔
    (bracketEscape <+: c :: rest → tagAt? (c :: rest) ≠ none) ∧ IsTight rest := by
  rw [IsTight, List.tails_cons, List.forall_mem_cons, ← IsTight]

/-- A text in which nothing is markup is shown as it is; any other text loses a mark. -/
theorem visible_unmarked (cs : List Char) : IsUnmarked cs ∧ visible cs = cs ∨
    ¬IsUnmarked cs ∧ (visible cs).countP isMark < cs.countP isMark := by
  induction cs using piecesInduction with
  | nil => exact .inl ⟨by decide, rfl⟩
  | tag cs count content tail found ih =>
    right
    have marked : ¬IsUnmarked cs := by
      intro unmarked
      have absent := (unmarked cs ((List.mem_tails cs cs).mpr (List.suffix_refl cs))).1
      cases found.symm.trans absent
    refine ⟨marked, ?_⟩
    have fewer : (visible tail).countP isMark ≤ tail.countP isMark :=
      (visible_sublist tail).countP_le
    have slash : isMark '\\' = true := rfl
    have bracket : isMark '[' = true := rfl
    rw [visible_tag found, eq_of_tagAt? found]
    by_cases odd : count % 2 = 1
    · rw [if_pos odd]
      simp only [List.countP_append, List.countP_cons, List.countP_nil, List.countP_replicate,
        slash, bracket, ↓reduceIte]
      omega
    · rw [if_neg odd]
      simp only [List.countP_append, List.countP_cons, List.countP_nil, List.countP_replicate,
        slash, bracket, ↓reduceIte]
      omega
  | text c rest absent ih =>
    rw [isUnmarked_cons, visible_text absent]
    split
    · rename_i escapes
      right
      refine ⟨fun unmarked => unmarked.1.2 escapes, ?_⟩
      obtain ⟨rfl, -⟩ := begins_bracketEscape.mp escapes
      have fewer : (visible rest).countP isMark ≤ rest.countP isMark :=
        (visible_sublist rest).countP_le
      have mark : isMark '\\' = true := rfl
      rw [List.countP_cons_of_pos mark]
      omega
    · rename_i other
      rcases ih with ⟨unmarked, same⟩ | ⟨marked, fewer⟩
      · exact .inl ⟨⟨⟨absent, other⟩, unmarked⟩, by rw [same]⟩
      · right
        refine ⟨fun unmarked => marked unmarked.2, ?_⟩
        rw [List.countP_cons, List.countP_cons]
        omega

theorem isTight_tag (found : tagAt? cs = some (count, content, tail)) :
    IsTight cs ↔ IsTight tail := by
  obtain ⟨rest, split, taken⟩ := tagAt?_eq_some.mp found
  obtain ⟨_, _, -, -, -, same⟩ := takeTag?_eq_some.mp taken
  constructor
  · intro tight t member
    rw [List.mem_tails] at member
    exact tight t ((List.mem_tails t cs).mpr (member.trans (suffix_of_tagAt? found)))
  · intro tight
    have inside {xs : List Char} (closed : '[' ∉ xs) : IsTight (xs ++ ']' :: tail) := by
      induction xs with
      | nil =>
        exact isTight_cons.mpr
          ⟨fun escapes => absurd (begins_bracketEscape.mp escapes).1 (by decide), tight⟩
      | cons c xs ih =>
        rw [List.mem_cons, not_or] at closed
        refine isTight_cons.mpr ⟨fun escapes => ?_, ih closed.2⟩
        obtain ⟨-, bracket⟩ := begins_bracketEscape.mp escapes
        cases xs with
        | nil => cases bracket
        | cons d xs =>
          cases bracket
          exact absurd List.mem_cons_self closed.2
    have slashes (n : Nat) : IsTight (List.replicate n '\\' ++ '[' :: rest) := by
      induction n with
      | zero =>
        rw [List.replicate_zero, List.nil_append, isTight_cons, same]
        exact ⟨fun escapes => absurd (begins_bracketEscape.mp escapes).1 (by decide),
          inside (open_not_mem_of_takeTag? taken)⟩
      | succ n ih =>
        have tag := tagAt?_replicate (n + 1) rest
        rw [List.replicate_succ, List.cons_append, taken] at tag
        rw [List.replicate_succ, List.cons_append, isTight_cons]
        exact ⟨fun _ => tag ▸ Option.some_ne_none _, ih⟩
    exact split ▸ slashes count

theorem head?_escaped (absent : tagAt? cs = none) : (escaped cs).head? = cs.head? := by
  cases cs with
  | nil => rfl
  | cons c rest =>
    rw [escaped_text absent]
    rfl

/-- A tight text is shown as it is when it is escaped; any other text loses a backslash. -/
theorem visible_escaped (cs : List Char) : IsTight cs ∧ visible (escaped cs) = cs ∨
    ¬IsTight cs ∧ (visible (escaped cs)).count '\\' < cs.count '\\' := by
  induction cs using piecesInduction with
  | nil => exact .inl ⟨by decide, rfl⟩
  | tag cs count content tail found ih =>
    have again : tagAt? (escaped cs ++ []) = some (2 * count + 1, content, escaped tail ++ []) :=
      tagAt?_escaped_tag found
    rw [List.append_nil, List.append_nil] at again
    have half : (2 * count + 1) / 2 = count := by omega
    have odd : (2 * count + 1) % 2 = 1 := by omega
    have whole := eq_of_tagAt? found
    have kept : visible (escaped cs)
        = List.replicate count '\\' ++ '[' :: (content ++ ']' :: visible (escaped tail)) := by
      rw [visible_tag again, half, if_pos odd]
      simp
    rw [isTight_tag found]
    rcases ih with ⟨tight, same⟩ | ⟨loose, fewer⟩
    · left
      rw [kept, same]
      exact ⟨tight, whole.symm⟩
    · right
      refine ⟨loose, ?_⟩
      rw [kept, whole]
      simp only [List.count_append, List.count_cons]
      omega
  | text c rest absent ih =>
    have still : tagAt? (escaped (c :: rest) ++ []) = none :=
      tagAt?_escaped List.not_mem_nil List.not_mem_nil absent
    rw [List.append_nil, escaped_text absent] at still
    rw [escaped_text absent]
    have first : bracketEscape <+: c :: escaped rest ↔ bracketEscape <+: c :: rest := by
      rw [begins_bracketEscape, begins_bracketEscape]
      refine and_congr_right fun slash => ?_
      subst slash
      rw [tagAt?_backslash, Option.map_eq_none_iff] at absent
      rw [head?_escaped absent]
    have fewer : (visible (escaped rest)).count '\\' ≤ rest.count '\\' := by
      rcases ih with ⟨-, same⟩ | ⟨-, fewer⟩
      · rw [same]
      · exact fewer.le
    rw [visible_text still, isTight_cons]
    by_cases escapes : bracketEscape <+: c :: rest
    · right
      refine ⟨fun tight => tight.1 escapes absent, ?_⟩
      obtain ⟨rfl, -⟩ := begins_bracketEscape.mp escapes
      rw [if_pos (first.mpr escapes), List.count_cons_self]
      omega
    · rw [if_neg (mt first.mp escapes)]
      rcases ih with ⟨tight, same⟩ | ⟨loose, fewer⟩
      · exact .inl ⟨⟨fun other => absurd other escapes, tight⟩, by rw [same]⟩
      · right
        refine ⟨fun tight => loose tight.2, ?_⟩
        rw [List.count_cons, List.count_cons]
        omega

end Texts

section Parts

variable {cs content tail rest more : List Char} {c : Char} {count n : Nat}

theorem visible_closed (closed : '[' ∉ cs) : visible cs = cs := by
  induction cs with
  | nil => rfl
  | cons c rest ih =>
    rw [visible_text (tagAt?_eq_none closed)]
    rw [List.mem_cons, not_or] at closed
    rw [if_neg, ih closed.2]
    intro escapes
    obtain ⟨-, bracket⟩ := begins_bracketEscape.mp escapes
    exact closed.2 (List.mem_of_head? bracket)

theorem escaped_closed (closed : '[' ∉ cs) : escaped cs = cs := by
  induction cs with
  | nil => rfl
  | cons c rest ih =>
    rw [escaped_text (tagAt?_eq_none closed)]
    rw [ih fun member => closed (List.mem_cons_of_mem c member)]

/-- Induction along the pieces of a text that ends in no backslash, before a text apart. -/
@[elab_as_elim]
theorem solidInduction {motive : List Char → Prop} (apart : IsApart more) (nil : motive [])
    (tag : ∀ cs count content tail, tagAt? cs = some (count, content, tail) →
      tagAt? (cs ++ more) = some (count, content, tail ++ more) → motive tail → motive cs)
    (text : ∀ c rest, tagAt? (c :: rest) = none → tagAt? (c :: rest ++ more) = none →
      (rest = [] → c ≠ '\\') → motive rest → motive (c :: rest))
    (cs : List Char) (solid : cs.getLast? ≠ some '\\') : motive cs := by
  have joined {cs : List Char} (filled : cs ≠ []) (solid : cs.getLast? ≠ some '\\') :
      tagAt? (cs ++ more)
        = (tagAt? cs).map fun found => (found.1, found.2.1, found.2.2 ++ more) := by
    refine (tagAt?_append apart cs).resolve_right ?_
    rintro ⟨count, rfl⟩
    cases count with
    | zero => exact filled rfl
    | succ count => exact solid (by rw [List.replicate_succ', List.getLast?_concat])
  have later {cs rest : List Char} (solid : cs.getLast? ≠ some '\\') (part : rest <:+ cs) :
      rest.getLast? ≠ some '\\' := by
    intro ends
    refine solid ?_
    obtain ⟨front, rfl⟩ := part
    rw [List.getLast?_append, ends, Option.some_or]
  induction cs using piecesInduction with
  | nil => exact nil
  | tag cs count content tail found ih =>
    have filled : cs ≠ [] := by
      rintro rfl
      cases found
    refine tag cs count content tail found ?_ (ih (later solid (suffix_of_tagAt? found)))
    rw [joined filled solid, found, Option.map_some]
  | text c rest absent ih =>
    refine text c rest absent ?_ ?_ (ih (later solid (List.suffix_cons c rest)))
    · rw [joined (List.cons_ne_nil c rest) solid, absent, Option.map_none]
    · rintro rfl rfl
      exact solid rfl

theorem visible_append (apart : IsApart more) (solid : cs.getLast? ≠ some '\\') :
    visible (cs ++ more) = visible cs ++ visible more := by
  refine solidInduction apart ?nil ?tag ?text cs solid
  case nil => rfl
  case tag =>
    intro cs count content tail found longer ih
    rw [visible_tag longer, visible_tag found, ih]
    simp only [List.append_assoc]
  case text =>
    intro c rest absent longer ends ih
    have first : bracketEscape <+: c :: (rest ++ more) ↔ bracketEscape <+: c :: rest := by
      rw [begins_bracketEscape, begins_bracketEscape]
      cases rest with
      | nil => exact ⟨fun both => absurd both.1 (ends rfl), fun both => absurd both.1 (ends rfl)⟩
      | cons d rest => rfl
    rw [List.cons_append] at longer ⊢
    rw [visible_text longer, visible_text absent, ih]
    by_cases escapes : bracketEscape <+: c :: rest
    · rw [if_pos escapes, if_pos (first.mpr escapes)]
    · rw [if_neg escapes, if_neg (mt first.mp escapes), List.cons_append]

theorem escaped_append (apart : IsApart more) (solid : cs.getLast? ≠ some '\\') :
    escaped (cs ++ more) = escaped cs ++ escaped more := by
  refine solidInduction apart ?nil ?tag ?text cs solid
  case nil => rfl
  case tag =>
    intro cs count content tail found longer ih
    rw [escaped_tag longer, escaped_tag found, ih]
    simp only [List.append_assoc, List.cons_append]
  case text =>
    intro c rest absent longer ends ih
    rw [List.cons_append] at longer ⊢
    rw [escaped_text longer, escaped_text absent, ih, List.cons_append]

theorem getLast?_escaped (cs : List Char) : (escaped cs).getLast? = cs.getLast? := by
  induction cs using piecesInduction with
  | nil => rfl
  | tag cs count content tail found ih =>
    rw [escaped_tag found, eq_of_tagAt? found]
    simp [List.getLast?_append, List.getLast?_cons, ih]
  | text c rest absent ih =>
    rw [escaped_text absent, List.getLast?_cons, List.getLast?_cons, ih]

theorem exists_solid (cs : List Char) : ∃ body n,
    cs = body ++ List.replicate n '\\' ∧ body.getLast? ≠ some '\\' := by
  induction cs using List.reverseRecOn with
  | nil => exact ⟨[], 0, rfl, by decide⟩
  | append_singleton cs c ih =>
    by_cases slash : c = '\\'
    · obtain ⟨body, n, rfl, solid⟩ := ih
      refine ⟨body, n + 1, ?_, solid⟩
      rw [slash, List.replicate_succ', List.append_assoc]
    · refine ⟨cs ++ [c], 0, (List.append_nil _).symm, ?_⟩
      rw [List.getLast?_concat]
      simpa using slash

theorem open_not_mem_slashes (n : Nat) : '[' ∉ List.replicate n '\\' := by
  simp

theorem isApart_slashes (n : Nat) : IsApart (List.replicate n '\\') :=
  isApart_of_not_mem (by simp)

/-- The number of backslashes at the end of a text after it was escaped. -/
def closingSlashes (n : Nat) : Nat := if n = 1 then 2 else n

theorem escape_solid {body : List Char} (solid : body.getLast? ≠ some '\\') (n : Nat) :
    escape (body ++ List.replicate n '\\')
      = escaped body ++ List.replicate (closingSlashes n) '\\' := by
  have out : escaped (body ++ List.replicate n '\\') = escaped body ++ List.replicate n '\\' := by
    rw [escaped_append (isApart_slashes n) solid, escaped_closed (open_not_mem_slashes n)]
  have back : (escaped body ++ List.replicate n '\\').reverse
      = List.replicate n '\\' ++ (escaped body).reverse := by
    rw [List.reverse_append, List.reverse_replicate]
  rw [← getLast?_escaped, ← List.head?_reverse] at solid
  rw [escape, ← escaped, out, back, closingSlashes]
  obtain _ | _ | n := n
  · rw [List.replicate_zero, List.nil_append]
    split
    · rename_i ends
      exact absurd (ends ▸ rfl) solid
    · rename_i ends
      exact absurd (ends ▸ rfl) solid
    · rfl
  · rw [Nat.zero_add, List.replicate_one, List.singleton_append]
    split
    · rename_i ends
      exact absurd ((List.cons.inj ends).2 ▸ rfl) solid
    · exact List.append_assoc _ _ _
    · rename_i other
      exact absurd rfl (other _)
  · rfl

/-- Of the backslashes before a tag half are shown; the tag is shown where one is left over. -/
theorem visible_slashes (tag : takeTag? (content ++ [']']) = some (content, [])) (n : Nat) :
    visible (List.replicate n '\\' ++ '[' :: (content ++ [']']))
      = List.replicate (n / 2) '\\' ++ if n % 2 = 1 then '[' :: (content ++ [']']) else [] := by
  have found : tagAt? (List.replicate n '\\' ++ '[' :: (content ++ [']']))
      = some (n, content, []) := by
    rw [tagAt?_replicate, tag, Option.map_some]
  rw [visible_tag found]
  exact List.append_nil _

theorem visible_solid (tag : takeTag? (content ++ [']']) = some (content, []))
    (solid : cs.getLast? ≠ some '\\') (n : Nat) :
    visible (cs ++ List.replicate n '\\' ++ '[' :: (content ++ [']'])) = visible cs
      ++ (List.replicate (n / 2) '\\' ++ if n % 2 = 1 then '[' :: (content ++ [']']) else []) := by
  have apart : IsApart (List.replicate n '\\' ++ '[' :: (content ++ [']'])) :=
    (isApart_slashes n).append (isApart_bracket _)
  rw [List.append_assoc, visible_append apart solid, visible_slashes tag]

theorem visible_escaped_slashes (solid : cs.getLast? ≠ some '\\') (n : Nat) :
    visible (escaped cs ++ List.replicate n '\\')
      = visible (escaped cs) ++ List.replicate n '\\' := by
  rw [← getLast?_escaped] at solid
  rw [visible_append (isApart_slashes n) solid, visible_closed (open_not_mem_slashes n)]

theorem visible_escaped_solid (solid : cs.getLast? ≠ some '\\') (n : Nat) :
    IsTight (cs ++ List.replicate n '\\') ∧ visible (escaped cs) = cs ∨
      ¬IsTight (cs ++ List.replicate n '\\') ∧
        (visible (escaped cs)).count '\\' < cs.count '\\' := by
  have shown := visible_escaped (cs ++ List.replicate n '\\')
  rw [escaped_append (isApart_slashes n) solid, escaped_closed (open_not_mem_slashes n),
    visible_escaped_slashes solid, List.count_append, List.count_append] at shown
  refine shown.imp (fun ⟨tight, same⟩ => ?_) fun ⟨loose, fewer⟩ => ?_
  · exact ⟨tight, List.append_cancel_right same⟩
  · exact ⟨loose, by omega⟩

theorem slashes_suffix {body : List Char} (solid : body.getLast? ≠ some '\\') {k n : Nat} :
    List.replicate k '\\' <:+ body ++ List.replicate n '\\' ↔ k ≤ n := by
  constructor
  · intro ends
    by_contra more
    obtain ⟨j, rfl⟩ : ∃ j, k = j + 1 + n := ⟨k - n - 1, by omega⟩
    obtain ⟨front, whole⟩ := ends
    rw [List.replicate_add, ← List.append_assoc] at whole
    have last : body = front ++ List.replicate (j + 1) '\\' :=
      (List.append_cancel_right whole).symm
    rw [last, List.replicate_succ', ← List.append_assoc, List.getLast?_concat] at solid
    exact solid rfl
  · intro few
    obtain ⟨j, rfl⟩ := Nat.exists_eq_add_of_le' few
    rw [List.replicate_add, ← List.append_assoc]
    exact List.suffix_append _ _

end Parts

section Finding

variable {cs body content lead : List Char} {n : Nat}

theorem not_infix_of_count {shown : List Char} (plain : '\\' ∉ lead)
    (fewer : shown.count '\\' < cs.count '\\') : ¬cs <:+: lead ++ shown := by
  intro inside
  have most := inside.sublist.count_le '\\'
  rw [List.count_append, List.count_eq_zero.mpr plain] at most
  omega

/-- A text that is not escaped is found in what is shown of it when nothing in it is markup. -/
theorem infix_visible (plain : lead.countP isMark = 0) :
    cs <:+: lead ++ visible cs ↔ IsUnmarked cs := by
  rcases visible_unmarked cs with ⟨unmarked, same⟩ | ⟨marked, fewer⟩
  · rw [same]
    exact iff_of_true (List.suffix_append lead cs).isInfix unmarked
  · refine iff_of_false (fun inside => ?_) marked
    have most := inside.sublist.countP_le (p := isMark)
    rw [List.countP_append, plain] at most
    omega

theorem count_slashes_le (slashless : '\\' ∉ content) : (List.replicate (n / 2) '\\'
    ++ if n % 2 = 1 then '[' :: (content ++ [']']) else []).count '\\' ≤ n / 2 := by
  have rest : (if n % 2 = 1 then '[' :: (content ++ [']']) else []).count '\\' = 0 := by
    rw [List.count_eq_zero]
    split
    · simpa using slashless
    · exact List.not_mem_nil
  rw [List.count_append, rest, List.count_replicate_self, Nat.add_zero]

theorem infix_visible_tag (plain : lead.countP isMark = 0)
    (tag : takeTag? (content ++ [']']) = some (content, [])) (slashless : '\\' ∉ content) :
    cs <:+: lead ++ visible (cs ++ '[' :: (content ++ [']']))
      ↔ IsUnmarked cs ∧ ¬['\\'] <:+ cs := by
  obtain ⟨body, n, rfl, solid⟩ := exists_solid cs
  have ends : ['\\'] <:+ body ++ List.replicate n '\\' ↔ 1 ≤ n := slashes_suffix (k := 1) solid
  rw [visible_solid tag solid, ends]
  by_cases none : n = 0
  · subst none
    rw [List.replicate_zero, List.append_nil, if_neg (by decide), List.append_nil,
      and_iff_left (by decide)]
    rw [List.append_nil, infix_visible plain]
  · refine iff_of_false (not_infix_of_count ?_ ?_) fun both => both.2 (by omega)
    · intro member
      exact absurd (List.countP_eq_zero.mp plain _ member) (by decide)
    · have shorter := count_slashes_le (n := n) slashless
      have fewer : (visible body).count '\\' ≤ body.count '\\' := (visible_sublist body).count_le _
      simp only [List.count_append, List.count_replicate_self] at shorter ⊢
      omega

theorem not_infix_of_doubled {shown : List Char} (plain : '\\' ∉ lead)
    (solid : body.getLast? ≠ some '\\') (fewer : shown.count '\\' < body.count '\\') :
    ¬body ++ ['\\'] <:+: lead ++ (shown ++ ['\\', '\\']) := by
  rintro ⟨before, after, whole⟩
  have counts := congrArg (List.count '\\') whole
  simp only [List.count_append, List.count_cons_self, List.count_nil,
    List.count_eq_zero.mpr plain] at counts
  have split : lead ++ (shown ++ ['\\', '\\']) = (lead ++ shown ++ ['\\']) ++ ['\\'] := by simp
  rw [split] at whole
  cases after using List.reverseRecOn with
  | nil =>
    rw [List.append_nil, ← List.append_assoc] at whole
    have ends := congrArg List.getLast? (List.append_cancel_right whole)
    rw [List.getLast?_concat] at ends
    cases body using List.reverseRecOn with
    | nil =>
      rw [List.count_nil] at fewer
      omega
    | append_singleton front c =>
      rw [← List.append_assoc, List.getLast?_concat] at ends
      exact solid (List.getLast?_concat.trans ends)
  | append_singleton front c =>
    rw [← List.append_assoc] at whole
    have last := congrArg List.getLast? whole
    rw [List.getLast?_concat, List.getLast?_concat] at last
    cases last
    rw [List.count_append, List.count_singleton_self] at counts
    omega

/-- An escaped text is found in what is shown of it when it is tight. -/
theorem infix_visible_escape (plain : '\\' ∉ lead) :
    cs <:+: lead ++ visible (escape cs) ↔ IsTight cs := by
  obtain ⟨body, n, rfl, solid⟩ := exists_solid cs
  rw [escape_solid solid, visible_escaped_slashes solid]
  rcases visible_escaped_solid solid n with ⟨tight, same⟩ | ⟨loose, fewer⟩
  · refine iff_of_true ?_ tight
    rw [same]
    by_cases one : n = 1
    · exact ⟨lead, ['\\'], by subst one; simp [closingSlashes]⟩
    · rw [closingSlashes, if_neg one]
      exact (List.suffix_append lead _).isInfix
  · refine iff_of_false ?_ loose
    by_cases one : n = 1
    · subst one
      exact not_infix_of_doubled plain solid fewer
    · refine not_infix_of_count plain ?_
      rw [closingSlashes, if_neg one, List.count_append, List.count_append]
      omega

/-- Before the tag that ends a style, no two backslashes may end the text either. -/
theorem infix_visible_escape_tag (plain : '\\' ∉ lead)
    (tag : takeTag? (content ++ [']']) = some (content, [])) (slashless : '\\' ∉ content) :
    cs <:+: lead ++ visible (escape cs ++ '[' :: (content ++ [']']))
      ↔ IsTight cs ∧ ¬['\\', '\\'] <:+ cs := by
  obtain ⟨body, n, rfl, solid⟩ := exists_solid cs
  have ends : ['\\', '\\'] <:+ body ++ List.replicate n '\\' ↔ 2 ≤ n :=
    slashes_suffix (k := 2) solid
  rw [escape_solid solid, visible_solid tag (by rwa [getLast?_escaped]), ends]
  have shorter := count_slashes_le (n := closingSlashes n) slashless
  by_cases few : n < 2
  · have kept : List.replicate (closingSlashes n / 2) '\\'
        ++ (if closingSlashes n % 2 = 1 then '[' :: (content ++ [']']) else [])
        = List.replicate n '\\' := by
      match n, few with
      | 0, _ => rfl
      | 1, _ => rfl
    rw [kept, and_iff_left (by omega)]
    rcases visible_escaped_solid solid n with ⟨tight, same⟩ | ⟨loose, fewer⟩
    · rw [same]
      exact iff_of_true (List.suffix_append lead _).isInfix tight
    · refine iff_of_false (not_infix_of_count plain ?_) loose
      rw [List.count_append, List.count_append]
      omega
  · refine iff_of_false (not_infix_of_count plain ?_) fun both => both.2 (by omega)
    have fewer : (visible (escaped body)).count '\\' ≤ body.count '\\' := by
      rcases visible_escaped_solid solid n with ⟨-, same⟩ | ⟨-, fewer⟩
      · rw [same]
      · exact fewer.le
    rw [closingSlashes, if_neg (by omega)] at shorter ⊢
    simp only [List.count_append, List.count_replicate_self] at shorter ⊢
    omega

end Finding

end ServiceCli.Console
