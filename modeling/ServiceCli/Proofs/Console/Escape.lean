import Mathlib.Data.List.TakeWhile
import ServiceCli.Console.Manner
import ServiceCli.Proofs.Outcome

set_option autoImplicit false
set_option relaxedAutoImplicit false

namespace ServiceCli.Console

def Piece.IsShown : Piece → Prop
  | .text _ => True
  | .tag backslashes _ => backslashes % 2 = 1

/-- The markup that shows the pieces of a text. -/
def escaped (cs : List Char) : List Char := (pieces cs).flatMap Piece.escaped

section Tags

variable {cs content tail rest : List Char} {c : Char} {count fuel : Nat}

theorem drop_takeWhile {α : Type} (p : α → Bool) (cs : List α) :
    cs.drop (cs.takeWhile p).length = cs.dropWhile p := by
  have parts : cs.takeWhile p ++ cs.dropWhile p = cs := List.takeWhile_append_dropWhile
  have left : (cs.takeWhile p ++ cs.dropWhile p).drop (cs.takeWhile p).length = cs.dropWhile p :=
    List.drop_left
  rwa [parts] at left

theorem takeTag?_eq_some : takeTag? cs = some (content, tail) ↔ ∃ c body,
    content = c :: body ∧ beginsTag c = true ∧ (∀ d ∈ body, (d != ']' && d != '[') = true) ∧
      cs = content ++ ']' :: tail := by
  cases cs with
  | nil => simp [takeTag?]
  | cons c rest =>
    rw [takeTag?, drop_takeWhile]
    constructor
    · intro found
      split at found
      · rename_i after ends
        split at found
        · rename_i begins
          cases found
          refine ⟨c, _, rfl, begins, fun d member =>
            List.mem_takeWhile_imp (p := fun d => d != ']' && d != '[') member, ?_⟩
          rw [List.cons_append, ← ends, List.takeWhile_append_dropWhile]
        · cases found
      · cases found
    · rintro ⟨_, body, rfl, begins, inner, same⟩
      rw [List.cons_append, List.cons.injEq] at same
      obtain ⟨rfl, rfl⟩ := same
      have taken : (body ++ ']' :: tail).takeWhile (fun d => d != ']' && d != '[') = body := by
        rw [List.takeWhile_append_of_pos inner, List.takeWhile_cons_of_neg (by decide),
          List.append_nil]
      have left : (body ++ ']' :: tail).dropWhile (fun d => d != ']' && d != '[')
          = ']' :: tail := by
        rw [List.dropWhile_append_of_pos inner, List.dropWhile_cons_of_neg (by decide)]
      rw [left, taken]
      simp [begins]

theorem open_not_mem_of_takeTag? (taken : takeTag? cs = some (content, tail)) : '[' ∉ content := by
  obtain ⟨c, body, rfl, begins, inner, -⟩ := takeTag?_eq_some.mp taken
  rw [List.mem_cons, not_or]
  refine ⟨?_, fun member => ?_⟩
  · rintro rfl
    exact absurd begins (by decide)
  · exact absurd (inner _ member) (by decide)

theorem tagAt?_backslash : tagAt? ('\\' :: rest)
    = (tagAt? rest).map fun (count, content, tail) => (count + 1, content, tail) := by
  rw [tagAt?, tagAt?, List.takeWhile_cons_of_pos (by decide), List.length_cons,
    List.drop_succ_cons]
  split
  · simp [Option.map_map, Function.comp_def]
  · rfl

theorem tagAt?_bracket : tagAt? ('[' :: rest)
    = (takeTag? rest).map fun (content, tail) => (0, content, tail) := rfl

theorem tagAt?_other (plain : c ≠ '\\') (open' : c ≠ '[') : tagAt? (c :: rest) = none := by
  rw [tagAt?, List.takeWhile_cons_of_neg (by simpa using plain)]
  simp [open']

theorem tagAt?_replicate (count : Nat) (rest : List Char) :
    tagAt? (List.replicate count '\\' ++ '[' :: rest)
      = (takeTag? rest).map fun (content, tail) => (count, content, tail) := by
  induction count with
  | zero => rfl
  | succ count ih =>
    rw [List.replicate_succ, List.cons_append, tagAt?_backslash, ih, Option.map_map]
    rfl

theorem tagAt?_eq_none (closed : '[' ∉ cs) : tagAt? cs = none := by
  induction cs with
  | nil => rfl
  | cons c cs ih =>
    rw [List.mem_cons, not_or] at closed
    by_cases slash : c = '\\'
    · subst slash
      rw [tagAt?_backslash, ih closed.2, Option.map_none]
    · exact tagAt?_other slash (Ne.symm closed.1)

theorem tagAt?_eq_some : tagAt? cs = some (count, content, tail) ↔ ∃ rest,
    cs = List.replicate count '\\' ++ '[' :: rest ∧ takeTag? rest = some (content, tail) := by
  constructor
  · intro found
    induction cs generalizing count with
    | nil => cases found
    | cons c cs ih =>
      by_cases slash : c = '\\'
      · subst slash
        rw [tagAt?_backslash] at found
        obtain ⟨tag, later, same⟩ := Option.map_eq_some_iff.mp found
        cases same
        obtain ⟨rest, rfl, taken⟩ := ih later
        exact ⟨rest, rfl, taken⟩
      · by_cases bracket : c = '['
        · subst bracket
          rw [tagAt?_bracket] at found
          obtain ⟨tag, taken, same⟩ := Option.map_eq_some_iff.mp found
          cases same
          exact ⟨cs, rfl, taken⟩
        · rw [tagAt?_other slash bracket] at found
          cases found
  · rintro ⟨rest, rfl, taken⟩
    rw [tagAt?_replicate, taken, Option.map_some]

theorem eq_of_tagAt? (found : tagAt? cs = some (count, content, tail)) :
    cs = List.replicate count '\\' ++ '[' :: (content ++ ']' :: tail) := by
  obtain ⟨rest, rfl, taken⟩ := tagAt?_eq_some.mp found
  obtain ⟨_, _, -, -, -, rfl⟩ := takeTag?_eq_some.mp taken
  rfl

theorem eq_append_of_tagAt? (found : tagAt? cs = some (count, content, tail)) :
    cs = List.replicate count '\\' ++ '[' :: (content ++ [']']) ++ tail := by
  rw [eq_of_tagAt? found]
  simp

theorem suffix_of_tagAt? (found : tagAt? cs = some (count, content, tail)) : tail <:+ cs :=
  ⟨_, (eq_append_of_tagAt? found).symm⟩

theorem length_lt_of_tagAt? (found : tagAt? cs = some (count, content, tail)) :
    tail.length < cs.length := by
  rw [eq_of_tagAt? found]
  simp only [List.length_append, List.length_cons]
  omega

theorem piecesFrom_tag (found : tagAt? cs = some (count, content, tail)) :
    piecesFrom (fuel + 1) cs = .tag count content :: piecesFrom fuel tail := by
  cases cs with
  | nil => cases found
  | cons c rest => rw [piecesFrom, found]

theorem piecesFrom_text (absent : tagAt? (c :: rest) = none) :
    piecesFrom (fuel + 1) (c :: rest) = consChar c (piecesFrom fuel rest) := by
  rw [piecesFrom, absent]

theorem piecesFrom_congr {fuel fuel' : Nat} (enough : cs.length < fuel)
    (enough' : cs.length < fuel') : piecesFrom fuel cs = piecesFrom fuel' cs := by
  induction fuel generalizing cs fuel' with
  | zero => omega
  | succ fuel ih =>
    obtain ⟨fuel', rfl⟩ : ∃ n, fuel' = n + 1 := ⟨fuel' - 1, by omega⟩
    cases cs with
    | nil => rfl
    | cons c rest =>
      cases found : tagAt? (c :: rest) with
      | some tag =>
        obtain ⟨count, content, tail⟩ := tag
        have shorter := length_lt_of_tagAt? found
        rw [piecesFrom_tag found, piecesFrom_tag found]
        rw [ih (by omega) (show tail.length < fuel' by omega)]
      | none =>
        rw [List.length_cons] at enough enough'
        rw [piecesFrom_text found, piecesFrom_text found]
        rw [ih (by omega) (show rest.length < fuel' by omega)]

theorem pieces_tag (found : tagAt? cs = some (count, content, tail)) :
    pieces cs = .tag count content :: pieces tail := by
  rw [pieces, piecesFrom_tag found, pieces]
  rw [piecesFrom_congr (length_lt_of_tagAt? found) (Nat.lt_succ_self _)]

theorem pieces_text (absent : tagAt? (c :: rest) = none) :
    pieces (c :: rest) = consChar c (pieces rest) := by
  rw [pieces, piecesFrom_text absent, pieces, List.length_cons]

/-- Induction along the pieces of a text: a tag, or a character that begins none. -/
@[elab_as_elim]
theorem piecesInduction {motive : List Char → Prop} (nil : motive [])
    (tag : ∀ cs count content tail, tagAt? cs = some (count, content, tail) → motive tail →
      motive cs)
    (text : ∀ c rest, tagAt? (c :: rest) = none → motive rest → motive (c :: rest))
    (cs : List Char) : motive cs := by
  induction size : cs.length using Nat.strong_induction_on generalizing cs with
  | _ n ih =>
    subst size
    cases cs with
    | nil => exact nil
    | cons c rest =>
      cases found : tagAt? (c :: rest) with
      | some first =>
        obtain ⟨count, content, tail⟩ := first
        exact tag _ count content tail found (ih _ (length_lt_of_tagAt? found) tail rfl)
      | none => exact text c rest found (ih _ (Nat.lt_succ_self _) rest rfl)

theorem consChar_isShown {ps : List Piece} (shown : ∀ p ∈ ps, p.IsShown) :
    ∀ p ∈ consChar c ps, p.IsShown := by
  rw [consChar.eq_def]
  split
  · exact List.forall_mem_cons.mpr ⟨trivial, (List.forall_mem_cons.mp shown).2⟩
  · exact List.forall_mem_cons.mpr ⟨trivial, shown⟩

theorem pieces_isShown (closed : '[' ∉ cs) : ∀ p ∈ pieces cs, p.IsShown := by
  induction cs with
  | nil => exact nofun
  | cons c rest ih =>
    rw [pieces_text (tagAt?_eq_none closed)]
    exact consChar_isShown (ih fun member => closed (List.mem_cons_of_mem c member))

end Tags

/-- A text that no tag from before it reaches into. -/
def IsApart (more : List Char) : Prop :=
  ∀ cs, takeTag? (cs ++ more) = (takeTag? cs).map fun (inner, tail) => (inner, tail ++ more)

section Apart

variable {cs content tail rest first more : List Char} {c : Char} {count : Nat}

theorem isApart_of (inside : ∀ cs content tail, takeTag? (cs ++ more) = some (content, tail) →
    ∃ rest, cs = content ++ ']' :: rest) : IsApart more := by
  intro cs
  cases found : takeTag? cs with
  | some tag =>
    obtain ⟨inner, tail⟩ := tag
    obtain ⟨c, body, made, begins, within, rfl⟩ := takeTag?_eq_some.mp found
    exact takeTag?_eq_some.mpr ⟨c, body, made, begins, within, by simp⟩
  | none =>
    cases longer : takeTag? (cs ++ more) with
    | none => rfl
    | some tag =>
      obtain ⟨rest, rfl⟩ := inside cs tag.1 tag.2 longer
      obtain ⟨c, body, made, begins, within, -⟩ := takeTag?_eq_some.mp longer
      cases found.symm.trans (takeTag?_eq_some.mpr ⟨c, body, made, begins, within, rfl⟩)

theorem isApart_bracket (more : List Char) : IsApart ('[' :: more) := by
  refine isApart_of fun cs content tail longer => ?_
  obtain ⟨_, _, -, -, -, split⟩ := takeTag?_eq_some.mp longer
  -- the bracket stands in the tag, or the tag stands before it
  obtain ⟨rest, inner, later⟩ | ⟨rest, rfl, later⟩ := List.append_eq_append_iff.mp split
  · cases rest with
    | nil => cases later
    | cons d rest =>
      obtain ⟨rfl, -⟩ := List.cons.inj later
      have among : '[' ∈ content := inner ▸ List.mem_append_right _ List.mem_cons_self
      exact absurd among (open_not_mem_of_takeTag? longer)
  · cases rest with
    | nil => cases later
    | cons d rest =>
      obtain ⟨rfl, -⟩ := List.cons.inj later
      exact ⟨rest, rfl⟩

theorem isApart_of_not_mem (ended : ']' ∉ more) : IsApart more := by
  refine isApart_of fun cs content tail longer => ?_
  obtain ⟨_, _, -, -, -, split⟩ := takeTag?_eq_some.mp longer
  obtain ⟨rest, -, rfl⟩ | ⟨rest, rfl, later⟩ := List.append_eq_append_iff.mp split
  · exact absurd (List.mem_append_right _ List.mem_cons_self) ended
  · cases rest with
    | nil =>
      cases later
      exact absurd List.mem_cons_self ended
    | cons d rest =>
      obtain ⟨rfl, -⟩ := List.cons.inj later
      exact ⟨rest, rfl⟩

theorem IsApart.append (apart : IsApart first) (later : IsApart more) :
    IsApart (first ++ more) := by
  intro cs
  rw [← List.append_assoc, later, apart, Option.map_map]
  simp [Function.comp_def]

/-- A tag before a text apart is the tag without it; where there is none, only backslashes may join
what the text begins with. -/
theorem tagAt?_append (apart : IsApart more) (cs : List Char) : tagAt? (cs ++ more)
      = (tagAt? cs).map (fun (count, inner, tail) => (count, inner, tail ++ more)) ∨
    ∃ count, cs = List.replicate count '\\' := by
  induction cs with
  | nil => exact .inr ⟨0, rfl⟩
  | cons c cs ih =>
    by_cases slash : c = '\\'
    · subst slash
      refine ih.imp (fun same => ?_) fun ⟨count, slashes⟩ => ⟨count + 1, slashes ▸ rfl⟩
      rw [List.cons_append, tagAt?_backslash, same, tagAt?_backslash, Option.map_map,
        Option.map_map]
      rfl
    · left
      by_cases bracket : c = '['
      · subst bracket
        rw [List.cons_append, tagAt?_bracket, apart, tagAt?_bracket, Option.map_map,
          Option.map_map]
        rfl
      · rw [List.cons_append, tagAt?_other slash bracket, tagAt?_other slash bracket]
        rfl

end Apart

section Escaping

variable {cs content tail rest ending : List Char} {c : Char} {count : Nat}

theorem escaped_nil : escaped [] = [] := rfl

theorem escaped_tag (found : tagAt? cs = some (count, content, tail)) : escaped cs
    = List.replicate (2 * count + 1) '\\' ++ '[' :: (content ++ ']' :: escaped tail) := by
  rw [escaped, pieces_tag found, List.flatMap_cons, Piece.escaped, escaped]
  simp

theorem escaped_text (absent : tagAt? (c :: rest) = none) :
    escaped (c :: rest) = c :: escaped rest := by
  have put (ps : List Piece) :
      (consChar c ps).flatMap Piece.escaped = c :: ps.flatMap Piece.escaped := by
    rw [consChar.eq_def]
    split <;> rfl
  rw [escaped, pieces_text absent, put, escaped]

theorem opens_first {front after : List Char} (closed : '[' ∉ front)
    (split : List.replicate count '\\' ++ '[' :: rest = front ++ ']' :: after) : False := by
  have slashes : ']' ∉ List.replicate count '\\' := by simp
  rw [List.append_cons front, List.append_eq_append_iff] at split
  -- the closing bracket comes after the opening one, or among the backslashes before it
  obtain ⟨middle, parts, later⟩ | ⟨middle, parts, -⟩ := split
  · cases middle with
    | nil =>
      rw [List.append_nil] at parts
      exact slashes (parts ▸ List.mem_append_right front List.mem_cons_self)
    | cons d middle =>
      obtain ⟨rfl, -⟩ := List.cons.inj later
      have among : '[' ∈ front ++ [']'] :=
        parts ▸ List.mem_append_right _ List.mem_cons_self
      exact closed (by simpa using among)
  · refine slashes (parts ▸ ?_)
    simp

theorem exists_closing {front after : List Char} (closed : '[' ∉ front) (ended : ']' ∉ ending)
    (split : escaped cs ++ ending = front ++ ']' :: after) :
    ∃ rest, cs = front ++ ']' :: rest := by
  induction cs using piecesInduction generalizing front with
  | nil =>
    rw [escaped_nil, List.nil_append] at split
    exact absurd (split ▸ List.mem_append_right front List.mem_cons_self) ended
  | tag cs count content tail found =>
    -- a tag would put its opening bracket before the closing one
    rw [escaped_tag found, List.append_assoc, List.cons_append] at split
    exact (opens_first closed split).elim
  | text c rest absent ih =>
    rw [escaped_text absent, List.cons_append] at split
    cases front with
    | nil =>
      obtain ⟨rfl, -⟩ := List.cons.inj split
      exact ⟨rest, rfl⟩
    | cons d front =>
      obtain ⟨rfl, later⟩ := List.cons.inj split
      rw [List.mem_cons, not_or] at closed
      obtain ⟨tail, rfl⟩ := ih closed.2 later
      exact ⟨tail, rfl⟩

theorem takeTag?_escaped (ended : ']' ∉ ending) (absent : takeTag? cs = none) :
    takeTag? (escaped cs ++ ending) = none := by
  cases found : takeTag? (escaped cs ++ ending) with
  | none => rfl
  | some tag =>
    obtain ⟨c, body, content, begins, inner, split⟩ := takeTag?_eq_some.mp found
    obtain ⟨tail, rfl⟩ := exists_closing (open_not_mem_of_takeTag? found) ended split
    have also : takeTag? (tag.1 ++ ']' :: tail) = some (tag.1, tail) :=
      takeTag?_eq_some.mpr ⟨c, body, content, begins, inner, rfl⟩
    rw [absent] at also
    cases also

theorem tagAt?_escaped (opened : '[' ∉ ending) (ended : ']' ∉ ending)
    (absent : tagAt? cs = none) : tagAt? (escaped cs ++ ending) = none := by
  induction cs with
  | nil => exact tagAt?_eq_none opened
  | cons c rest ih =>
    rw [escaped_text absent, List.cons_append]
    -- a tag begins with backslashes and a bracket; after these, escaping makes none
    by_cases slash : c = '\\'
    · subst slash
      rw [tagAt?_backslash, Option.map_eq_none_iff] at absent
      rw [tagAt?_backslash, ih absent, Option.map_none]
    · by_cases bracket : c = '['
      · subst bracket
        rw [tagAt?_bracket, Option.map_eq_none_iff] at absent
        rw [tagAt?_bracket, takeTag?_escaped ended absent, Option.map_none]
      · exact tagAt?_other slash bracket

/-- A tag that was escaped is found again, with one backslash more than twice as many. -/
theorem tagAt?_escaped_tag (found : tagAt? cs = some (count, content, tail)) :
    tagAt? (escaped cs ++ ending) = some (2 * count + 1, content, escaped tail ++ ending) := by
  obtain ⟨before, -, taken⟩ := tagAt?_eq_some.mp found
  obtain ⟨d, body, made, begins, inner, -⟩ := takeTag?_eq_some.mp taken
  have again : takeTag? (content ++ ']' :: (escaped tail ++ ending))
      = some (content, escaped tail ++ ending) :=
    takeTag?_eq_some.mpr ⟨d, body, made, begins, inner, rfl⟩
  rw [escaped_tag found, List.append_assoc, List.cons_append, tagAt?_replicate,
    List.append_assoc, List.cons_append, again, Option.map_some]

/-- Every piece of an escaped text is shown. -/
theorem pieces_escaped (opened : '[' ∉ ending) (ended : ']' ∉ ending) :
    ∀ p ∈ pieces (escaped cs ++ ending), p.IsShown := by
  induction cs using piecesInduction with
  | nil => exact pieces_isShown opened
  | tag cs count content tail found ih =>
    have odd : (2 * count + 1) % 2 = 1 := by omega
    rw [pieces_tag (tagAt?_escaped_tag found)]
    exact List.forall_mem_cons.mpr ⟨odd, ih⟩
  | text c rest absent ih =>
    have still : tagAt? (escaped (c :: rest) ++ ending) = none :=
      tagAt?_escaped opened ended absent
    rw [escaped_text absent, List.cons_append] at still ⊢
    rw [pieces_text still]
    exact consChar_isShown ih

theorem escape_eq (cs : List Char) : ∃ ending, '[' ∉ ending ∧ ']' ∉ ending ∧
    escape cs = escaped cs ++ ending := by
  rw [escape, ← escaped]
  split
  · exact ⟨[], by simp, by simp, (List.append_nil _).symm⟩
  · exact ⟨['\\'], by simp, by simp, rfl⟩
  · exact ⟨[], by simp, by simp, (List.append_nil _).symm⟩

theorem pieces_escape (cs : List Char) : ∀ p ∈ pieces (escape cs), p.IsShown := by
  obtain ⟨ending, opened, ended, split⟩ := escape_eq cs
  rw [split]
  exact pieces_escaped opened ended

end Escaping

end ServiceCli.Console
