import Mathlib.Data.List.TakeWhile
import ServiceCli.Console.Manner
import ServiceCli.Proofs.Console.Visible
import ServiceCli.Proofs.Outcome

set_option autoImplicit false
set_option relaxedAutoImplicit false

namespace ServiceCli.Console

/-- A character that is shown in one cell: a printable one of ASCII, or the arrow of a hint. -/
def IsNarrow (c : Char) : Prop := (0x20 ≤ c.toNat ∧ c.toNat < 0x7f) ∨ c = '→'

instance : DecidablePred IsNarrow := fun c =>
  inferInstanceAs (Decidable ((0x20 ≤ c.toNat ∧ c.toNat < 0x7f) ∨ c = '→'))

section Narrow

variable {c : Char} {cs : List Char}

theorem IsNarrow.cellWidth_eq (narrow : IsNarrow c) : cellWidth c = 1 := by
  rcases narrow with ⟨least, most⟩ | rfl
  · simp [cellWidth, least, most]
  · decide +kernel

theorem IsNarrow.ne_of_toNat {d : Char} (narrow : IsNarrow c)
    (outside : d.toNat < 0x20 ∨ 0x7f ≤ d.toNat) (other : d ≠ '→') : c ≠ d := by
  rintro rfl
  rcases narrow with ⟨least, most⟩ | rfl
  · omega
  · exact other rfl

theorem cells_narrow (narrow : ∀ c ∈ cs, IsNarrow c) : cells cs = cs.length := by
  have from' (last? : Option Char) : cellsFrom last? false cs = cs.length := by
    induction cs generalizing last? with
    | nil => rfl
    | cons c cs ih =>
      obtain ⟨own, others⟩ := List.forall_mem_cons.mp narrow
      have noJoiner : c ≠ joiner := own.ne_of_toNat (.inr (by decide)) (by decide)
      have noSelector : c ≠ pictureSelector := own.ne_of_toNat (.inr (by decide)) (by decide)
      rw [cellsFrom, if_neg (by simp), if_neg noJoiner, if_neg noSelector, own.cellWidth_eq,
        ih others, List.length_cons, Nat.add_comm]
  exact from' none

theorem withoutControls_narrow (narrow : ∀ c ∈ cs, IsNarrow c) : withoutControls cs = cs := by
  refine List.filter_eq_self.mpr fun c member => ?_
  have own := narrow c member
  have kept : c.toNat ∉ droppedCodes := by
    rcases own with ⟨least, most⟩ | rfl
    · simp only [droppedCodes, List.mem_cons, List.not_mem_nil, or_false]
      omega
    · decide
  simpa using kept

theorem withPictures_eq_self (few : cs.count ':' ≤ 1) : withPictures cs = cs := by
  induction cs with
  | nil => rw [withPictures]
  | cons c rest ih =>
    rw [withPictures]
    split
    · rename_i colon
      subst colon
      rw [List.count_cons_self] at few
      have absent : ':' ∉ rest := List.count_eq_zero.mp (by omega)
      dsimp only
      split
      · rename_i tail later
        exact absurd (List.mem_of_mem_drop (later ▸ List.mem_cons_self)) absent
      · rw [ih (by omega)]
    · rw [ih (List.count_le_count_cons.trans few)]

end Narrow

section Chars

variable {d d' : Draft} {p : Piece} {ps : List Piece} {cs content : List Char}

theorem addText_narrow (narrow : ∀ c ∈ cs, IsNarrow c) (few : cs.count ':' ≤ 1) :
    (d.addText cs).chars = d.chars ++ cs := by
  rw [Draft.addText, withPictures_eq_self few, withoutControls_narrow narrow]

theorem addTag_chars (added : d.addTag content = .ok d') : d'.chars = d.chars := by
  rw [Draft.addTag] at added
  split at added
  · obtain ⟨found?, -, closes⟩ := Outcome.bind_eq_ok.mp added
    split at closes
    · cases closes
      rfl
    · cases closes
  · obtain ⟨style, -, opens⟩ := Outcome.bind_eq_ok.mp added
    cases opens
    rfl

theorem addPiece_chars (narrow : ∀ c ∈ p.visible, IsNarrow c) (few : p.visible.count ':' ≤ 1)
    (added : d.addPiece p = .ok d') : d'.chars = d.chars ++ p.visible := by
  cases p with
  | text cs =>
    cases added
    exact addText_narrow narrow few
  | tag backslashes content =>
    rw [Piece.visible] at narrow few ⊢
    rw [List.count_append] at few
    have slashes : (d.addText (List.replicate (backslashes / 2) '\\')).chars
        = d.chars ++ List.replicate (backslashes / 2) '\\' :=
      addText_narrow (fun c member => narrow c (List.mem_append_left _ member)) (by omega)
    rw [Draft.addPiece] at added
    by_cases odd : backslashes % 2 = 1
    · rw [if_pos odd] at narrow few ⊢
      rw [if_pos (by simpa using odd)] at added
      cases added
      have brackets : ∀ c ∈ '[' :: (content ++ [']']), IsNarrow c := fun c member =>
        narrow c (List.mem_append_right _ member)
      rw [List.cons_append, addText_narrow brackets (by omega), slashes, List.append_assoc]
    · rw [if_neg odd, List.append_nil]
      rw [if_neg (by simpa using odd)] at added
      rw [addTag_chars added, slashes]

theorem addPieces_chars (narrow : ∀ c ∈ ps.flatMap Piece.visible, IsNarrow c)
    (few : (ps.flatMap Piece.visible).count ':' ≤ 1) (read : ps.foldlM Draft.addPiece d = .ok d') :
    d'.chars = d.chars ++ ps.flatMap Piece.visible := by
  induction ps generalizing d with
  | nil =>
    cases read
    exact (List.append_nil _).symm
  | cons p ps ih =>
    rw [List.flatMap_cons] at narrow few ⊢
    rw [List.count_append] at few
    obtain ⟨next, added, rest⟩ := Outcome.bind_eq_ok.mp read
    have own := addPiece_chars (fun c member => narrow c (List.mem_append_left _ member)) (by omega)
      added
    rw [ih (fun c member => narrow c (List.mem_append_right _ member)) (by omega) rest, own,
      List.append_assoc]

theorem chars_ofMarkup (narrow : ∀ c ∈ visible cs, IsNarrow c) (few : (visible cs).count ':' ≤ 1)
    {shown : StyledText} (read : StyledText.ofMarkup cs = .ok shown) :
    shown.chars = visible cs := by
  rw [StyledText.ofMarkup] at read
  split at read
  · obtain ⟨d, added, made⟩ := Outcome.bind_eq_ok.mp read
    cases made
    exact addPieces_chars narrow few added
  · rename_i opened
    have closed : '[' ∉ cs := by simpa using opened
    rw [visible_closed closed] at narrow few ⊢
    cases read
    rw [StyledText.plain, withPictures_eq_self few, withoutControls_narrow narrow]

end Chars

section Line

variable {width fuel : Nat} {cs : List Char} {inks : List Ink}

theorem dropWhile_begins (p : Ink → Bool) (inks : List Ink) :
    ∀ ink ∈ (inks.dropWhile p).head?, p ink = false := by
  intro ink first
  have begun := List.head?_dropWhile_not p inks
  rw [Option.mem_def] at first
  rwa [first] at begun

theorem wordsFrom_all (begins : ∀ ink ∈ inks.head?, ink.isBlank = false)
    (enough : inks.length ≤ fuel) : (wordsFrom fuel inks).flatMap Word.all = inks := by
  induction fuel generalizing inks with
  | zero =>
    rw [List.length_eq_zero_iff.mp (Nat.le_zero.mp enough)]
    rfl
  | succ fuel ih =>
    cases inks with
    | nil => rfl
    | cons ink rest =>
      have solid : (!ink.isBlank) = true := by rw [begins ink rfl, Bool.not_false]
      have word : (ink :: rest).takeWhile (fun ink => !ink.isBlank)
          = ink :: rest.takeWhile fun ink => !ink.isBlank := List.takeWhile_cons_of_pos solid
      have behind : (ink :: rest).dropWhile (fun ink => !ink.isBlank)
          = rest.dropWhile fun ink => !ink.isBlank := List.dropWhile_cons_of_pos solid
      have later : ((rest.dropWhile fun ink => !ink.isBlank).dropWhile Ink.isBlank).length ≤ fuel :=
        calc _ ≤ (rest.dropWhile fun ink => !ink.isBlank).length := List.length_dropWhile_le _ _
          _ ≤ rest.length := List.length_dropWhile_le _ _
          _ ≤ fuel := Nat.le_of_succ_le_succ enough
      rw [wordsFrom, drop_takeWhile, drop_takeWhile, word, behind, List.isEmpty_cons,
        if_neg (by decide), List.flatMap_cons, ih (dropWhile_begins _ _) later, Word.all,
        List.append_assoc, List.takeWhile_append_dropWhile, List.cons_append,
        List.takeWhile_append_dropWhile]

theorem wordsOf_all (inks : List Ink) :
    wordsOf inks = [] ∨ (wordsOf inks).flatMap Word.all = inks := by
  have all := wordsFrom_all (dropWhile_begins Ink.isBlank inks) (List.dropWhile_suffix _).length_le
  rw [wordsOf, drop_takeWhile]
  split
  · exact .inl rfl
  · rename_i w rest made
    right
    rw [made, List.flatMap_cons] at all
    rw [List.flatMap_cons, Word.all, List.append_assoc, List.append_assoc,
      ← List.append_assoc w.text, ← Word.all, all, List.takeWhile_append_dropWhile]

theorem inkChars_narrow (narrow : ∀ ink ∈ inks, IsNarrow ink.char) :
    ∀ c ∈ inkChars inks, IsNarrow c := by
  intro c member
  obtain ⟨ink, among, rfl⟩ := List.mem_map.mp member
  exact narrow ink among

theorem addWords_narrow {words : List Word} {l : Lines}
    (narrow : ∀ ink ∈ words.flatMap Word.all, IsNarrow ink.char) (used : l.used = l.current.length)
    (fits : l.current.length + (words.flatMap Word.all).length ≤ width) :
    ∃ n, words.foldl (Lines.addWord width .fold) l
      = ⟨l.done, l.current ++ words.flatMap Word.all, n⟩ := by
  induction words generalizing l with
  | nil => exact ⟨l.used, by simp⟩
  | cons word words ih =>
    rw [List.flatMap_cons] at narrow fits ⊢
    rw [List.length_append] at fits
    have own : ∀ ink ∈ word.all, IsNarrow ink.char := fun ink member =>
      narrow ink (List.mem_append_left _ member)
    have ownText : ∀ ink ∈ word.text, IsNarrow ink.char := fun ink member =>
      own ink (List.mem_append_left _ member)
    have size : cells (inkChars word.text) ≤ word.all.length := by
      rw [cells_narrow (inkChars_narrow ownText), inkChars, List.length_map, Word.all,
        List.length_append]
      omega
    have sizeOfAll : cells (inkChars word.all) = word.all.length := by
      rw [cells_narrow (inkChars_narrow own), inkChars, List.length_map]
    have step : Lines.addWord width .fold l word
        = l.add word.all (l.used + cells (inkChars word.all)) := by
      rw [Lines.addWord]
      exact if_pos (by omega)
    have more : (l.add word.all (l.used + cells (inkChars word.all))).current
        = l.current ++ word.all := rfl
    obtain ⟨n, rest⟩ := ih (l := l.add word.all (l.used + cells (inkChars word.all)))
      (fun ink member => narrow ink (List.mem_append_right _ member))
      (by rw [more, List.length_append, ← used, ← sizeOfAll]; rfl)
      (by rw [more, List.length_append]; omega)
    refine ⟨n, ?_⟩
    rw [List.foldl_cons, step, rest, more, List.append_assoc]
    rfl

theorem inkLines_plain (one : '\n' ∉ cs) : inkLines (plainInks cs) = [plainInks cs] := by
  induction cs with
  | nil => rfl
  | cons c cs ih =>
    rw [List.mem_cons, not_or] at one
    have other : c ≠ '\n' := Ne.symm one.1
    rw [plainInks, List.map_cons, inkLines, if_neg other]
    rw [← plainInks, ih one.2]

theorem wrapLine_narrow (narrow : ∀ ink ∈ inks, IsNarrow ink.char) (fits : inks.length ≤ width) :
    wrapLine ⟨width, .fold, .none⟩ inks = [inks] := by
  have size : cells (inkChars inks) ≤ width := by
    rw [cells_narrow (inkChars_narrow narrow), inkChars, List.length_map]
    exact fits
  have tabless : ¬inks.any (fun ink => ink.char == '\t') = true := by
    intro tab
    obtain ⟨ink, member, same⟩ := List.any_eq_true.mp tab
    exact (narrow ink member).ne_of_toNat (.inl (by decide)) (by decide) (beq_iff_eq.mp same)
  have kept : align ⟨width, .fold, .none⟩ (cutLine ⟨width, .fold, .none⟩ (trimEnd width inks))
      = inks := by
    rw [trimEnd, Nat.sub_eq_zero_of_le fits, Nat.min_zero, Nat.sub_zero, List.take_length, cutLine,
      if_pos size, align]
  rw [wrapLine, if_neg tabless]
  dsimp only
  split
  · rw [List.map_singleton, kept]
  · rename_i words other
    have all : (wordsOf inks).flatMap Word.all = inks := (wordsOf_all inks).resolve_left other
    rw [← all] at narrow fits
    obtain ⟨n, set⟩ :=
      addWords_narrow (l := ⟨[], [], 0⟩) narrow rfl ((Nat.zero_add _).trans_le fits)
    rw [set, all]
    exact congrArg (fun line => [line]) kept

theorem printed_narrow (narrow : ∀ c ∈ cs, IsNarrow c) (wide : 0 < width)
    (fits : cells cs ≤ width) : printed width cs = String.ofList (cs ++ ['\n']) := by
  have one : '\n' ∉ cs := fun member =>
    (narrow _ member).ne_of_toNat (.inl (by decide)) (by decide) rfl
  have chars : inkChars (plainInks cs) = cs := by
    simp [inkChars, plainInks, Function.comp_def]
  have inks : ∀ ink ∈ plainInks cs, IsNarrow ink.char := by
    intro ink member
    obtain ⟨c, among, rfl⟩ := List.mem_map.mp member
    exact narrow c among
  have size : (plainInks cs).length ≤ width := by
    rw [plainInks, List.length_map, ← cells_narrow narrow]
    exact fits
  have wrapped : wrap ⟨width, .fold, .none⟩ cs = [cs] := by
    rw [wrap, withoutControls_narrow narrow, wrapInks, inkLines_plain one, List.flatMap_singleton,
      wrapLine_narrow inks size, List.map_singleton, chars]
  rw [printed, if_neg (by omega), wrapped, List.flatMap_singleton]

end Line

end ServiceCli.Console
