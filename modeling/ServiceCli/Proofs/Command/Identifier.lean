import ServiceCli.Command.Flag
import ServiceCli.Proofs.Script.Token
import ServiceCli.Proofs.Text.Character
import ServiceCli.Proofs.Unused

set_option autoImplicit false
set_option relaxedAutoImplicit false

namespace ServiceCli.Command

def underscored (name : String) (count : Nat) : String :=
  name ++ String.ofList (List.replicate count '_')

theorem underscored_zero (name : String) : underscored name 0 = name := by
  simp [underscored]

theorem underscored_append (name : String) (count : Nat) :
    underscored (name ++ "_") count = underscored name (count + 1) := by
  have single : "_".toList = ['_'] := rfl
  apply String.toList_injective
  simp only [underscored, String.toList_append, String.toList_ofList, single, List.replicate_succ,
    List.append_assoc, List.singleton_append]

theorem underscored_injective (name : String) : Function.Injective (underscored name) := by
  intro i j same
  have lengths := congrArg (fun s => s.toList.length) same
  simp only [underscored, String.toList_append, String.toList_ofList, List.length_append,
    List.length_replicate] at lengths
  omega

/-- The search for a free name, step by step: a name that is used gets one underscore more. -/
inductive Renames (used : List String) : String → String → Prop
  | keep {name : String} : name ∉ used → Renames used name name
  | extend {name result : String} :
    name ∈ used → Renames used (name ++ "_") result → Renames used name result

section Renames

variable {used also : List String} {name result : String}

theorem Renames.not_mem (renames : Renames used name result) : result ∉ used := by
  induction renames with
  | keep unused => exact unused
  | extend _ _ ih => exact ih

theorem Renames.eq_underscored (renames : Renames used name result) :
    ∃ count, result = underscored name count := by
  induction renames with
  | keep _ => exact ⟨0, (underscored_zero _).symm⟩
  | extend _ _ ih =>
    obtain ⟨count, rfl⟩ := ih
    exact ⟨count + 1, underscored_append _ count⟩

theorem Renames.congr (renames : Renames used name result) (same : ∀ s, s ∈ used ↔ s ∈ also) :
    Renames also name result := by
  induction renames with
  | keep unused => exact .keep fun taken => unused ((same _).mpr taken)
  | extend taken _ ih => exact .extend ((same _).mp taken) ih

end Renames

theorem renames_freeNameWithin {used : List String} {k fuel : Nat} (enough : k ≤ fuel)
    (name : String) (unused : underscored name k ∉ used) :
    Renames used name (freeNameWithin used fuel name) := by
  induction fuel generalizing k name with
  | zero =>
    obtain rfl : k = 0 := by omega
    rw [underscored_zero] at unused
    exact .keep unused
  | succ fuel ih =>
    rw [freeNameWithin]
    split
    · rename_i contained
      have taken : name ∈ used := List.contains_iff_mem.mp contained
      cases k with
      | zero =>
        rw [underscored_zero] at unused
        exact absurd taken unused
      | succ k =>
        rw [← underscored_append] at unused
        exact .extend taken (ih (by omega) (name ++ "_") unused)
    · rename_i untaken
      exact .keep (by rwa [← List.contains_iff_mem])

/-- The search for a free name ends, whatever names are used. -/
theorem renames_freeName (used : List String) (name : String) :
    Renames used name (freeName used name) := by
  obtain ⟨k, few, unused⟩ := exists_unused (underscored_injective name) used 0
  rw [Nat.zero_add] at unused
  exact renames_freeNameWithin few name unused

theorem freeName_not_mem (used : List String) (name : String) : freeName used name ∉ used :=
  (renames_freeName used name).not_mem

/-! ### Identifiers -/

open ServiceCli.Script ServiceCli.Shape ServiceCli.Text

/-- A text of letters, digits and underscores. -/
def IsWordText (cs : List Char) : Prop := ∀ c ∈ cs, isWordChar c = true

theorem identifierChar_isWordChar (c : Char) : isWordChar (identifierChar c) = true := by
  rw [identifierChar]
  split
  · rename_i kept
    have letters : isWordChar c = (c.isUpper || isSmall c || isAsciiDigit c || c == '_') := rfl
    have capitals : c.isUpper = isCapital c := Bool.decide_and _ _
    rw [letters, capitals, Bool.or_comm (isCapital c), kept, Bool.true_or]
  · decide

theorem squeeze_subset (cs : List Char) : squeeze cs ⊆ cs := by
  fun_induction squeeze cs with
  | case1 rest ih => exact fun c member => List.mem_cons_of_mem _ (ih member)
  | case2 c rest _ ih => exact List.cons_subset_cons c ih
  | case3 => exact fun _ member => member

theorem trimUnderscores_subset (cs : List Char) : trimUnderscores cs ⊆ cs := by
  intro c member
  rw [trimUnderscores, List.mem_reverse] at member
  have front := (List.dropWhile_sublist _).subset member
  exact (List.dropWhile_sublist _).subset (List.mem_reverse.mp front)

theorem snakeCase_isWordText (cs : List Char) : IsWordText (snakeCase cs) := by
  intro c member
  obtain ⟨d, -, rfl⟩ := List.mem_map.mp (squeeze_subset _ (trimUnderscores_subset _ member))
  exact identifierChar_isWordChar d

theorem IsWordText.append {first second : List Char} (word : IsWordText first)
    (also : IsWordText second) : IsWordText (first ++ second) :=
  List.forall_mem_append.mpr ⟨word, also⟩

private theorem underscore_isWordText : IsWordText ['_'] :=
  List.forall_mem_singleton.mpr (by decide)

private theorem led_isWordText (body : List Char) : IsWordText body →
    IsWordText (match body with
      | c :: _ => if isAsciiDigit c then '_' :: body else body
      | [] => body) := by
  intro word
  cases body with
  | nil => exact word
  | cons c cs =>
    dsimp only
    split
    · exact underscore_isWordText.append word
    · exact word

theorem identifier_isWordText (name : String) : IsWordText (identifier name).toList := by
  rw [identifier, String.toList_ofList, identifierList]
  have snake := snakeCase_isWordText name.toList
  generalize snakeCase name.toList = words at snake ⊢
  have named : IsWordText (if words.isEmpty then "param".toList else words) := by
    split
    · exact List.all_eq_true.mp (by decide)
    · exact snake
  have led := led_isWordText _ named
  have kept {b : Bool} {body : List Char} (word : IsWordText body) :
      IsWordText (if b then body ++ ['_'] else body) := by
    split
    · exact word.append underscore_isWordText
    · exact word
  exact kept led

theorem freeName_isWordText {name : String} (word : IsWordText name.toList) (used : List String) :
    IsWordText (freeName used name).toList := by
  have within : ∀ (fuel : Nat) (name : String), IsWordText name.toList →
      IsWordText (freeNameWithin used fuel name).toList := by
    intro fuel
    induction fuel with
    | zero => exact fun name word => word
    | succ fuel ih =>
      intro name word
      rw [freeNameWithin]
      split
      · refine ih (name ++ "_") ?_
        rw [String.toList_append]
        exact word.append underscore_isWordText
      · exact word
  exact within used.length name word

theorem parameter_isWordText {fields : List Field} {needsToken : Bool} {flag : Flag}
    (member : flag ∈ flagsOf fields needsToken) : IsWordText flag.parameter.toList := by
  have made : ∀ (fields : List Field) (used : List String), ∀ flag ∈ flagsFrom used fields,
      IsWordText flag.parameter.toList := by
    intro fields
    induction fields with
    | nil => exact fun used flag member => absurd member (by simp [flagsFrom])
    | cons f fields ih =>
      intro used flag member
      rw [flagsFrom] at member
      rcases List.mem_cons.mp member with rfl | later
      · exact freeName_isWordText (identifier_isWordText f.name) used
      · exact ih _ flag later
  rw [flagsOf, List.mem_append] at member
  rcases member with ofMember | ofToken
  · exact made fields reservedNames flag ofMember
  · cases needsToken with
    | false => exact absurd ofToken (by simp)
    | true =>
      rw [if_pos rfl, List.mem_singleton] at ofToken
      rw [ofToken]
      exact List.all_eq_true.mp (by decide)

/-- A small letter, a digit or an underscore. -/
def isLowerChar (c : Char) : Bool := isSmall c || isAsciiDigit c || c == '_'

/-- A name in small letters: a small letter or an underscore, and after it small letters, digits and
underscores. -/
def isLowerName : List Char → Bool
  | [] => false
  | c :: cs => (isSmall c || c == '_') && cs.all isLowerChar

/-- Whether a name begins with a small letter, or with a digit behind an underscore. -/
def beginsName : List Char → Bool
  | c :: cs => isSmall c || (c == '_' && (cs.take 1).any isAsciiDigit)
  | [] => false

section Form

variable {cs ds : List Char}

theorem isLowerName_of_beginsName (begins : beginsName cs = true)
    (lower : ∀ c ∈ cs, isLowerChar c = true) : isLowerName cs = true := by
  cases cs with
  | nil => exact nomatch begins
  | cons c cs =>
    have rest : cs.all isLowerChar = true :=
      List.all_eq_true.mpr fun d member => lower d (List.mem_cons_of_mem c member)
    rw [isLowerName, rest, Bool.and_true]
    rw [beginsName, Bool.or_eq_true, Bool.and_eq_true] at begins
    rw [Bool.or_eq_true]
    exact begins.imp_right And.left

theorem beginsName_append (begins : beginsName cs = true) (ds : List Char) :
    beginsName (cs ++ ds) = true := by
  match cs with
  | [c] =>
    have small : isSmall c = true := by simpa [beginsName] using begins
    simp [beginsName, small]
  | c :: d :: cs => exact begins

theorem identifierChar_isLowerChar {c : Char} (small : isCapital c = false) :
    isLowerChar (identifierChar c) = true := by
  rw [identifierChar, small, Bool.or_false]
  split
  · rename_i kept
    rw [isLowerChar, kept, Bool.true_or]
  · decide

theorem snakeCase_isLowerChar (cs : List Char) : ∀ c ∈ snakeCase cs, isLowerChar c = true := by
  intro c member
  obtain ⟨d, lowered, rfl⟩ := List.mem_map.mp (squeeze_subset _ (trimUnderscores_subset _ member))
  exact identifierChar_isLowerChar (lowerFrom_not_isCapital _ [] d lowered)

theorem trimUnderscores_first (cs : List Char) :
    ∀ c ∈ (trimUnderscores cs).head?, c ≠ '_' := by
  intro c first
  have front : trimUnderscores cs <+: cs.dropWhile (· == '_') := by
    rw [trimUnderscores, ← List.reverse_suffix, List.reverse_reverse]
    exact List.dropWhile_suffix _
  obtain ⟨rest, split⟩ := front
  obtain ⟨tail, spelt⟩ := List.head?_eq_some_iff.mp first
  have kept : (cs.dropWhile (· == '_')).head? = some c := by
    rw [← split, spelt]
    rfl
  have other := List.head?_dropWhile_not (· == '_') cs
  rw [kept] at other
  simpa using other

end Form

private theorem named_first (cs : List Char) :
    ∃ c rest, (if (snakeCase cs).isEmpty then "param".toList else snakeCase cs) = c :: rest
      ∧ (isSmall c = true ∨ isAsciiDigit c = true) ∧ ∀ d ∈ c :: rest, isLowerChar d = true := by
  cases body : snakeCase cs with
  | nil => exact ⟨'p', _, rfl, .inl (by decide), List.forall_iff_forall_mem.mp (by decide)⟩
  | cons c rest =>
    have lower : ∀ d ∈ c :: rest, isLowerChar d = true := body ▸ snakeCase_isLowerChar cs
    have solid : c ≠ '_' := trimUnderscores_first _ c (by rw [← snakeCase, body]; rfl)
    have first := lower c List.mem_cons_self
    rw [isLowerChar, Bool.or_eq_true, Bool.or_eq_true, beq_iff_eq] at first
    exact ⟨c, rest, rfl, first.resolve_right solid, lower⟩

private theorem keyword_unmarked {word : String} (keyword : word ∈ keywords) :
    word.toList.getLast? ≠ some '_' := by
  have all : keywords.all (fun word => word.toList.getLast? != some '_') = true := by decide
  simpa using List.all_eq_true.mp all word keyword

theorem not_keyword_of_marked (cs : List Char) : String.ofList (cs ++ ['_']) ∉ keywords := by
  intro keyword
  refine keyword_unmarked keyword ?_
  rw [String.toList_ofList, List.getLast?_append_of_ne_nil _ (by simp)]
  rfl

theorem identifier_form (name : String) : beginsName (identifier name).toList = true
    ∧ (∀ c ∈ (identifier name).toList, isLowerChar c = true) ∧ identifier name ∉ keywords := by
  obtain ⟨c, rest, named, first, lower⟩ := named_first name.toList
  have mark : ∀ d ∈ ['_'], isLowerChar d = true := List.forall_mem_singleton.mpr rfl
  -- what stands before a keyword is told apart: a digit in front is put behind an underscore
  obtain ⟨body, led, begins, holds⟩ : ∃ body, (match c :: rest with
      | c :: _ => if isAsciiDigit c then '_' :: c :: rest else c :: rest
      | [] => c :: rest) = body ∧ beginsName body = true
        ∧ ∀ d ∈ body, isLowerChar d = true := by
    by_cases digit : isAsciiDigit c = true
    · refine ⟨'_' :: c :: rest, by simp [digit], by simp [beginsName, digit], ?_⟩
      exact List.forall_mem_cons.mpr ⟨by decide, lower⟩
    · refine ⟨c :: rest, by simp [digit], ?_, lower⟩
      simp [beginsName, first.resolve_right digit]
  have made : identifierList name.toList
      = if keywords.contains (String.ofList body) then body ++ ['_'] else body := by
    rw [identifierList]
    simp only [named, led]
  rw [identifier, String.toList_ofList, made]
  split
  · exact ⟨beginsName_append begins _, List.forall_mem_append.mpr ⟨holds, mark⟩,
      not_keyword_of_marked body⟩
  · rename_i other
    refine ⟨begins, holds, ?_⟩
    rwa [← List.contains_iff_mem]

theorem underscored_identifier_form (name : String) (count : Nat) :
    beginsName (underscored (identifier name) count).toList = true
      ∧ isLowerName (underscored (identifier name) count).toList = true
      ∧ underscored (identifier name) count ∉ keywords := by
  obtain ⟨begins, lower, free⟩ := identifier_form name
  have longer := beginsName_append begins (List.replicate count '_')
  have spelt : (underscored (identifier name) count).toList
      = (identifier name).toList ++ List.replicate count '_' := by
    rw [underscored, String.toList_append, String.toList_ofList]
  have holds : ∀ c ∈ (identifier name).toList ++ List.replicate count '_',
      isLowerChar c = true := by
    refine List.forall_mem_append.mpr ⟨lower, fun c member => ?_⟩
    rw [List.eq_of_mem_replicate member]
    decide
  rw [spelt]
  refine ⟨longer, isLowerName_of_beginsName longer holds, ?_⟩
  cases count with
  | zero => rwa [underscored_zero]
  | succ count =>
    rw [← String.ofList_toList (s := underscored _ _), spelt, List.replicate_succ',
      ← List.append_assoc]
    exact not_keyword_of_marked _

/-! ### Normal form

An identifier is words in small letters that single underscores join, with one underscore before a
digit in front or after a keyword. Its snake case is the words again, so its identifier is itself.
-/

theorem range_of_isCommandChar {c : Char} (named : isCommandChar c = true) :
    0x2d ≤ c.toNat ∧ c.toNat ≤ 0x7a ∧ ¬(0x41 ≤ c.toNat ∧ c.toNat ≤ 0x5a) := by
  simp only [isCommandChar, isSmall, isAsciiDigit, Bool.or_eq_true, Bool.and_eq_true,
    decide_eq_true_eq, beq_iff_eq] at named
  rcases named with ((⟨low, high⟩ | ⟨low, high⟩) | rfl) | rfl
  · have least : 0x61 ≤ c.toNat := low
    have greatest : c.toNat ≤ 0x7a := high
    omega
  · have least : 0x30 ≤ c.toNat := low
    have greatest : c.toNat ≤ 0x39 := high
    omega
  · decide
  · decide

theorem lowerChar_of_isCommandChar {c : Char} (named : isCommandChar c = true) :
    Text.lowerChar c = [c] := by
  obtain ⟨-, high, capital⟩ := range_of_isCommandChar named
  have kept : ¬(('A' ≤ c && c ≤ 'Z') = true) := by
    rw [Bool.and_eq_true, decide_eq_true_eq, decide_eq_true_eq]
    exact capital
  rw [Text.lowerChar, if_pos (by omega), if_neg kept]

theorem lowerFrom_eq_self {cs : List Char} (named : ∀ c ∈ cs, isCommandChar c = true)
    (before : List Char) : Text.lowerFrom before cs = cs := by
  induction cs generalizing before with
  | nil => rfl
  | cons c cs ih =>
    have own := named c List.mem_cons_self
    have latin : (c.toNat == 0x3a3) = false := by
      have high := (range_of_isCommandChar own).2.1
      exact beq_eq_false_iff_ne.mpr (by omega)
    rw [Text.lowerFrom, latin, lowerChar_of_isCommandChar own,
      ih fun d member => named d (List.mem_cons_of_mem c member)]
    rfl

/-- No two underscores stand side by side. -/
def IsSqueezed (cs : List Char) : Prop := ¬['_', '_'] <:+: cs

instance (cs : List Char) : Decidable (IsSqueezed cs) := inferInstanceAs (Decidable (¬_))

section Squeezed

variable {cs ds : List Char} {c : Char}

theorem IsSqueezed.of_part (squeezed : IsSqueezed cs) (part : ds <:+: cs) : IsSqueezed ds :=
  fun pair => squeezed (pair.trans part)

theorem isSqueezed_cons : IsSqueezed (c :: cs) ↔
    (c = '_' → cs.head? ≠ some '_') ∧ IsSqueezed cs := by
  rw [IsSqueezed, List.infix_cons_iff, not_or, List.cons_prefix_cons, not_and]
  refine and_congr_left' (imp_congr eq_comm (not_congr ?_))
  cases cs with
  | nil => simp
  | cons d cs => simp [eq_comm]

theorem isSqueezed_append_mark : IsSqueezed (cs ++ ['_']) ↔
    cs.getLast? ≠ some '_' ∧ IsSqueezed cs := by
  have turned (ds : List Char) : IsSqueezed ds.reverse ↔ IsSqueezed ds :=
    not_congr (show ['_', '_'].reverse <:+: ds.reverse ↔ ['_', '_'] <:+: ds from List.reverse_infix)
  rw [← turned, List.reverse_append, List.reverse_singleton, List.singleton_append,
    isSqueezed_cons, turned, List.head?_reverse]
  exact and_congr_left' ⟨fun apart => apart rfl, fun apart _ => apart⟩

theorem head?_squeeze (cs : List Char) : (squeeze cs).head? = cs.head? := by
  fun_induction squeeze cs with
  | case1 rest ih => exact ih
  | case2 c rest _ _ => rfl
  | case3 => rfl

theorem squeeze_isSqueezed (cs : List Char) : IsSqueezed (squeeze cs) := by
  fun_induction squeeze cs with
  | case1 rest ih => exact ih
  | case2 c rest other ih =>
    refine isSqueezed_cons.mpr ⟨fun mark first => ?_, ih⟩
    rw [head?_squeeze, List.head?_eq_some_iff] at first
    obtain ⟨tail, rfl⟩ := first
    exact other tail mark rfl
  | case3 => simp [IsSqueezed]

theorem squeeze_eq_self (squeezed : IsSqueezed cs) : squeeze cs = cs := by
  fun_induction squeeze cs with
  | case1 rest ih => exact absurd rfl ((isSqueezed_cons.mp squeezed).1 rfl)
  | case2 c rest _ ih => rw [ih (isSqueezed_cons.mp squeezed).2]
  | case3 => rfl

end Squeezed

section Trimmed

variable {cs : List Char}

theorem trimUnderscores_within (cs : List Char) : trimUnderscores cs <:+: cs := by
  have front : trimUnderscores cs <+: cs.dropWhile (· == '_') := by
    rw [trimUnderscores, ← List.reverse_suffix, List.reverse_reverse]
    exact List.dropWhile_suffix _
  exact front.isInfix.trans (List.dropWhile_suffix _).isInfix

theorem trimUnderscores_last (cs : List Char) : (trimUnderscores cs).getLast? ≠ some '_' := by
  intro last
  rw [trimUnderscores, List.getLast?_reverse] at last
  have other := List.head?_dropWhile_not (· == '_') (cs.dropWhile (· == '_')).reverse
  rw [last] at other
  cases other

theorem dropWhile_eq_self (first : cs.head? ≠ some '_') : cs.dropWhile (· == '_') = cs := by
  cases cs with
  | nil => rfl
  | cons c cs => exact List.dropWhile_cons_of_neg (by simpa using first)

theorem trimUnderscores_eq_self (first : cs.head? ≠ some '_') (last : cs.getLast? ≠ some '_') :
    trimUnderscores cs = cs := by
  rw [trimUnderscores, dropWhile_eq_self first, dropWhile_eq_self (by rwa [List.head?_reverse]),
    List.reverse_reverse]

theorem trimUnderscores_append_mark (first : (cs ++ ['_']).head? ≠ some '_') :
    trimUnderscores (cs ++ ['_']) = trimUnderscores cs := by
  have begun : cs.head? ≠ some '_' := by
    cases cs with
    | nil => simp
    | cons c cs => simpa using first
  rw [trimUnderscores, dropWhile_eq_self first, trimUnderscores, dropWhile_eq_self begun,
    List.reverse_append]
  rfl

end Trimmed

/-- Words in small letters that single underscores join. -/
structure IsJoined (cs : List Char) : Prop where
  lower : ∀ c ∈ cs, isLowerChar c = true
  squeezed : IsSqueezed cs
  first : cs.head? ≠ some '_'
  last : cs.getLast? ≠ some '_'

theorem snakeCase_isJoined (cs : List Char) : IsJoined (snakeCase cs) where
  lower := snakeCase_isLowerChar cs
  squeezed := (squeeze_isSqueezed _).of_part (trimUnderscores_within _)
  first mark := trimUnderscores_first _ '_' mark rfl
  last := trimUnderscores_last _

section Normal

variable {cs words : List Char} {c : Char}

theorem isCommandChar_of_isLowerChar (lower : isLowerChar c = true) : isCommandChar c = true := by
  rw [isCommandChar, ← isLowerChar, lower, Bool.true_or]

theorem not_isCapital_of_isLowerChar (lower : isLowerChar c = true) : isCapital c = false := by
  rw [Bool.eq_false_iff]
  intro capital
  exact (range_of_isCommandChar (isCommandChar_of_isLowerChar lower)).2.2 (isCapital_iff.mp capital)

theorem splitHumps_eq_self (lower : ∀ c ∈ cs, isLowerChar c = true) : splitHumps cs = cs := by
  fun_induction splitHumps cs with
  | case1 a b rest hump ih =>
    have plain := not_isCapital_of_isLowerChar (lower b (by simp))
    rw [plain, Bool.and_false] at hump
    cases hump
  | case2 a b rest _ ih => rw [ih fun c member => lower c (List.mem_cons_of_mem a member)]
  | case3 => rfl

theorem splitAcronyms_eq_self (lower : ∀ c ∈ cs, isLowerChar c = true) :
    splitAcronyms cs = cs := by
  fun_induction splitAcronyms cs with
  | case1 a b c rest acronym ih =>
    have plain := not_isCapital_of_isLowerChar (lower a (by simp))
    rw [plain] at acronym
    cases acronym
  | case2 a b c rest _ ih => rw [ih fun d member => lower d (List.mem_cons_of_mem a member)]
  | case3 => rfl

theorem identifierChar_of_isLowerChar (lower : isLowerChar c = true) : identifierChar c = c := by
  rw [isLowerChar, Bool.or_eq_true, Bool.or_eq_true, beq_iff_eq] at lower
  obtain (small | digit) | rfl := lower
  · simp [identifierChar, small]
  · simp [identifierChar, digit]
  · rfl

/-- Of small letters, digits and single underscores nothing changes but the two ends. -/
theorem snakeCase_of_isSqueezed (lower : ∀ c ∈ cs, isLowerChar c = true)
    (squeezed : IsSqueezed cs) : snakeCase cs = trimUnderscores cs := by
  have kept : cs.map identifierChar = cs :=
    List.map_congr_left (fun c member => identifierChar_of_isLowerChar (lower c member)) |>.trans
      (List.map_id' cs)
  rw [snakeCase, splitHumps_eq_self lower, splitAcronyms_eq_self lower,
    lowerFrom_eq_self fun c member => isCommandChar_of_isLowerChar (lower c member), kept,
    squeeze_eq_self squeezed]

def namedWords (cs : List Char) : List Char :=
  if (snakeCase cs).isEmpty then "param".toList else snakeCase cs

/-- Words with an underscore before a digit in front, or after a keyword. -/
def dressed (words : List Char) : List Char :=
  let body := match words with
    | c :: _ => if isAsciiDigit c then '_' :: words else words
    | [] => words
  if keywords.contains (String.ofList body) then body ++ ['_'] else body

theorem identifierList_eq (cs : List Char) : identifierList cs = dressed (namedWords cs) := rfl

theorem namedWords_isJoined (cs : List Char) : IsJoined (namedWords cs) ∧ namedWords cs ≠ [] := by
  rw [namedWords]
  split
  · exact ⟨⟨List.forall_iff_forall_mem.mp (by decide), by decide, by decide, by decide⟩, by decide⟩
  · rename_i filled
    exact ⟨snakeCase_isJoined cs, by simpa using filled⟩

theorem dressed_cases (words : List Char) : dressed words = words ∨
    dressed words = '_' :: words ∨ dressed words = words ++ ['_'] := by
  have marked : keywords.all (fun word => word.toList.head? != some '_') = true := by decide
  have free (cs : List Char) : keywords.contains (String.ofList ('_' :: cs)) = false := by
    rw [Bool.eq_false_iff]
    intro keyword
    have other := List.all_eq_true.mp marked _ (List.contains_iff_mem.mp keyword)
    simp at other
  cases words with
  | nil => exact .inl rfl
  | cons c rest =>
    rw [dressed]
    by_cases digit : isAsciiDigit c = true
    · right; left
      simp only [digit, if_true, free, Bool.false_eq_true, if_false]
    · by_cases keyword : keywords.contains (String.ofList (c :: rest)) = true
      · right; right
        simp only [digit, keyword, if_true, Bool.false_eq_true, if_false]
      · left
        simp only [digit, keyword, Bool.false_eq_true, if_false]

/-- Dressed words hold no pair of underscores, and their snake case is the words. -/
theorem dressed_normal (joined : IsJoined words) :
    IsSqueezed (dressed words) ∧ snakeCase (dressed words) = words := by
  obtain ⟨lower, squeezed, first, last⟩ := joined
  have trimmed : trimUnderscores words = words := trimUnderscores_eq_self first last
  obtain same | same | same := dressed_cases words <;> rw [same]
  · exact ⟨squeezed, (snakeCase_of_isSqueezed lower squeezed).trans trimmed⟩
  · have single : IsSqueezed ('_' :: words) := isSqueezed_cons.mpr ⟨fun _ => first, squeezed⟩
    have all : ∀ c ∈ '_' :: words, isLowerChar c = true :=
      List.forall_mem_cons.mpr ⟨by decide, lower⟩
    exact ⟨single, (snakeCase_of_isSqueezed all single).trans trimmed⟩
  · have single : IsSqueezed (words ++ ['_']) := isSqueezed_append_mark.mpr ⟨last, squeezed⟩
    have all : ∀ c ∈ words ++ ['_'], isLowerChar c = true :=
      List.forall_mem_append.mpr ⟨lower, List.forall_mem_singleton.mpr (by decide)⟩
    refine ⟨single, (snakeCase_of_isSqueezed all single).trans ?_⟩
    cases words with
    | nil => rfl
    | cons c rest => exact (trimUnderscores_append_mark first).trans trimmed

end Normal

/-- An identifier is spelt in small letters, digits and underscores, with no digit in front and no
two underscores side by side; it is no keyword, and it is its own identifier. -/
theorem identifier_normal (name : String) : isLowerName (identifier name).toList = true ∧
    identifier name ∉ keywords ∧ IsSqueezed (identifier name).toList ∧
      identifier (identifier name) = identifier name := by
  obtain ⟨begins, lower, free⟩ := identifier_form name
  obtain ⟨joined, filled⟩ := namedWords_isJoined name.toList
  obtain ⟨squeezed, again⟩ := dressed_normal joined
  have made : (identifier name).toList = dressed (namedWords name.toList) := by
    rw [identifier, String.toList_ofList, identifierList_eq]
  have words : namedWords (dressed (namedWords name.toList)) = namedWords name.toList := by
    rw [namedWords, again, if_neg (by simpa using filled)]
  refine ⟨isLowerName_of_beginsName begins lower, free, made ▸ squeezed, ?_⟩
  rw [identifier, made, identifierList_eq, words, ← made, String.ofList_toList]

end ServiceCli.Command
