import ServiceCli.Parameters.Required

set_option autoImplicit false
set_option relaxedAutoImplicit false

namespace ServiceCli.Parameters

open ServiceCli.Path

/-- A plain member name is not empty and holds none of the marks that separate steps. -/
def IsPlain (name : String) : Prop := name ≠ "" ∧ ∀ c ∈ name.toList, isMark c = false

theorem isPlain_of_all {name : String} (filled : name ≠ "")
    (all : name.toList.all (fun c => !isMark c) = true) : IsPlain name := by
  refine ⟨filled, fun c member => ?_⟩
  simpa using List.all_eq_true.mp all c member

/-- A plain path enters members by plain names only. -/
def IsPlainPath (p : FieldPath) : Prop := ∀ name, Segment.member name ∈ p → IsPlain name

theorem IsPlainPath.tail {s : Segment} {p : FieldPath} (plain : IsPlainPath (s :: p)) :
    IsPlainPath p := by
  intro name member
  exact plain name (List.mem_cons_of_mem s member)

theorem IsPlainPath.cons {s : Segment} {p : FieldPath}
    (first : ∀ name, s = .member name → IsPlain name) (rest : IsPlainPath p) :
    IsPlainPath (s :: p) := by
  intro name member
  rcases List.mem_cons.mp member with equal | member
  · exact first name equal.symm
  · exact rest name member

/-- The characters that a step adds to a text that is not empty. -/
def tailText : Segment → List Char
  | .member name => '.' :: name.toList
  | .element => ['[', ']']
  | .value => ['\x7b', 'v', 'a', 'l', 'u', 'e', '\x7d']

private theorem plain_ne_elementText {name : String} (plain : IsPlain name) :
    name ≠ elementText := by
  rintro rfl
  have mark := plain.2 '[' (by decide)
  exact absurd mark (by decide)

private theorem plain_ne_valueText {name : String} (plain : IsPlain name) : name ≠ valueText := by
  rintro rfl
  have mark := plain.2 '\x7b' (by decide)
  exact absurd mark (by decide)

private theorem appendText_plain {name : String} (plain : IsPlain name) (t : String) :
    FieldPath.appendText t name = if t.isEmpty then name else t ++ "." ++ name := by
  simp [FieldPath.appendText, plain_ne_elementText plain, plain_ne_valueText plain]

private theorem appendText_toList {s : Segment} (plain : ∀ name, s = .member name → IsPlain name)
    {t : String} (started : t ≠ "") :
    (FieldPath.appendText t s.text).toList = t.toList ++ tailText s := by
  cases s with
  | member name =>
    have filled : t.isEmpty = false := by simpa [String.isEmpty_iff] using started
    simp [Segment.text, appendText_plain (plain name rfl), filled, tailText]
  | element => simp [Segment.text, FieldPath.appendText, tailText, elementText]
  | value =>
    simp only [Segment.text, FieldPath.appendText, decide_true, Bool.or_true, if_true,
      String.toList_append]
    rfl

private theorem appendText_ne_empty {s : Segment} (plain : ∀ name, s = .member name → IsPlain name)
    (t : String) : FieldPath.appendText t s.text ≠ "" := by
  by_cases started : t = ""
  · subst started
    cases s with
    | member name =>
      simpa [Segment.text, appendText_plain (plain name rfl)] using (plain name rfl).1
    | element => decide
    | value => decide
  · intro empty
    have chars := appendText_toList plain started
    rw [empty] at chars
    cases s <;> simp [tailText] at chars

private theorem foldl_appendText {p : FieldPath} (plain : IsPlainPath p) {t : String}
    (started : t ≠ "") :
    (p.foldl (fun t s => FieldPath.appendText t s.text) t).toList
      = t.toList ++ p.flatMap tailText := by
  induction p generalizing t with
  | nil => simp
  | cons s p ih =>
    have first : ∀ name, s = .member name → IsPlain name := by
      rintro name rfl
      exact plain name List.mem_cons_self
    rw [List.foldl_cons, ih plain.tail (appendText_ne_empty first t),
      appendText_toList first started, List.flatMap_cons, List.append_assoc]

private theorem stepsFrom_chars {cs : List Char} (unmarked : ∀ c ∈ cs, isMark c = false)
    (name rest : List Char) : stepsFrom name (cs ++ rest) = stepsFrom (name ++ cs) rest := by
  induction cs generalizing name with
  | nil => simp
  | cons c cs ih =>
    have clear : isMark c = false := unmarked c List.mem_cons_self
    have step : stepsFrom name (c :: (cs ++ rest)) = stepsFrom (name ++ [c]) (cs ++ rest) := by
      rw [stepsFrom.eq_4]
      · simp [clear]
      · rintro _ rfl _
        exact absurd clear (by decide)
      · rintro _ rfl _
        exact absurd clear (by decide)
    rw [List.cons_append, step, ih (fun d member => unmarked d (List.mem_cons_of_mem c member)),
      List.append_assoc, List.singleton_append]

private theorem stepsFrom_point (name rest : List Char) :
    stepsFrom name ('.' :: rest) = memberStep name ++ stepsFrom [] rest := by
  rw [stepsFrom.eq_4]
  · simp [isMark]
  · intro _ equal _
    exact absurd equal (by decide)
  · intro _ equal _
    exact absurd equal (by decide)

private theorem memberStep_plain {name : String} (plain : IsPlain name) :
    memberStep name.toList = [.member name] := by
  have filled : name.toList ≠ [] := by simpa using plain.1
  simp [memberStep, filled]

private theorem stepsFrom_tailText {p : FieldPath} (plain : IsPlainPath p) (name : List Char) :
    stepsFrom name (p.flatMap tailText) = memberStep name ++ p := by
  induction p generalizing name with
  | nil => simp [stepsFrom]
  | cons s p ih =>
    cases s with
    | member n =>
      have first : IsPlain n := plain n List.mem_cons_self
      rw [List.flatMap_cons, tailText, List.cons_append, stepsFrom_point,
        stepsFrom_chars first.2, List.nil_append, ih plain.tail, memberStep_plain first,
        List.singleton_append]
    | element =>
      rw [List.flatMap_cons, tailText, List.cons_append, List.cons_append, List.nil_append,
        stepsFrom.eq_2, ih plain.tail]
      rfl
    | value =>
      rw [List.flatMap_cons, tailText]
      simp only [List.cons_append, List.nil_append]
      rw [stepsFrom.eq_3, ih plain.tail]
      rfl

/-- The path that the text of a plain path denotes is that path. -/
theorem parsePath_text {p : FieldPath} (plain : IsPlainPath p) : parsePath p.text = p := by
  cases p with
  | nil => rfl
  | cons s p =>
    have first : ∀ name, s = .member name → IsPlain name := by
      rintro name rfl
      exact plain name List.mem_cons_self
    have chars : (FieldPath.text (s :: p)).toList
        = (FieldPath.appendText "" s.text).toList ++ p.flatMap tailText := by
      rw [FieldPath.text, List.foldl_cons]
      exact foldl_appendText plain.tail (appendText_ne_empty first "")
    rw [parsePath, chars]
    cases s with
    | member name =>
      have named : FieldPath.appendText "" (Segment.member name).text = name := by
        simp [Segment.text, appendText_plain (first name rfl)]
      rw [named, stepsFrom_chars (first name rfl).2, List.nil_append,
        stepsFrom_tailText plain.tail, memberStep_plain (first name rfl), List.singleton_append]
    | element =>
      have steps := stepsFrom_tailText plain []
      exact steps
    | value =>
      have steps := stepsFrom_tailText plain []
      exact steps

theorem parsePath_member {name : String} (plain : IsPlain name) :
    parsePath name = [.member name] := by
  have steps : IsPlainPath [.member name] := by
    intro other among
    rw [Segment.member.inj (List.mem_singleton.mp among)]
    exact plain
  have text : FieldPath.text [.member name] = name := by
    simp [FieldPath.text, FieldPath.appendText, Segment.text]
  rw [← parsePath_text steps, text]

end ServiceCli.Parameters
