import Mathlib.Data.List.Forall2
import ServiceCli.Path.AccessPath
import ServiceCli.Proofs.Data.JsonScalar
import ServiceCli.Proofs.Script.Grammar

/-!
Access paths, step by step. Each step adds one subscript and one segment of the label, and a step
into a list or a map also enters a loop; so the loop variables of a path are numbered in order, and
its next one is free. Main statement: this holds of every path that steps lead to, and the
expression of a path tells its steps.
-/

set_option autoImplicit false
set_option relaxedAutoImplicit false

namespace ServiceCli.Path.AccessPath

open ServiceCli.Script

/-! ### Loop variables -/

theorem indexVariable_toList (n : Nat) : (indexVariable n).toList = 'i' :: Nat.toDigits 10 n := by
  simp [indexVariable, toString, Nat.repr]

theorem keyVariable_toList (n : Nat) : (keyVariable n).toList = 'k' :: Nat.toDigits 10 n := by
  simp [keyVariable, toString, Nat.repr]

private theorem eq_of_digits {m n : Nat} (same : Nat.toDigits 10 m = Nat.toDigits 10 n) :
    m = n := by
  rw [← Nat.ofDigitChars_ten_toDigits (n := m), same, Nat.ofDigitChars_ten_toDigits]

theorem indexVariable_inj {m n : Nat} : indexVariable m = indexVariable n ↔ m = n := by
  refine ⟨fun same => ?_, congrArg indexVariable⟩
  have chars := congrArg String.toList same
  rw [indexVariable_toList, indexVariable_toList] at chars
  exact eq_of_digits (List.cons.inj chars).2

theorem keyVariable_inj {m n : Nat} : keyVariable m = keyVariable n ↔ m = n := by
  refine ⟨fun same => ?_, congrArg keyVariable⟩
  have chars := congrArg String.toList same
  rw [keyVariable_toList, keyVariable_toList] at chars
  exact eq_of_digits (List.cons.inj chars).2

theorem indexVariable_ne_keyVariable (m n : Nat) : indexVariable m ≠ keyVariable n := by
  intro same
  have chars := congrArg String.toList same
  rw [indexVariable_toList, keyVariable_toList] at chars
  exact absurd (List.cons.inj chars).1 (by decide)

theorem not_loopVariable {name : String} {c : Char} {cs : List Char} (spelt : name.toList = c :: cs)
    (other : c ≠ 'i' ∧ c ≠ 'k') (n : Nat) : name ≠ indexVariable n ∧ name ≠ keyVariable n := by
  constructor
  · rintro rfl
    rw [indexVariable_toList] at spelt
    exact other.1 (List.cons.inj spelt).1.symm
  · rintro rfl
    rw [keyVariable_toList] at spelt
    exact other.2 (List.cons.inj spelt).1.symm

private theorem digit_isWordChar {n : Nat} {c : Char} (digit : c ∈ Nat.toDigits 10 n) :
    isWordChar c = true := by
  have isDigit := Nat.isDigit_of_mem_toDigits (by decide) (by decide) digit
  simp [isWordChar, Char.isAlphanum, isDigit]

private theorem lettered_isWord {name : String} {c : Char} {n : Nat}
    (spelt : name.toList = c :: Nat.toDigits 10 n) (letter : isWordChar c = true) :
    isWord name = true := by
  have filled : name ≠ "" := by
    rintro rfl
    exact absurd spelt (by simp)
  rw [isWord, spelt, Bool.and_eq_true, List.all_eq_true]
  refine ⟨fun d member => ?_, by simpa using filled⟩
  rcases List.mem_cons.mp member with rfl | digit
  · exact letter
  · exact digit_isWordChar digit

private theorem lettered_isName {name : String} {c : Char} {n : Nat}
    (spelt : name.toList = c :: Nat.toDigits 10 n) (letter : c.isDigit = false) :
    isName name = true := by
  obtain ⟨d, digits, number⟩ : ∃ d digits, Nat.toDigits 10 n = d :: digits :=
    List.exists_cons_of_ne_nil Nat.toDigits_ne_nil
  have isDigit : d.isDigit = true :=
    Nat.isDigit_of_mem_toDigits (by decide) (by decide) (number ▸ List.mem_cons_self)
  have digitless :
      Command.keywords.all (fun word => word.toList.all fun e => !e.isDigit) = true := by
    decide
  have free : name ∉ Command.keywords := by
    intro keyword
    have chars := List.all_eq_true.mp (List.all_eq_true.mp digitless name keyword) d
      (by simp [spelt, number])
    rw [isDigit] at chars
    exact absurd chars (by decide)
  simp [isName, spelt, letter, free]

theorem indexVariable_isWord (n : Nat) : isWord (indexVariable n) = true :=
  lettered_isWord (indexVariable_toList n) (by decide)

theorem keyVariable_isWord (n : Nat) : isWord (keyVariable n) = true :=
  lettered_isWord (keyVariable_toList n) (by decide)

theorem indexVariable_isName (n : Nat) : isName (indexVariable n) = true :=
  lettered_isName (indexVariable_toList n) (by decide)

theorem keyVariable_isName (n : Nat) : isName (keyVariable n) = true :=
  lettered_isName (keyVariable_toList n) (by decide)

/-! ### Paths in step -/

def isLoop : Segment → Bool
  | .member _ => false
  | _ => true

/-- The subscripts of steps that are inside `n` loops. -/
def subscriptsFrom (n : Nat) : FieldPath → List String
  | [] => []
  | .member name :: rest => Json.quote name :: subscriptsFrom n rest
  | .element :: rest => indexVariable n :: subscriptsFrom (n + 1) rest
  | .value :: rest => keyVariable n :: subscriptsFrom (n + 1) rest

/-- The parts of a path are in step: its subscripts are those of its label, and it is as deep as the
label enters loops. -/
structure InStep (p : AccessPath) : Prop where
  subscripts : p.subscripts = subscriptsFrom 0 p.label
  depth : p.depth = p.label.countP isLoop

theorem subscriptsFrom_append (n : Nat) (p q : FieldPath) :
    subscriptsFrom n (p ++ q) = subscriptsFrom n p ++ subscriptsFrom (n + p.countP isLoop) q := by
  induction p generalizing n with
  | nil => rfl
  | cons s p ih =>
    cases s with
    | member name => simp [subscriptsFrom, ih, isLoop]
    | element =>
      rw [List.countP_cons_of_pos rfl]
      simp [subscriptsFrom, ih, Nat.add_assoc, Nat.add_comm 1]
    | value =>
      rw [List.countP_cons_of_pos rfl]
      simp [subscriptsFrom, ih, Nat.add_assoc, Nat.add_comm 1]

theorem inStep_ofRoot (root : String) : (ofRoot root).InStep := ⟨rfl, rfl⟩

section InStep

variable {p q : AccessPath}

theorem InStep.key (inStep : p.InStep) (name : String) : (p.key name).InStep where
  subscripts := by
    rw [AccessPath.key, FieldPath.member, subscriptsFrom_append, inStep.subscripts]
    rfl
  depth := by
    rw [AccessPath.key, FieldPath.member, List.countP_append, inStep.depth]
    rfl

theorem InStep.element (inStep : p.InStep) : p.element.InStep where
  subscripts := by
    rw [AccessPath.element, FieldPath.element, subscriptsFrom_append, inStep.subscripts,
      loopVariable, inStep.depth, Nat.zero_add]
    rfl
  depth := by
    rw [AccessPath.element, FieldPath.element, List.countP_append, inStep.depth]
    rfl

theorem InStep.mapValue (inStep : p.InStep) : p.mapValue.InStep where
  subscripts := by
    rw [AccessPath.mapValue, FieldPath.value, subscriptsFrom_append, inStep.subscripts,
      mapVariable, inStep.depth, Nat.zero_add]
    rfl
  depth := by
    rw [AccessPath.mapValue, FieldPath.value, List.countP_append, inStep.depth]
    rfl

theorem InStep.eq (inStep : p.InStep) (other : q.InStep) (root : p.root = q.root)
    (label : p.label = q.label) : p = q := by
  obtain ⟨pRoot, pSubscripts, pLabel, pDepth⟩ := p
  obtain ⟨qRoot, qSubscripts, qLabel, qDepth⟩ := q
  obtain ⟨subscripts, depth⟩ := inStep
  obtain ⟨subscripts', depth'⟩ := other
  cases root
  cases label
  rw [AccessPath.mk.injEq]
  exact ⟨rfl, subscripts.trans subscripts'.symm, rfl, depth.trans depth'.symm⟩

end InStep

/-! ### Steps -/

def step (p : AccessPath) : Segment → AccessPath
  | .member name => p.key name
  | .element => p.element
  | .value => p.mapValue

def walk (root : String) (steps : List Segment) : AccessPath := steps.foldl step (ofRoot root)

/-- What holds of a variable and is kept by every step holds of the paths that steps lead to. -/
theorem walk_induction {P : AccessPath → Prop} {root : String} (start : P (ofRoot root))
    (next : ∀ p s, P p → P (p.step s)) (steps : List Segment) : P (walk root steps) :=
  List.foldlRecOn steps step start fun p holds s _ => next p s holds

theorem InStep.step {p : AccessPath} (inStep : p.InStep) (s : Segment) : (p.step s).InStep := by
  cases s with
  | member name => exact inStep.key name
  | element => exact inStep.element
  | value => exact inStep.mapValue

theorem inStep_walk (root : String) (steps : List Segment) : (walk root steps).InStep :=
  walk_induction (inStep_ofRoot root) (fun _ s inStep => inStep.step s) steps

theorem root_walk (root : String) (steps : List Segment) : (walk root steps).root = root :=
  walk_induction (P := fun p => p.root = root) rfl (fun p s kept => by cases s <;> exact kept) steps

theorem label_step (p : AccessPath) (s : Segment) : (p.step s).label = p.label ++ [s] := by
  cases s <;> rfl

theorem label_walk (root : String) (steps : List Segment) : (walk root steps).label = steps := by
  have onto : ∀ (steps : List Segment) (p : AccessPath),
      (steps.foldl step p).label = p.label ++ steps := by
    intro steps
    induction steps with
    | nil => exact fun p => (List.append_nil _).symm
    | cons s steps ih =>
      intro p
      rw [List.foldl_cons, ih, label_step, List.append_assoc, List.singleton_append]
  exact onto steps (ofRoot root)

/-- A path in step is the one that its label leads to. -/
theorem InStep.eq_walk {p : AccessPath} (inStep : p.InStep) : walk p.root p.label = p :=
  (inStep_walk p.root p.label).eq inStep (root_walk _ _) (label_walk _ _)

/-! ### Subscripts -/

/-- The number of a loop variable: what follows the letter for lists or for maps. -/
def loopNumber? (text : String) : Option Nat :=
  match text.toList with
  | c :: digits => if c = 'i' ∨ c = 'k' then some (Nat.ofDigitChars 10 digits 0) else none
  | [] => none

theorem loopNumber?_indexVariable (n : Nat) : loopNumber? (indexVariable n) = some n := by
  simp [loopNumber?, indexVariable_toList]

theorem loopNumber?_keyVariable (n : Nat) : loopNumber? (keyVariable n) = some n := by
  simp [loopNumber?, keyVariable_toList]

theorem quote_toList (name : String) :
    (Json.quote name).toList = '"' :: (name.toList.flatMap (Json.escapeChar true) ++ ['"']) := by
  rw [Json.quote, String.toList_ofList, Json.quoteWith, List.cons_append]

theorem loopNumber?_quote (name : String) : loopNumber? (Json.quote name) = none := by
  simp [loopNumber?, quote_toList]

/-- The subscript of a step that is inside `n` loops. -/
def subscriptAt (n : Nat) : Segment → String
  | .member name => Json.quote name
  | .element => indexVariable n
  | .value => keyVariable n

/-- A subscript of a step, inside as many loops as there may be. -/
def Subscribes (s : Segment) (subscript : String) : Prop := ∃ n, subscript = subscriptAt n s

theorem loopNumber?_subscriptAt (n : Nat) (s : Segment) :
    loopNumber? (subscriptAt n s) = if isLoop s then some n else none := by
  cases s with
  | member name => exact loopNumber?_quote name
  | element => exact loopNumber?_indexVariable n
  | value => exact loopNumber?_keyVariable n

section Step

variable (p : AccessPath) (s : Segment)

theorem subscripts_step : (p.step s).subscripts = p.subscripts ++ [subscriptAt p.depth s] := by
  cases s <;> rfl

theorem depth_step : (p.step s).depth = p.depth + if isLoop s then 1 else 0 := by
  cases s <;> rfl

end Step

/-- The loop variables of a path are numbered in order, and label and subscripts are in step. -/
structure IsNumbered (p : AccessPath) : Prop where
  numbers : p.subscripts.filterMap loopNumber? = List.range p.depth
  inStep : List.Forall₂ Subscribes p.label p.subscripts

theorem isNumbered_ofRoot (root : String) : IsNumbered (ofRoot root) := ⟨rfl, .nil⟩

theorem IsNumbered.step {p : AccessPath} (numbered : IsNumbered p) (s : Segment) :
    IsNumbered (p.step s) where
  numbers := by
    rw [subscripts_step, List.filterMap_append, numbered.numbers, depth_step, List.filterMap_cons,
      loopNumber?_subscriptAt]
    cases isLoop s with
    | false => simp
    | true => simp [List.range_succ]
  inStep := by
    rw [label_step, subscripts_step]
    exact List.rel_append numbered.inStep (.cons ⟨p.depth, rfl⟩ .nil)

theorem IsNumbered.not_mem {p : AccessPath} (numbered : IsNumbered p) {variable' : String}
    (next : loopNumber? variable' = some p.depth) : variable' ∉ p.subscripts := by
  intro member
  have among : p.depth ∈ p.subscripts.filterMap loopNumber? :=
    List.mem_filterMap.mpr ⟨variable', member, next⟩
  rw [numbered.numbers, List.mem_range] at among
  omega

/-! ### Expressions -/

/-- The characters of a subscript between its brackets. -/
def bracketed (text : String) : List Char := '[' :: (text.toList ++ [']'])

theorem expression_toList (p : AccessPath) :
    p.expression.toList = p.root.toList ++ p.subscripts.flatMap bracketed := by
  have fold : ∀ (subscripts : List String) (t : String),
      (subscripts.foldl (fun text s => text ++ "[" ++ s ++ "]") t).toList
        = t.toList ++ subscripts.flatMap bracketed := by
    intro subscripts
    induction subscripts with
    | nil => simp
    | cons s subscripts ih =>
      intro t
      rw [List.foldl_cons, ih, List.flatMap_cons]
      simp [bracketed]
  exact fold p.subscripts p.root

theorem bracketed_ne {text other : String} {c d : Char} {cs ds rest more : List Char}
    (spelt : text.toList = c :: cs) (also : other.toList = d :: ds) (differ : c ≠ d) :
    bracketed text ++ rest ≠ bracketed other ++ more := by
  intro same
  rw [bracketed, bracketed, spelt, also] at same
  exact differ (List.cons.inj (List.cons.inj same).2).1

theorem bracketed_quote {name other : String} {rest more : List Char}
    (same : bracketed (Json.quote name) ++ rest = bracketed (Json.quote other) ++ more) :
    name = other ∧ rest = more := by
  rw [bracketed, bracketed, quote_toList, quote_toList] at same
  simp only [List.cons_append, List.append_assoc, List.nil_append, List.cons.injEq, true_and]
    at same
  have read := congrArg (Json.readString 0) same
  rw [Json.readString_quoted, Json.readString_quoted] at read
  obtain ⟨chars, tails⟩ := Prod.mk.inj (Except.ok.inj read)
  exact ⟨String.toList_injective chars, (List.cons.inj tails).2⟩

theorem subscriptsFrom_injective {steps others : FieldPath} (n : Nat)
    (same : (subscriptsFrom n steps).flatMap bracketed
      = (subscriptsFrom n others).flatMap bracketed) : steps = others := by
  -- both walks are inside `n` loops, so equal steps have equal subscripts
  induction steps generalizing n others with
  | nil =>
    cases others with
    | nil => rfl
    | cons t others => cases t <;> cases same
  | cons s steps ih =>
    cases others with
    | nil => cases s <;> cases same
    | cons t others =>
      have index := indexVariable_toList n
      have key := keyVariable_toList n
      cases s with
      | member name =>
        cases t with
        | member other =>
          obtain ⟨rfl, rest⟩ := bracketed_quote same
          rw [ih n rest]
        | element => exact absurd same (bracketed_ne (quote_toList name) index (by decide))
        | value => exact absurd same (bracketed_ne (quote_toList name) key (by decide))
      | element =>
        cases t with
        | member other => exact absurd same (bracketed_ne index (quote_toList other) (by decide))
        | element => rw [ih (n + 1) (List.append_cancel_left same)]
        | value => exact absurd same (bracketed_ne index key (by decide))
      | value =>
        cases t with
        | member other => exact absurd same (bracketed_ne key (quote_toList other) (by decide))
        | element => exact absurd same (bracketed_ne key index (by decide))
        | value => rw [ih (n + 1) (List.append_cancel_left same)]

theorem expression_injective {root : String} {steps others : FieldPath}
    (same : (walk root steps).expression = (walk root others).expression) : steps = others := by
  have chars := congrArg String.toList same
  rw [expression_toList, expression_toList, root_walk, root_walk,
    (inStep_walk root steps).subscripts, (inStep_walk root others).subscripts, label_walk,
    label_walk] at chars
  exact subscriptsFrom_injective 0 (List.append_cancel_left chars)

theorem countP_isLoop (steps : List Segment) :
    steps.countP isLoop = steps.count .element + steps.count .value := by
  induction steps with
  | nil => rfl
  | cons s steps ih =>
    rw [List.countP_cons, List.count_cons, List.count_cons, ih]
    cases s with
    | member name => rfl
    | element =>
      show _ + 1 = _ + 1 + (_ + 0)
      omega
    | value =>
      show _ + 1 = _ + 0 + (_ + 1)
      omega

/-- A path that steps lead to is as deep as the steps enter lists and maps; its loop variables are
numbered from zero in order, so neither variable of its next loop is among its subscripts; its label
has one segment for each subscript, in step; and its expression is that of no other steps. -/
theorem walk_numbered (root : String) (steps : List Segment) :
    (walk root steps).depth = steps.count .element + steps.count .value ∧
    (walk root steps).subscripts.filterMap loopNumber? = List.range (walk root steps).depth ∧
    (walk root steps).loopVariable ∉ (walk root steps).subscripts ∧
    (walk root steps).mapVariable ∉ (walk root steps).subscripts ∧
    List.Forall₂ Subscribes (walk root steps).label (walk root steps).subscripts ∧
    ∀ others, (walk root steps).expression = (walk root others).expression ↔ steps = others := by
  have numbered : IsNumbered (walk root steps) :=
    walk_induction (isNumbered_ofRoot root) (fun p s kept => kept.step s) steps
  refine ⟨?_, numbered.numbers, numbered.not_mem (loopNumber?_indexVariable _),
    numbered.not_mem (loopNumber?_keyVariable _), numbered.inStep, fun others => ⟨?_, ?_⟩⟩
  · rw [(inStep_walk root steps).depth, label_walk, countP_isLoop]
  · exact expression_injective
  · rintro rfl
    rfl

end ServiceCli.Path.AccessPath
