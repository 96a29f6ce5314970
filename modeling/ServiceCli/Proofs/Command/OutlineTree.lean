import Mathlib.Data.List.Chain
import ServiceCli.Command.Outline
import ServiceCli.Path.FieldPath
import ServiceCli.Proofs.Text.Character

/-!
The subjects of an outline as a tree. A field, a value or an item encloses the subjects that its
type holds; the rows of an outline are the subjects in preorder, each with its line and with the
number of the row that encloses it.

* `Subject.held`: what a subject encloses, one level down.
* `OutlineTree.rows`: the rows of a tree, counted from a number.
* `OutlineTree.rows_enclosed`, `OutlineTree.rows_complete`: rows and enclosing rows determine each
  other, and a row stands four blanks further in than the row that encloses it.
-/

set_option autoImplicit false
set_option relaxedAutoImplicit false

namespace ServiceCli.Command

open ServiceCli.Path ServiceCli.Shape

theorem OutlineLine.text_toList (l : OutlineLine) : l.text.toList
    = List.replicate l.indent ' ' ++ (l.head ++ tailOf l.documentation).toList := by
  rw [OutlineLine.text, String.append_assoc, String.toList_append, Text.pushn_toList]

/-- What a line of an outline tells about, with its path from the input. -/
inductive Subject where
  | member (path : FieldPath) (field : Field)
  | key (path : FieldPath) (field : Field)
  | value (path : FieldPath) (field : Field)
  | item (path : FieldPath) (type : TypeTree)
  | token

def memberSubjects (path : FieldPath) (fields : List Field) : List Subject :=
  fields.map fun f => .member (path.member f.name) f

/-- What a type at a path holds. The items of a list have no line of their own where they are
structures, or where the line of the list tells all about them. -/
def heldBy (path : FieldPath) : TypeTree → List Subject
  | .structure members => memberSubjects path members
  | .list (.structure members) => memberSubjects path.element members
  | .list member => if member.isCompound then [.item path.element member] else []
  | .map key value => [.key path key, .value path.value value]
  | _ => []

namespace Subject

def held : Subject → List Subject
  | .member path field => heldBy path field.type
  | .value path field => heldBy path field.type
  | .item path type => heldBy path type
  | _ => []

def member? : Subject → Option (FieldPath × Field)
  | .member path field => some (path, field)
  | _ => none

/-- What stands at the beginning of a line; `lead` stands before the name of a member. -/
def head (lead : String) : Subject → String
  | .member _ f => lead ++ typedHead f.name f.type ++ " " ++ mark f.required
  | .key _ f => "key <" ++ f.type.label ++ ">"
  | .value _ f =>
    if f.type.isCompound then "value " ++ mark f.required else "value <" ++ f.type.label ++ ">"
  | .item _ type => typedHead "item" type
  | .token => tokenFlag.option ++ " <string> (required)"

/-- The documentation of a subject; an item has none. -/
def documentation : Subject → String
  | .member _ f => f.documentation
  | .key _ f => f.documentation
  | .value _ f => f.documentation
  | .item _ _ => ""
  | .token => tokenFlag.description

def line (lead : String) (indent : Nat) (s : Subject) : OutlineLine :=
  ⟨indent, s.head lead, s.documentation⟩

end Subject

/-- Subjects in a row, each with what it encloses. -/
inductive OutlineTree where
  | empty
  | entry (subject : Subject) (inside rest : OutlineTree)

/-- The text of a line of an outline with its subject, the number of the row that encloses it, and
how far in it stands. -/
structure Row where
  subject : Subject
  encloser : Option Nat
  indent : Nat
  text : String

namespace OutlineTree

def size : OutlineTree → Nat
  | .empty => 0
  | .entry _ inside rest => 1 + inside.size + rest.size

def roots : OutlineTree → List Subject
  | .empty => []
  | .entry s _ rest => s :: rest.roots

def subjects : OutlineTree → List Subject
  | .empty => []
  | .entry s inside rest => s :: inside.subjects ++ rest.subjects

/-- Each subject encloses what it holds. -/
def IsFaithful : OutlineTree → Prop
  | .empty => True
  | .entry s inside rest => inside.roots = s.held ∧ inside.IsFaithful ∧ rest.IsFaithful

/-- The rows of a tree that stands so many blanks in, when the first row has the number `n`. -/
def rows (lead : String) (indent : Nat) (encloser : Option Nat) (n : Nat) :
    OutlineTree → List Row
  | .empty => []
  | .entry s inside rest =>
    ⟨s, encloser, indent, (s.line lead indent).text⟩ ::
      inside.rows "" (indent + 4) (some n) (n + 1)
      ++ rest.rows lead indent encloser (n + 1 + inside.size)

section Rows

variable (lead : String) (indent n : Nat) (encloser : Option Nat) (t : OutlineTree)

theorem rows_length : (t.rows lead indent encloser n).length = t.size := by
  induction t generalizing lead indent n encloser with
  | empty => rfl
  | entry s inside rest ihInside ihRest =>
    simp only [rows, List.cons_append, List.length_cons, List.length_append, ihInside, ihRest, size]
    omega

theorem rows_subjects : (t.rows lead indent encloser n).map Row.subject = t.subjects := by
  induction t generalizing lead indent n encloser with
  | empty => rfl
  | entry s inside rest ihInside ihRest =>
    simp only [rows, List.cons_append, List.map_cons, List.map_append, ihInside, ihRest, subjects]

variable {lead indent n encloser t}

theorem rows_indent {r : Row} (member : r ∈ t.rows lead indent encloser n) :
    ∃ k, r.indent = indent + 4 * k := by
  induction t generalizing lead indent n encloser with
  | empty => simp [rows] at member
  | entry s inside rest ihInside ihRest =>
    simp only [rows, List.cons_append, List.mem_cons, List.mem_append] at member
    rcases member with rfl | member | member
    · exact ⟨0, rfl⟩
    · obtain ⟨k, deeper⟩ := ihInside member
      exact ⟨k + 1, by omega⟩
    · exact ihRest member

theorem rows_encloser {r : Row} (member : r ∈ t.rows lead indent encloser n) :
    r.encloser = encloser ∨ ∃ j, r.encloser = some j ∧ n ≤ j ∧ j < n + t.size := by
  induction t generalizing lead indent n encloser with
  | empty => simp [rows] at member
  | entry s inside rest ihInside ihRest =>
    simp only [rows, List.cons_append, List.mem_cons, List.mem_append] at member
    simp only [size]
    rcases member with rfl | member | member
    · exact .inl rfl
    · rcases ihInside member with own | ⟨j, own, low, high⟩
      · exact .inr ⟨n, own, by omega, by omega⟩
      · exact .inr ⟨j, own, by omega, by omega⟩
    · rcases ihRest member with outer | ⟨j, own, low, high⟩
      · exact .inl outer
      · exact .inr ⟨j, own, by omega, by omega⟩

theorem filter_rows_foreign {other : Nat} (apart : encloser ≠ some other)
    (outside : other < n ∨ n + t.size ≤ other) :
    (t.rows lead indent encloser n).filter (·.encloser == some other) = [] := by
  rw [List.filter_eq_nil_iff]
  intro r member same
  have equal : r.encloser = some other := by simpa using same
  rcases rows_encloser member with outer | ⟨j, own, low, high⟩
  · exact apart (outer ▸ equal)
  · have : j = other := Option.some.inj (own.symm.trans equal)
    omega

theorem filter_rows_roots (before : ∀ j, encloser = some j → j < n) :
    ((t.rows lead indent encloser n).filter (·.encloser == encloser)).map Row.subject
      = t.roots := by
  induction t generalizing lead indent n encloser with
  | empty => rfl
  | entry s inside rest ihInside ihRest =>
    have inner : (inside.rows "" (indent + 4) (some n) (n + 1)).filter (·.encloser == encloser)
        = [] := by
      rw [List.filter_eq_nil_iff]
      intro r member same
      have equal : r.encloser = encloser := by simpa using same
      rcases rows_encloser member with own | ⟨j, own, low, -⟩
      · have := before n (equal ▸ own)
        omega
      · have := before j (equal ▸ own)
        omega
    have later : ∀ j, encloser = some j → j < n + 1 + inside.size := by
      intro j outer
      have := before j outer
      omega
    simp only [rows, List.cons_append, List.filter_cons, List.filter_append, inner,
      beq_self_eq_true, if_true, List.nil_append, List.map_cons, ihRest later, roots]

/-- A row at the top of a tree has the indentation of the tree; any other stands four blanks further
in than the row that encloses it, which comes before it and holds its subject. -/
theorem rows_enclosed (faithful : t.IsFaithful) {i : Nat} {r : Row}
    (row : (t.rows lead indent encloser n)[i]? = some r) :
    (r.encloser = encloser ∧ r.subject ∈ t.roots
        ∧ r.indent = indent ∧ r.text = (r.subject.line lead indent).text)
      ∨ ∃ j e, r.encloser = some (n + j) ∧ j < i
        ∧ (t.rows lead indent encloser n)[j]? = some e ∧ r.subject ∈ e.subject.held
        ∧ r.indent = e.indent + 4 ∧ r.text = (r.subject.line "" (e.indent + 4)).text := by
  induction t generalizing lead indent n encloser i with
  | empty => simp [rows] at row
  | entry s inside rest ihInside ihRest =>
    obtain ⟨own, faithfulInside, faithfulRest⟩ := faithful
    simp only [rows, List.cons_append] at row ⊢
    cases i with
    | zero =>
      obtain rfl := Option.some.inj row
      exact .inl ⟨rfl, List.mem_cons_self, rfl, rfl⟩
    | succ i =>
      rw [List.getElem?_cons_succ] at row
      have length := rows_length "" (indent + 4) (n + 1) (some n) inside
      by_cases within : i < inside.size
      · rw [List.getElem?_append_left (by omega)] at row
        rcases ihInside faithfulInside row with ⟨outer, root, line⟩ | ⟨j, e, at_, less, row', rest'⟩
        · exact .inr ⟨0, _, outer, by omega, rfl, own ▸ root, line⟩
        · refine .inr ⟨j + 1, e, by rw [at_]; congr 1; omega, by omega, ?_, rest'⟩
          rw [List.getElem?_cons_succ, List.getElem?_append_left (by omega), row']
      · rw [List.getElem?_append_right (by omega)] at row
        rcases ihRest faithfulRest row with ⟨outer, root, line⟩ | ⟨j, e, at_, less, row', rest'⟩
        · exact .inl ⟨outer, List.mem_cons_of_mem _ root, line⟩
        · refine .inr ⟨j + inside.size + 1, e, by rw [at_]; congr 1; omega, by omega, ?_, rest'⟩
          rw [List.getElem?_cons_succ, List.getElem?_append_right (by omega), length,
            Nat.add_sub_cancel, row']

/-- A row encloses exactly the rows of what its subject holds, in order. -/
theorem rows_complete (faithful : t.IsFaithful) (before : ∀ j, encloser = some j → j < n) {i : Nat}
    {r : Row} (row : (t.rows lead indent encloser n)[i]? = some r) :
    ((t.rows lead indent encloser n).filter (·.encloser == some (n + i))).map Row.subject
      = r.subject.held := by
  induction t generalizing lead indent n encloser i with
  | empty => simp [rows] at row
  | entry s inside rest ihInside ihRest =>
    obtain ⟨own, faithfulInside, faithfulRest⟩ := faithful
    have headApart : (encloser == some (n + i)) = false := by
      rw [beq_eq_false_iff_ne]
      intro same
      have := before _ same
      omega
    have outer : encloser ≠ some (n + i) := by simpa using headApart
    have later : ∀ j, encloser = some j → j < n + 1 + inside.size := by
      intro j equal
      have := before j equal
      omega
    simp only [rows, List.cons_append, List.filter_cons, headApart, Bool.false_eq_true, if_false,
      List.filter_append, List.map_append]
    simp only [rows, List.cons_append] at row
    cases i with
    | zero =>
      obtain rfl := Option.some.inj row
      have others : (rest.rows lead indent encloser (n + 1 + inside.size)).filter
          (·.encloser == some (n + 0)) = [] := filter_rows_foreign outer (by omega)
      have first : ((inside.rows "" (indent + 4) (some n) (n + 1)).filter
          (·.encloser == some n)).map Row.subject = inside.roots :=
        filter_rows_roots fun j equal => by
          have := Option.some.inj equal
          omega
      rw [others, Nat.add_zero, first, List.map_nil, List.append_nil, own]
    | succ i =>
      rw [List.getElem?_cons_succ] at row
      have length := rows_length "" (indent + 4) (n + 1) (some n) inside
      by_cases within : i < inside.size
      · rw [List.getElem?_append_left (by omega)] at row
        have others : (rest.rows lead indent encloser (n + 1 + inside.size)).filter
            (·.encloser == some (n + (i + 1))) = [] := filter_rows_foreign outer (by omega)
        have inner := ihInside faithfulInside (fun j equal => by
          have := Option.some.inj equal
          omega) row
        have number : n + (i + 1) = n + 1 + i := by omega
        rw [others, List.map_nil, List.append_nil, number, inner]
      · rw [List.getElem?_append_right (by omega)] at row
        have others : (inside.rows "" (indent + 4) (some n) (n + 1)).filter
            (·.encloser == some (n + (i + 1))) = [] :=
          filter_rows_foreign (by simp) (by omega)
        have inner := ihRest faithfulRest later row
        have number : n + (i + 1) = n + 1 + inside.size
            + (i - (inside.rows "" (indent + 4) (some n) (n + 1)).length) := by omega
        rw [others, List.map_nil, List.nil_append, number, inner]

theorem rows_first {r : Row} (first : (t.rows lead indent encloser n).head? = some r) :
    r.indent = indent := by
  cases t with
  | empty => simp [rows] at first
  | entry s inside rest =>
    obtain rfl := Option.some.inj first
    rfl

theorem rows_growth :
    (t.rows lead indent encloser n).IsChain fun r next => next.indent ≤ r.indent + 4 := by
  induction t generalizing lead indent n encloser with
  | empty => exact .nil
  | entry s inside rest ihInside ihRest =>
    rw [rows, List.isChain_append]
    refine ⟨List.isChain_cons.mpr ⟨?_, ihInside⟩, ihRest, ?_⟩
    · intro next first
      have deeper := rows_first first
      exact Nat.le_of_eq deeper
    · intro last member next first
      -- what follows the inside of an entry is back at the entry's own indentation
      have back : next.indent = indent := rows_first first
      have far : indent ≤ last.indent := by
        rcases List.mem_cons.mp (List.mem_of_mem_getLast? member) with rfl | member
        · exact Nat.le_refl _
        · obtain ⟨k, deeper⟩ := rows_indent member
          omega
      omega

end Rows

end OutlineTree

end ServiceCli.Command
