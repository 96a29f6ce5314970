import ServiceCli.Command.Required
import ServiceCli.Proofs.Command.OutlineTree

set_option autoImplicit false
set_option relaxedAutoImplicit false

namespace ServiceCli.Command

open ServiceCli.Path ServiceCli.Shape

mutual
/-- The members within a type at a path, each before those within its own type. A map key is not
entered. -/
def membersWithin (path : FieldPath) : TypeTree → List (FieldPath × Field)
  | .structure members => membersAmong path members
  | .list member => membersWithin path.element member
  | .map _ ⟨_, value, _, _, _⟩ => membersWithin path.value value
  | _ => []
def membersAmong (path : FieldPath) : List Field → List (FieldPath × Field)
  | [] => []
  | ⟨name, type, required, documentation, isPayload⟩ :: rest =>
    (path.member name, ⟨name, type, required, documentation, isPayload⟩)
      :: membersWithin (path.member name) type ++ membersAmong path rest
end

/-- Whether a row says, before the documentation of its subject, that something is required. -/
def Row.saysRequired (r : Row) : Bool :=
  ("(required)" ++ tailOf r.subject.documentation).toList.isSuffixOf r.text.toList

/-- The row of a member within another one, when the member's name is empty or begins with a blank:
what the row names then begins with a blank itself. -/
def Row.NamesBlank (r : Row) : Prop :=
  r.encloser ≠ none ∧ ∃ path f, r.subject = .member path f ∧
    ∀ c, f.name.toList.head? = some c → c = ' '

/-- Rows that are a faithful outline of an input. -/
structure IsOutline (fields : List Field) (needsToken : Bool) (indent : Nat) (rows : List Row) :
    Prop where
  told : ∀ r ∈ rows, r.text.toList = List.replicate r.indent ' '
    ++ (r.subject.head (if r.encloser = none then "--" else "")
      ++ tailOf r.subject.documentation).toList
  shown : ∀ r ∈ rows, ¬ r.NamesBlank → Text.indentOf r.text.toList = r.indent
  members : rows.filterMap (·.subject.member?) = membersAmong [] fields
  required : (rows.filter Row.saysRequired).filterMap (fun r => r.subject.member?.map Prod.fst)
    = requiredPaths fields
  first : ∀ r, rows.head? = some r → r.indent = indent
  multiple : ∀ r ∈ rows, ∃ k, r.indent = indent + 4 * k
  growth : rows.IsChain fun r next => next.indent ≤ r.indent + 4
  top : (rows.filter (·.indent == indent)).map Row.subject
    = memberSubjects [] fields ++ if needsToken then [.token] else []
  enclosed : ∀ (i : Nat) (r : Row), rows[i]? = some r →
    (r.encloser = none ∧ r.indent = indent) ∨
    ∃ (j : Nat) (e : Row), r.encloser = some j ∧ j < i ∧ rows[j]? = some e ∧
      r.subject ∈ e.subject.held ∧ r.indent = e.indent + 4
  complete : ∀ (i : Nat) (r : Row), rows[i]? = some r →
    (rows.filter (·.encloser == some i)).map Row.subject = r.subject.held

namespace OutlineTree

def lines (lead : String) (indent : Nat) : OutlineTree → List OutlineLine
  | .empty => []
  | .entry s inside rest =>
    s.line lead indent :: inside.lines "" (indent + 4) ++ rest.lines lead indent

def append : OutlineTree → OutlineTree → OutlineTree
  | .empty, u => u
  | .entry s inside rest, u => .entry s inside (rest.append u)

section Append

variable (lead : String) (indent n : Nat) (encloser : Option Nat) (t u : OutlineTree)

theorem rows_lines :
    (t.rows lead indent encloser n).map Row.text = (t.lines lead indent).map OutlineLine.text := by
  induction t generalizing lead indent n encloser with
  | empty => rfl
  | entry s inside rest ihInside ihRest =>
    simp only [rows, List.cons_append, List.map_cons, List.map_append, ihInside, ihRest, lines]

theorem lines_append :
    (t.append u).lines lead indent = t.lines lead indent ++ u.lines lead indent := by
  induction t with
  | empty => rfl
  | entry s inside rest _ ih => simp only [append, lines, ih, List.cons_append, List.append_assoc]

theorem subjects_append : (t.append u).subjects = t.subjects ++ u.subjects := by
  induction t with
  | empty => rfl
  | entry s inside rest _ ih =>
    simp only [append, subjects, ih, List.cons_append, List.append_assoc]

theorem roots_append : (t.append u).roots = t.roots ++ u.roots := by
  induction t with
  | empty => rfl
  | entry s inside rest _ ih => simp only [append, roots, ih, List.cons_append]

variable {t u}

theorem IsFaithful.append (faithful : t.IsFaithful) (other : u.IsFaithful) :
    (t.append u).IsFaithful := by
  induction t with
  | empty => exact other
  | entry s inside rest _ ih =>
    obtain ⟨own, inner, later⟩ := faithful
    exact ⟨own, inner, ih later⟩

end Append

end OutlineTree

mutual
/-- The tree of what a type at a path holds. -/
def treeWithin (path : FieldPath) : TypeTree → OutlineTree
  | .structure members => treeAmong path members
  | .list (.structure members) => treeAmong path.element members
  | .list (.blob streaming) => .entry (.item path.element (.blob streaming)) .empty .empty
  | .list (.list member) =>
    .entry (.item path.element (.list member)) (treeWithin path.element (.list member)) .empty
  | .list (.map key value) =>
    .entry (.item path.element (.map key value)) (treeWithin path.element (.map key value)) .empty
  | .map key ⟨name, value, required, documentation, isPayload⟩ =>
    .entry (.key path key) .empty
      (.entry (.value path.value ⟨name, value, required, documentation, isPayload⟩)
        (treeWithin path.value value) .empty)
  | _ => .empty
def treeAmong (path : FieldPath) : List Field → OutlineTree
  | [] => .empty
  | ⟨name, type, required, documentation, isPayload⟩ :: rest =>
    .entry (.member (path.member name) ⟨name, type, required, documentation, isPayload⟩)
      (treeWithin (path.member name) type) (treeAmong path rest)
end

/-- The tree of an input; the token comes last. -/
def inputTree (fields : List Field) (needsToken : Bool) : OutlineTree :=
  (treeAmong [] fields).append (if needsToken then .entry .token .empty .empty else .empty)

section Trees

theorem outlineBelow_of_simple (indent : Nat) {t : TypeTree} (simple : t.isCompound = false) :
    outlineBelow indent t = [] := by
  cases t with
  | primitive => rfl
  | document => rfl
  | _ => cases simple

mutual
theorem lines_treeWithin (path : FieldPath) (indent : Nat) : ∀ t : TypeTree,
    (treeWithin path t).lines "" indent = outlineBelow indent t
  | .structure members => by
    rw [treeWithin, lines_treeAmong, outlineBelow]
  | .list (.structure members) => by
    rw [treeWithin, lines_treeAmong, outlineBelow]
  | .list (.list member) => by
    rw [treeWithin, OutlineTree.lines, lines_treeWithin, outlineBelow, OutlineTree.lines,
      List.append_nil]
    rfl
  | .list (.map key value) => by
    rw [treeWithin, OutlineTree.lines, lines_treeWithin, outlineBelow, OutlineTree.lines,
      List.append_nil]
    rfl
  | .map ⟨keyName, key, _, keyTold, _⟩ ⟨name, value, required, told, isPayload⟩ => by
    have inner := lines_treeWithin path.value (indent + 4) value
    simp only [treeWithin, OutlineTree.lines, inner, outlineBelow]
    by_cases compound : value.isCompound
    · simp [Subject.line, Subject.head, Subject.documentation, compound]
    · simp [Subject.line, Subject.head, Subject.documentation, compound,
        outlineBelow_of_simple (indent + 4) (Bool.eq_false_iff.mpr compound)]
  | .list (.blob _) => rfl
  | .list (.primitive _) => rfl
  | .list .document => rfl
  | .primitive _ => rfl
  | .blob _ => rfl
  | .document => rfl
theorem lines_treeAmong (path : FieldPath) (lead : String) (indent : Nat) :
    ∀ fields : List Field,
      (treeAmong path fields).lines lead indent = outlineFields lead indent fields
  | [] => rfl
  | ⟨name, type, required, documentation, isPayload⟩ :: rest => by
    rw [treeAmong, OutlineTree.lines, lines_treeWithin, lines_treeAmong path lead indent rest,
      outlineFields]
    rfl
end

mutual
theorem members_treeWithin (path : FieldPath) : ∀ t : TypeTree,
    (treeWithin path t).subjects.filterMap Subject.member? = membersWithin path t
  | .structure members => members_treeAmong path members
  | .list (.structure members) => members_treeAmong path.element members
  | .list (.list member) => by
    have inner := members_treeWithin path.element (.list member)
    simp only [treeWithin, OutlineTree.subjects, List.append_nil, List.filterMap_cons,
      Subject.member?, inner, membersWithin]
  | .list (.map key ⟨name, value, required, documentation, isPayload⟩) => by
    have inner := members_treeWithin path.element
      (.map key ⟨name, value, required, documentation, isPayload⟩)
    rw [treeWithin, OutlineTree.subjects]
    simp only [OutlineTree.subjects, List.append_nil, List.filterMap_cons, Subject.member?, inner,
      membersWithin]
  | .map _ ⟨name, value, required, documentation, isPayload⟩ => by
    have inner := members_treeWithin path.value value
    simp only [treeWithin, OutlineTree.subjects, List.append_nil, List.cons_append, List.nil_append,
      List.filterMap_cons, Subject.member?, inner, membersWithin]
  | .list (.blob _) => rfl
  | .list (.primitive _) => rfl
  | .list .document => rfl
  | .primitive _ => rfl
  | .blob _ => rfl
  | .document => rfl
theorem members_treeAmong (path : FieldPath) : ∀ fields : List Field,
    (treeAmong path fields).subjects.filterMap Subject.member? = membersAmong path fields
  | [] => rfl
  | ⟨name, type, required, documentation, isPayload⟩ :: rest => by
    have inner := members_treeWithin (path.member name) type
    have others := members_treeAmong path rest
    simp only [treeAmong, OutlineTree.subjects, List.cons_append, List.filterMap_cons,
      List.filterMap_append, Subject.member?, inner, others, membersAmong]
end

mutual
theorem roots_treeWithin (path : FieldPath) : ∀ t : TypeTree,
    (treeWithin path t).roots = heldBy path t
  | .structure members => roots_treeAmong path members
  | .list (.structure members) => roots_treeAmong path.element members
  | .list (.list member) => by rw [treeWithin]; rfl
  | .list (.map key value) => by rw [treeWithin]; rfl
  | .map _ ⟨_, _, _, _, _⟩ => by rw [treeWithin]; rfl
  | .list (.blob _) => rfl
  | .list (.primitive _) => rfl
  | .list .document => rfl
  | .primitive _ => rfl
  | .blob _ => rfl
  | .document => rfl
theorem roots_treeAmong (path : FieldPath) : ∀ fields : List Field,
    (treeAmong path fields).roots = memberSubjects path fields
  | [] => rfl
  | ⟨name, type, required, documentation, isPayload⟩ :: rest => by
    rw [treeAmong, OutlineTree.roots, roots_treeAmong path rest]
    rfl
end

mutual
theorem faithful_treeWithin (path : FieldPath) : ∀ t : TypeTree, (treeWithin path t).IsFaithful
  | .structure members => faithful_treeAmong path members
  | .list (.structure members) => faithful_treeAmong path.element members
  | .list (.list member) => by
    rw [treeWithin]
    exact ⟨roots_treeWithin path.element (.list member),
      faithful_treeWithin path.element (.list member), trivial⟩
  | .list (.map key value) => by
    rw [treeWithin]
    exact ⟨roots_treeWithin path.element (.map key value),
      faithful_treeWithin path.element (.map key value), trivial⟩
  | .map key ⟨_, value, _, _, _⟩ => by
    rw [treeWithin]
    exact ⟨rfl, trivial, roots_treeWithin path.value value, faithful_treeWithin path.value value,
      trivial⟩
  | .list (.blob _) => ⟨rfl, trivial, trivial⟩
  | .list (.primitive _) => trivial
  | .list .document => trivial
  | .primitive _ => trivial
  | .blob _ => trivial
  | .document => trivial
theorem faithful_treeAmong (path : FieldPath) : ∀ fields : List Field,
    (treeAmong path fields).IsFaithful
  | [] => trivial
  | ⟨name, type, required, documentation, isPayload⟩ :: rest => by
    rw [treeAmong]
    exact ⟨roots_treeWithin (path.member name) type, faithful_treeWithin (path.member name) type,
      faithful_treeAmong path rest⟩
end

mutual
theorem requiredWithin_members (path : FieldPath) : ∀ t : TypeTree,
    requiredWithin path t = ((membersWithin path t).filter (·.2.required)).map Prod.fst
  | .structure members => requiredAmong_members path members
  | .list member => requiredWithin_members path.element member
  | .map _ ⟨_, value, _, _, _⟩ => requiredWithin_members path.value value
  | .primitive _ => rfl
  | .blob _ => rfl
  | .document => rfl
theorem requiredAmong_members (path : FieldPath) : ∀ fields : List Field,
    requiredAmong path fields = ((membersAmong path fields).filter (·.2.required)).map Prod.fst
  | [] => rfl
  | ⟨name, type, required, _, _⟩ :: rest => by
    rw [requiredAmong, requiredWithin_members (path.member name) type,
      requiredAmong_members path rest, membersAmong]
    cases required <;> simp
end

end Trees

theorem typedHead_toList (name mark : String) (type : TypeTree) :
    ∃ rest, (typedHead name type ++ " " ++ mark).toList = name.toList ++ ' ' :: rest := by
  unfold typedHead
  split
  case h_2 member =>
    split
    all_goals
      simp only [String.toList_append, List.append_assoc]
      exact ⟨_, rfl⟩
  all_goals
    simp only [String.toList_append, List.append_assoc]
    exact ⟨_, rfl⟩

theorem isSuffixOf_mark (front tail : List Char) (required : Bool) :
    ("(required)".toList ++ tail).isSuffixOf (front ++ ((mark required).toList ++ tail))
      = required := by
  cases required with
  | true =>
    rw [List.isSuffixOf_iff_suffix]
    exact List.suffix_append _ _
  | false =>
    -- the two marks have the same length, so before the end of a line is only one of them
    rw [Bool.eq_false_iff, ne_eq, List.isSuffixOf_iff_suffix]
    intro suffix
    have own : (mark false).toList ++ tail <:+ front ++ ((mark false).toList ++ tail) :=
      List.suffix_append _ _
    have marks : "(required)".toList.length = (mark false).toList.length := by decide
    have length : ("(required)".toList ++ tail).length = ((mark false).toList ++ tail).length := by
      rw [List.length_append, List.length_append, marks]
    have nested := List.suffix_of_suffix_length_le suffix own (Nat.le_of_eq length)
    exact absurd (List.append_cancel_right (nested.eq_of_length length)) (by decide)

section Rows

variable {rows : List Row}

/-- Where each row of a member tells whether it is required, the rows that say so are those of the
required members. -/
theorem filterMap_saysRequired (honest : ∀ r ∈ rows, ∀ m, r.subject.member? = some m →
    r.saysRequired = m.2.required) :
    (rows.filter Row.saysRequired).filterMap (fun r => r.subject.member?.map Prod.fst)
      = ((rows.filterMap (·.subject.member?)).filter (·.2.required)).map Prod.fst := by
  rw [List.filterMap_filter, List.filter_filterMap, List.map_filterMap]
  refine List.filterMap_congr fun r row => ?_
  cases member : r.subject.member? with
  | none => simp
  | some m =>
    rw [honest r row m member]
    cases required : m.2.required <;> simp [Option.filter, required]

variable {lead : String} {indent n : Nat} {encloser : Option Nat} {t : OutlineTree}

theorem filter_rows_indent (faithful : t.IsFaithful) (before : ∀ j, encloser = some j → j < n) :
    ((t.rows lead indent encloser n).filter (·.indent == indent)).map Row.subject
      = t.roots := by
  have same : ∀ r ∈ t.rows lead indent encloser n,
      (r.indent == indent) = (r.encloser == encloser) := by
    intro r member
    obtain ⟨i, row⟩ := List.mem_iff_getElem?.mp member
    rcases OutlineTree.rows_enclosed faithful row with
      ⟨outer, -, far, -⟩ | ⟨j, e, own, -, row', -, far, -⟩
    · simp [outer, far]
    · obtain ⟨k, deep⟩ := OutlineTree.rows_indent (List.mem_of_getElem? row')
      have further : r.indent ≠ indent := by omega
      have inner : r.encloser ≠ encloser := by
        intro outer
        have := before _ (outer.symm.trans own)
        omega
      simp [further, inner]
  rw [List.filter_congr same]
  exact OutlineTree.filter_rows_roots before

theorem filterMap_rows_member : (t.rows lead indent encloser n).filterMap (·.subject.member?)
    = t.subjects.filterMap Subject.member? := by
  have mapped := List.filterMap_map (f := Row.subject) (g := Subject.member?)
    (l := t.rows lead indent encloser n)
  rw [OutlineTree.rows_subjects] at mapped
  exact mapped.symm

variable {r : Row}

theorem rows_told (faithful : t.IsFaithful) (member : r ∈ t.rows lead indent none n) :
    r.text.toList = List.replicate r.indent ' '
      ++ (r.subject.head (if r.encloser = none then lead else "")
        ++ tailOf r.subject.documentation).toList := by
  obtain ⟨i, row⟩ := List.mem_iff_getElem?.mp member
  rcases OutlineTree.rows_enclosed faithful row with
    ⟨outer, -, far, text⟩ | ⟨j, e, own, -, -, -, far, text⟩
  · rw [text, OutlineLine.text_toList, outer, far, if_pos rfl]
    rfl
  · rw [text, OutlineLine.text_toList, own, far, if_neg (by simp)]
    rfl

theorem rows_saysRequired (faithful : t.IsFaithful) (member : r ∈ t.rows lead indent none n)
    {m : FieldPath × Field} (own : r.subject.member? = some m) :
    r.saysRequired = m.2.required := by
  have told := rows_told faithful member
  cases subject : r.subject with
  | member path field =>
    rw [subject] at told own
    obtain rfl := Option.some.inj own
    rw [Row.saysRequired, subject, told]
    simp only [Subject.head, String.toList_append, List.append_assoc]
    rw [← List.append_assoc, ← List.append_assoc, ← List.append_assoc]
    exact isSuffixOf_mark _ _ field.required
  | _ =>
    rw [subject] at own
    cases own

theorem head_solid {s : Subject} {top : Bool} (named : top = false → ∀ path f, s = .member path f →
    ∃ c, f.name.toList.head? = some c ∧ c ≠ ' ') (tail : String) :
    (s.head (if top then "--" else "") ++ tail).toList.head? ≠ some ' ' := by
  rw [String.toList_append]
  cases s with
  | member path f =>
    obtain ⟨rest, spelt⟩ := typedHead_toList f.name (mark f.required) f.type
    cases top with
    | true => simp [Subject.head]
    | false =>
      obtain ⟨c, first, solid⟩ := named rfl path f rfl
      obtain ⟨cs, spelled⟩ := List.head?_eq_some_iff.mp first
      have head : ((Subject.member path f).head "").toList = c :: (cs ++ ' ' :: rest) := by
        rw [Subject.head, String.empty_append, spelt, spelled, List.cons_append]
      rw [if_neg (by decide), head]
      simpa using solid
  | key path f => simp [Subject.head]
  | value path f =>
    rw [Subject.head]
    split <;> simp
  | item path type =>
    rw [Subject.head, typedHead.eq_def]
    split <;> (try split) <;> simp
  | token => simp [Subject.head, tokenFlag, Flag.option]

/-- The blanks that a text begins with are its indentation, unless what it names is blank. -/
theorem rows_shown (faithful : t.IsFaithful) (member : r ∈ t.rows "--" indent none n)
    (named : ¬ r.NamesBlank) : Text.indentOf r.text.toList = r.indent := by
  have solid := @head_solid r.subject (decide (r.encloser = none))
    (fun within path f own => by
      have inner : r.encloser ≠ none := of_decide_eq_false within
      by_contra blank
      refine named ⟨inner, path, f, own, fun c first => ?_⟩
      by_contra other
      exact blank ⟨c, first, other⟩) (tailOf r.subject.documentation)
  simp only [decide_eq_true_eq] at solid
  rw [rows_told faithful member, Text.indentOf_append, Text.indentOf_solid solid, Nat.add_zero]

end Rows

section Input

variable (fields : List Field) (needsToken : Bool) (indent : Nat)

theorem inputTree_lines :
    (inputTree fields needsToken).lines "--" indent = outlineOf fields needsToken indent := by
  rw [inputTree, OutlineTree.lines_append, lines_treeAmong, outlineOf]
  cases needsToken <;> rfl

theorem inputTree_members :
    (inputTree fields needsToken).subjects.filterMap Subject.member? = membersAmong [] fields := by
  rw [inputTree, OutlineTree.subjects_append, List.filterMap_append, members_treeAmong]
  cases needsToken <;> simp [OutlineTree.subjects, Subject.member?]

theorem inputTree_roots : (inputTree fields needsToken).roots
    = memberSubjects [] fields ++ if needsToken then [.token] else [] := by
  rw [inputTree, OutlineTree.roots_append, roots_treeAmong]
  cases needsToken <;> rfl

theorem inputTree_faithful : (inputTree fields needsToken).IsFaithful := by
  refine (faithful_treeAmong [] fields).append ?_
  cases needsToken with
  | false => trivial
  | true => exact ⟨rfl, trivial, trivial⟩

/-- The outline of an input is faithful: one text for each member that is reached without passing
through a map key, in depth-first order of declaration; those that are marked as required are those
of the required paths; each stands four blanks further in than the one that encloses it, and
encloses just what its subject holds. How far in it stands is seen by the blanks that it begins
with, unless the name of a member within another one begins with blanks itself. -/
theorem outlineOf_faithful : ∃ rows : List Row,
    (outlineOf fields needsToken indent).map OutlineLine.text = rows.map Row.text
      ∧ IsOutline fields needsToken indent rows := by
  have faithful := inputTree_faithful fields needsToken
  have before : ∀ j, (none : Option Nat) = some j → j < 0 := nofun
  refine ⟨(inputTree fields needsToken).rows "--" indent none 0, ?lines, ?_⟩
  case lines => rw [OutlineTree.rows_lines, inputTree_lines]
  have members : ((inputTree fields needsToken).rows "--" indent none 0).filterMap
      (·.subject.member?) = membersAmong [] fields := by
    rw [filterMap_rows_member, inputTree_members]
  exact {
    told := fun r member => rows_told faithful member
    shown := fun r member named => rows_shown faithful member named
    members := members
    required := by
      rw [filterMap_saysRequired fun r member m own => rows_saysRequired faithful member own,
        members, requiredPaths, requiredAmong_members]
    first := fun r first => OutlineTree.rows_first first
    multiple := fun r member => OutlineTree.rows_indent member
    growth := OutlineTree.rows_growth
    top := by rw [filter_rows_indent faithful before, inputTree_roots]
    enclosed := by
      intro i r row
      rcases OutlineTree.rows_enclosed faithful row with
        ⟨outer, -, far, -⟩ | ⟨j, e, own, less, row', held, far, -⟩
      · exact .inl ⟨outer, far⟩
      · exact .inr ⟨j, e, by rw [own, Nat.zero_add], less, row', held, far⟩
    complete := by
      intro i r row
      have inside := OutlineTree.rows_complete faithful before row
      rwa [Nat.zero_add] at inside }

end Input

/-- The name of a member within a structure may begin with a blank, which then stands behind the
indentation of its line. -/
theorem outlineOf_blankName :
    (outlineOf [⟨"a", .structure [⟨" b", .primitive "string", false, "", false⟩], false, "",
        false⟩] false 4).map OutlineLine.text
      = ["    --a (optional)", "         b <string> (optional)"]
    ∧ ¬ ∃ k, Text.indentOf "         b <string> (optional)".toList = 4 + 4 * k := by
  refine ⟨by decide, ?_⟩
  rintro ⟨k, shown⟩
  have blanks : Text.indentOf "         b <string> (optional)".toList = 9 := by decide
  omega

end ServiceCli.Command
