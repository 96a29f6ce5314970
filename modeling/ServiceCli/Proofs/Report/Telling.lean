import Mathlib.Data.List.Forall2
import ServiceCli.Proofs.Outcome
import ServiceCli.Report.Plain

/-!
Records told by their fields. What stands in a record is told by fields as well or copied, which it
may refuse. Main statements: it is told exactly when it can be copied, what is told has the plain
forms of what it was, and is kept from plain form by the same.
-/

set_option autoImplicit false
set_option relaxedAutoImplicit false

namespace ServiceCli.Report

open ServiceCli.Data
open Outcome (bind_eq_error bind_eq_ok pure_eq_ok return_eq_error)

/-- A value that has no other form: what is indivisible, but for bytes, and sets, streams and what
is known by its text alone. -/
inductive Stays : Value → Prop
  | atom {a : Scalar} : (∀ bytes, a ≠ .bytes bytes) → Stays (.atom a)
  | set (items : List Key) : Stays (.set items)
  | stream (path : String) (position : Nat) (closed : Bool) : Stays (.stream path position closed)
  | opaqueText (text : String) (copyable : Bool) : Stays (.opaqueText text copyable)

/-- Values under the texts of keys; of those under one text the last stays, at the first one's
place. -/
def underTexts (texts : List String) (values : List Value) : Value :=
  .map (Entries.ofList ((texts.map Key.str).zip values))

/-- A value and the plain form of it, place by place: of the items of a list there are as many plain
forms, in their order. An account that stands in a record, where values are `told` by their fields,
is a record like others, and elsewhere it is what it reports. -/
inductive PlainOf : Bool → Value → Value → Prop
  | stays {told : Bool} {v : Value} : Stays v → PlainOf told v v
  | bytes {told : Bool} (bs : List UInt8) :
    PlainOf told (.bytes bs) (.str (Text.decodeLenient bs))
  | list {told : Bool} {items out : List Value} : items.length = out.length →
    (∀ {v w}, (v, w) ∈ items.zip out → PlainOf told v w) → PlainOf told (.list items) (.list out)
  | tuple {told : Bool} {items out : List Value} :
    PlainOf told (.list items) (.list out) → PlainOf told (.tuple items) (.list out)
  | map {told : Bool} {entries : Entries} {values : List Value} : entries.length = values.length →
    (∀ {entry v}, (entry, v) ∈ entries.zip values → PlainOf told entry.2 v) →
      PlainOf told (.map entries)
        (underTexts (entries.map fun entry => Literal.keyText entry.1) values)
  | record {told : Bool} {fields : List (String × Value)} {values : List Value} :
    fields.length = values.length →
    (∀ {field v}, (field, v) ∈ fields.zip values → PlainOf true field.2 v) →
      PlainOf told (.record fields) (underTexts (fields.map Prod.fst) values)
  | report {told : Bool} {content v : Value} :
    PlainOf false content v → PlainOf told (.report content) v
  | account {fields : List (String × Value)} {content v : Value} :
    PlainOf false content v → PlainOf false (.account fields content) v
  | toldAccount {fields : List (String × Value)} {content v : Value} :
    PlainOf true (.record fields) v → PlainOf true (.account fields content) v

/-- What keeps a value from plain form, here or there in it: a record that cannot be copied, or a
mapping with a key that has no text. -/
inductive PlainFault : Bool → Value → Fault → Prop
  | uncopied {told : Bool} {fields : List (String × Value)} :
    isCopyable (.record fields) = false → PlainFault told (.record fields) .wrongKind
  | key {told : Bool} {entries : Entries} {entry : Key × Value} : entry ∈ entries →
    holdsLongNumber entry.1 = true → PlainFault told (.map entries) .malformedValue
  | list {told : Bool} {items : List Value} {v : Value} {fault : Fault} : v ∈ items →
    PlainFault told v fault → PlainFault told (.list items) fault
  | tuple {told : Bool} {items : List Value} {fault : Fault} :
    PlainFault told (.list items) fault → PlainFault told (.tuple items) fault
  | map {told : Bool} {entries : Entries} {entry : Key × Value} {fault : Fault} :
    entry ∈ entries → PlainFault told entry.2 fault → PlainFault told (.map entries) fault
  | record {told : Bool} {fields : List (String × Value)} {field : String × Value}
    {fault : Fault} : field ∈ fields → PlainFault true field.2 fault →
      PlainFault told (.record fields) fault
  | report {told : Bool} {content : Value} {fault : Fault} :
    PlainFault false content fault → PlainFault told (.report content) fault
  | account {fields : List (String × Value)} {content : Value} {fault : Fault} :
    PlainFault false content fault → PlainFault false (.account fields content) fault
  | toldAccount {fields : List (String × Value)} {content : Value} {fault : Fault} :
    PlainFault true (.record fields) fault → PlainFault true (.account fields content) fault

/-- What holds of every value when it holds of those made of values for which it holds. A tuple is
made of its list, and an account of its record. -/
@[elab_as_elim]
theorem nestedInduction {P : Value → Prop} (stays : ∀ v, Stays v → P v)
    (bytes : ∀ bs, P (.bytes bs))
    (list : ∀ items, (∀ v ∈ items, P v) → P (.list items))
    (tuple : ∀ items, P (.list items) → P (.tuple items))
    (map : ∀ entries, (∀ entry ∈ entries, P entry.2) → P (.map entries))
    (record : ∀ fields, (∀ field ∈ fields, P field.2) → P (.record fields))
    (report : ∀ content, P content → P (.report content))
    (account : ∀ fields content, P (.record fields) → P (.account fields content))
    (v : Value) : P v := by
  refine v.rec (motive_2 := fun items => ∀ v ∈ items, P v)
    (motive_3 := fun entries => ∀ entry ∈ entries, P entry.2)
    (motive_4 := fun fields => ∀ field ∈ fields, P field.2)
    (motive_5 := fun entry => P entry.2) (motive_6 := fun field => P field.2)
    ?_ list (fun items each => tuple items (list items each)) (fun items => stays _ (.set items))
    map (fun path position closed => stays _ (.stream path position closed)) record report
    (fun fields content each _ => account fields content (record fields each))
    (fun text copyable => stays _ (.opaqueText text copyable)) ?_ ?_ ?_ ?_ ?_ ?_ ?_ ?_
  · intro a
    cases a with
    | bytes bs => exact bytes bs
    | _ => exact stays _ (.atom nofun)
  · exact List.forall_mem_nil _
  · exact fun _ _ first rest => List.forall_mem_cons.mpr ⟨first, rest⟩
  · exact List.forall_mem_nil _
  · exact fun _ _ first rest => List.forall_mem_cons.mpr ⟨first, rest⟩
  · exact List.forall_mem_nil _
  · exact fun _ _ first rest => List.forall_mem_cons.mpr ⟨first, rest⟩
  · exact fun _ _ value => value
  · exact fun _ _ value => value

section Faults

variable {told : Bool} {items : List Value} {fault : Fault}

theorem plainFault_list :
    PlainFault told (.list items) fault ↔ ∃ v ∈ items, PlainFault told v fault := by
  constructor
  · intro faulted
    cases faulted with
    | list member own => exact ⟨_, member, own⟩
  · exact fun ⟨v, member, own⟩ => .list member own

theorem plainFault_tuple :
    PlainFault told (.tuple items) fault ↔ PlainFault told (.list items) fault := by
  constructor
  · intro faulted
    cases faulted with
    | tuple listed => exact listed
  · exact .tuple

theorem plainFault_map {entries : Entries} :
    PlainFault told (.map entries) fault ↔ ∃ entry ∈ entries,
      holdsLongNumber entry.1 = true ∧ fault = .malformedValue ∨
        PlainFault told entry.2 fault := by
  constructor
  · intro faulted
    cases faulted with
    | key member long => exact ⟨_, member, .inl ⟨long, rfl⟩⟩
    | map member own => exact ⟨_, member, .inr own⟩
  · rintro ⟨entry, member, ⟨long, rfl⟩ | own⟩
    · exact .key member long
    · exact .map member own

theorem plainFault_record {fields : List (String × Value)} :
    PlainFault told (.record fields) fault ↔
      isCopyable (.record fields) = false ∧ fault = .wrongKind ∨
        ∃ field ∈ fields, PlainFault true field.2 fault := by
  constructor
  · intro faulted
    cases faulted with
    | uncopied uncopyable => exact .inl ⟨uncopyable, rfl⟩
    | record member own => exact .inr ⟨_, member, own⟩
  · rintro (⟨uncopyable, rfl⟩ | ⟨field, member, own⟩)
    · exact .uncopied uncopyable
    · exact .record member own

end Faults

section Lists

variable {ε α β γ : Type} {f : α → Except ε β}

theorem mapM_eq_ok {items : List α} {out : List β} :
    items.mapM f = .ok out ↔ List.Forall₂ (fun a b => f a = .ok b) items out := by
  induction items generalizing out with
  | nil => cases out <;> simp [List.mapM_nil, pure_eq_ok]
  | cons a items ih =>
    rw [List.mapM_cons]
    simp only [bind_eq_ok, pure_eq_ok, ih]
    cases out with
    | nil => simp
    | cons b out => simp [and_comm]

theorem mapM_eq_error {items : List α} {e : ε} (failed : items.mapM f = .error e) :
    ∃ a ∈ items, f a = .error e := by
  induction items with
  | nil => exact nomatch failed
  | cons a items ih =>
    rw [List.mapM_cons] at failed
    rcases bind_eq_error.mp failed with first | ⟨b, -, later⟩
    · exact ⟨a, List.mem_cons_self, first⟩
    · obtain ⟨a', member, own⟩ := ih (return_eq_error.mp later)
      exact ⟨a', List.mem_cons_of_mem a member, own⟩

theorem exists_of_mapM {items : List α} {out : List β} (taken : items.mapM f = .ok out) :
    (∀ a ∈ items, ∃ b ∈ out, f a = .ok b) ∧ ∀ b ∈ out, ∃ a ∈ items, f a = .ok b := by
  induction mapM_eq_ok.mp taken with
  | nil => exact ⟨List.forall_mem_nil _, List.forall_mem_nil _⟩
  | @cons a b items out own each ih =>
    obtain ⟨forth, back⟩ := ih (mapM_eq_ok.mpr each)
    refine ⟨List.forall_mem_cons.mpr ⟨⟨b, List.mem_cons_self, own⟩, fun a' member => ?_⟩,
      List.forall_mem_cons.mpr ⟨⟨a, List.mem_cons_self, own⟩, fun b' member => ?_⟩⟩
    · obtain ⟨b', there, own⟩ := forth a' member
      exact ⟨b', List.mem_cons_of_mem b there, own⟩
    · obtain ⟨a', there, own⟩ := back b' member
      exact ⟨a', List.mem_cons_of_mem a there, own⟩

theorem exists_mem_iff_of_mapM {P : α → Prop} {Q : β → Prop} {items : List α} {out : List β}
    (taken : items.mapM f = .ok out) (same : ∀ a ∈ items, ∀ b, f a = .ok b → (P a ↔ Q b)) :
    (∃ a ∈ items, P a) ↔ ∃ b ∈ out, Q b := by
  obtain ⟨forth, back⟩ := exists_of_mapM taken
  constructor
  · rintro ⟨a, member, held⟩
    obtain ⟨b, there, own⟩ := forth a member
    exact ⟨b, there, (same a member b own).mp held⟩
  · rintro ⟨b, there, held⟩
    obtain ⟨a, member, own⟩ := back b there
    exact ⟨a, member, (same a member b own).mpr held⟩

theorem forall₂_comp {R : α → β → Prop} {S : β → γ → Prop} {T : α → γ → Prop}
    {as : List α} {bs : List β} {cs : List γ} (first : List.Forall₂ R as bs)
    (second : List.Forall₂ S bs cs) (both : ∀ a ∈ as, ∀ b c, R a b → S b c → T a c) :
    List.Forall₂ T as cs := by
  induction first generalizing cs with
  | nil => cases second; exact .nil
  | @cons a b as bs own _ ih =>
    cases second with
    | cons next others =>
      exact .cons (both a List.mem_cons_self b _ own next)
        (ih others fun a' member => both a' (List.mem_cons_of_mem a member))

theorem map_eq_map {R : α → β → Prop} {g : α → γ} {h : β → γ} {as : List α} {bs : List β}
    (each : List.Forall₂ R as bs) (same : ∀ a b, R a b → g a = h b) : as.map g = bs.map h := by
  induction each with
  | nil => rfl
  | cons own _ ih => rw [List.map_cons, List.map_cons, same _ _ own, ih]

end Lists

variable {v u w : Value} {items : List Value} {fields : List (String × Value)}
  {entries told : Entries} {fault : Fault} {e : Failure}

/-! ### What is told -/

theorem expand_of_stays (stays : Stays v) : expand v = copy v := by
  cases stays <;> rfl

theorem expand_list_eq_ok :
    expand (.list items) = .ok u ↔ ∃ out, items.mapM expand = .ok out ∧ .list out = u := by
  rw [expand_list]
  simp only [bind_eq_ok, pure_eq_ok]

theorem expand_tuple_eq_ok : expand (.tuple items) = .ok u ↔
    ∃ out, expand (.list items) = .ok (.list out) ∧ .tuple out = u := by
  simp only [expand, bind_eq_ok, pure_eq_ok, Value.list.injEq, exists_eq_right]

theorem expand_map_eq_ok : expand (.map entries) = .ok u ↔
    ∃ out, (entries.mapM fun entry => do return (← copyKey entry.1, ← expand entry.2)) = .ok out ∧
      .map out = u := by
  rw [expand_map]
  simp only [bind_eq_ok, pure_eq_ok]

theorem expand_record_eq_ok : expand (.record fields) = .ok u ↔
    ∃ told, expandFields fields = .ok told ∧ .map told = u := by
  rw [expand]
  simp only [bind_eq_ok, pure_eq_ok]

theorem expandEntry_eq_ok {entry own : Key × Value} :
    (do return (← copyKey entry.1, ← expand entry.2) : Outcome (Key × Value)) = .ok own ↔
      copyKey entry.1 = .ok own.1 ∧ expand entry.2 = .ok own.2 := by
  obtain ⟨k, v⟩ := own
  simp only [bind_eq_ok, pure_eq_ok, Prod.mk.injEq]
  constructor
  · rintro ⟨key, copied, own, expanded, rfl, rfl⟩
    exact ⟨copied, expanded⟩
  · rintro ⟨copied, expanded⟩
    exact ⟨k, copied, v, expanded, rfl, rfl⟩

theorem expandField_eq_ok {field : String × Value} {own : Key × Value} :
    (do return (.str field.1, ← expand field.2) : Outcome (Key × Value)) = .ok own ↔
      own.1 = .str field.1 ∧ expand field.2 = .ok own.2 := by
  obtain ⟨k, v⟩ := own
  simp only [bind_eq_ok, pure_eq_ok, Prod.mk.injEq]
  constructor
  · rintro ⟨own, expanded, rfl, rfl⟩
    exact ⟨rfl, expanded⟩
  · rintro ⟨rfl, expanded⟩
    exact ⟨v, expanded, rfl, rfl⟩

theorem isCopyable_of_expand (expanded : expand v = .ok u) : isCopyable v = true := by
  induction v using nestedInduction generalizing u with
  | stays v stays =>
    rw [expand_of_stays stays] at expanded
    exact (eq_of_copy expanded).1
  | bytes bs => rfl
  | report content => exact (eq_of_copy expanded).1
  | list items ih =>
    obtain ⟨out, each, -⟩ := expand_list_eq_ok.mp expanded
    refine areCopyable_iff.mpr fun v member => ?_
    obtain ⟨_, -, own⟩ := (exists_of_mapM each).1 v member
    exact ih v member own
  | tuple items ih =>
    obtain ⟨out, each, -⟩ := expand_tuple_eq_ok.mp expanded
    exact ih each
  | map entries ih =>
    obtain ⟨out, each, -⟩ := expand_map_eq_ok.mp expanded
    refine areCopyableEntries_iff.mpr fun entry member => ?_
    obtain ⟨_, -, own⟩ := (exists_of_mapM each).1 entry member
    obtain ⟨key, own⟩ := expandEntry_eq_ok.mp own
    exact ⟨(eq_of_copyKey key).1, ih entry member own⟩
  | record fields ih =>
    obtain ⟨told, each, -⟩ := expand_record_eq_ok.mp expanded
    rw [expandFields_eq] at each
    refine areCopyableFields_iff.mpr fun field member => ?_
    obtain ⟨_, -, own⟩ := (exists_of_mapM each).1 field member
    exact ih field member (expandField_eq_ok.mp own).2
  | account fields content ih => exact ih expanded

theorem uncopyable_of_expand (failed : expand v = .error e) :
    e = .fault .wrongKind ∧ isCopyable v = false := by
  induction v using nestedInduction generalizing e with
  | stays v stays =>
    rw [expand_of_stays stays] at failed
    exact copy_eq_error failed
  | bytes | report => exact copy_eq_error failed
  | list items ih =>
    rw [expand_list, return_eq_error] at failed
    obtain ⟨v, member, own⟩ := mapM_eq_error failed
    obtain ⟨kind, uncopyable⟩ := ih v member own
    refine ⟨kind, Bool.eq_false_iff.mpr fun all => ?_⟩
    exact Bool.eq_false_iff.mp uncopyable (areCopyable_iff.mp all v member)
  | tuple items ih =>
    rw [expand, return_eq_error, expandItems_eq] at failed
    have listed : expand (.list items) = .error e := by
      rw [expand_list, return_eq_error, failed]
    exact ih listed
  | map entries ih =>
    rw [expand_map, return_eq_error] at failed
    obtain ⟨entry, member, own⟩ := mapM_eq_error failed
    rcases bind_eq_error.mp own with key | ⟨_, -, own⟩
    · obtain ⟨kind, uncopyable⟩ := copyKey_eq_error key
      refine ⟨kind, Bool.eq_false_iff.mpr fun all => ?_⟩
      exact Bool.eq_false_iff.mp uncopyable (areCopyableEntries_iff.mp all entry member).1
    · obtain ⟨kind, uncopyable⟩ := ih entry member (return_eq_error.mp own)
      refine ⟨kind, Bool.eq_false_iff.mpr fun all => ?_⟩
      exact Bool.eq_false_iff.mp uncopyable (areCopyableEntries_iff.mp all entry member).2
  | record fields ih =>
    rw [expand_record, return_eq_error] at failed
    obtain ⟨field, member, own⟩ := mapM_eq_error failed
    obtain ⟨kind, uncopyable⟩ := ih field member (return_eq_error.mp own)
    refine ⟨kind, Bool.eq_false_iff.mpr fun all => ?_⟩
    exact Bool.eq_false_iff.mp uncopyable (areCopyableFields_iff.mp all field member)
  | account fields content ih => exact ih failed

/-! ### Plain forms of what is told -/

theorem PlainOf.eq_of_stays {told : Bool} (form : PlainOf told v w) (stays : Stays v) : w = v := by
  cases form with
  | stays => rfl
  | bytes bs =>
    cases stays with
    | atom other => exact absurd rfl (other bs)
  | _ => cases stays

/-- What is told has the plain forms of what it was, standing in a record. -/
theorem plainOf_of_expand (expanded : expand v = .ok u) (form : PlainOf false u w) :
    PlainOf true v w := by
  induction v using nestedInduction generalizing u w with
  | stays v stays =>
    rw [expand_of_stays stays] at expanded
    cases (eq_of_copy expanded).2
    cases form.eq_of_stays stays
    exact .stays stays
  | bytes bs =>
    cases (eq_of_copy expanded).2
    cases form with
    | stays stays => exact .stays stays
    | bytes => exact .bytes bs
  | report content =>
    cases (eq_of_copy expanded).2
    cases form with
    | stays stays => cases stays
    | report form => exact .report form
  | list items ih =>
    obtain ⟨out, each, rfl⟩ := expand_list_eq_ok.mp expanded
    cases form with
    | stays stays => cases stays
    | list long own =>
      have forms := forall₂_comp (T := PlainOf true) (mapM_eq_ok.mp each)
        (List.forall₂_iff_zip.mpr ⟨long, own⟩) fun v member _ _ => ih v member
      exact .list forms.length_eq (List.forall₂_iff_zip.mp forms).2
  | tuple items ih =>
    obtain ⟨out, each, rfl⟩ := expand_tuple_eq_ok.mp expanded
    cases form with
    | stays stays => cases stays
    | tuple form => exact .tuple (ih each form)
  | map entries ih =>
    obtain ⟨out, each, rfl⟩ := expand_map_eq_ok.mp expanded
    have kept := (mapM_eq_ok.mp each).imp fun _ _ own => expandEntry_eq_ok.mp own
    cases form with
    | stays stays => cases stays
    | @map _ _ values long own =>
      have names : entries.map (fun entry => Literal.keyText entry.1)
          = out.map fun entry => Literal.keyText entry.1 :=
        map_eq_map kept fun entry own kept => by rw [(eq_of_copyKey kept.1).2]
      have forms := forall₂_comp (T := fun entry v => PlainOf true entry.2 v) kept
        (List.forall₂_iff_zip.mpr ⟨long, own⟩) fun entry member _ _ kept => ih entry member kept.2
      rw [← names]
      exact .map forms.length_eq (List.forall₂_iff_zip.mp forms).2
  | record fields ih =>
    obtain ⟨told, each, rfl⟩ := expand_record_eq_ok.mp expanded
    rw [expandFields_eq] at each
    have kept := (mapM_eq_ok.mp each).imp fun _ _ own => expandField_eq_ok.mp own
    cases form with
    | stays stays => cases stays
    | @map _ _ values long own =>
      have names : fields.map Prod.fst = told.map fun entry => Literal.keyText entry.1 :=
        map_eq_map kept fun field entry kept => by rw [kept.1]; rfl
      have forms := forall₂_comp (T := fun field v => PlainOf true field.2 v) kept
        (List.forall₂_iff_zip.mpr ⟨long, own⟩) fun field member _ _ kept => ih field member kept.2
      rw [← names]
      exact .record forms.length_eq (List.forall₂_iff_zip.mp forms).2
  | account fields content ih => exact .toldAccount (ih expanded form)

theorem fault_of_expand (expanded : expand v = .ok u) :
    PlainFault true v fault ↔ PlainFault false u fault := by
  induction v using nestedInduction generalizing u with
  | stays v stays =>
    rw [expand_of_stays stays] at expanded
    cases (eq_of_copy expanded).2
    cases stays <;> constructor <;> exact fun faulted => nomatch faulted
  | bytes bs =>
    cases (eq_of_copy expanded).2
    constructor <;> exact fun faulted => nomatch faulted
  | report content =>
    cases (eq_of_copy expanded).2
    constructor <;> exact fun | .report faulted => .report faulted
  | list items ih =>
    obtain ⟨out, each, rfl⟩ := expand_list_eq_ok.mp expanded
    rw [plainFault_list, plainFault_list]
    exact exists_mem_iff_of_mapM each fun v member u own => ih v member own
  | tuple items ih =>
    obtain ⟨out, each, rfl⟩ := expand_tuple_eq_ok.mp expanded
    rw [plainFault_tuple, plainFault_tuple]
    exact ih each
  | map entries ih =>
    obtain ⟨out, each, rfl⟩ := expand_map_eq_ok.mp expanded
    rw [plainFault_map, plainFault_map]
    refine exists_mem_iff_of_mapM each fun entry member own taken => ?_
    obtain ⟨key, taken⟩ := expandEntry_eq_ok.mp taken
    rw [(eq_of_copyKey key).2, ih entry member taken]
  | record fields ih =>
    have copied : ¬(isCopyable (.record fields) = false ∧ fault = .wrongKind) :=
      fun uncopied => Bool.eq_false_iff.mp uncopied.1 (isCopyable_of_expand expanded)
    obtain ⟨told, each, rfl⟩ := expand_record_eq_ok.mp expanded
    rw [expandFields_eq] at each
    rw [plainFault_record, plainFault_map, or_iff_right copied]
    refine exists_mem_iff_of_mapM each fun field member own taken => ?_
    obtain ⟨name, taken⟩ := expandField_eq_ok.mp taken
    -- the name of a field is a text, which holds no number
    have short : ¬(holdsLongNumber own.1 = true ∧ fault = .malformedValue) := by
      rw [name]
      exact fun long => nomatch long.1
    rw [or_iff_right short, ih field member taken]
  | account fields content ih =>
    rw [← ih expanded]
    exact ⟨fun | .toldAccount faulted => faulted, .toldAccount⟩

theorem fault_record (expanded : expandFields fields = .ok told) :
    PlainFault false (.record fields) fault ↔ PlainFault false (.map told) fault := by
  have whole : expand (.record fields) = .ok (.map told) :=
    expand_record_eq_ok.mpr ⟨told, expanded, rfl⟩
  rw [← fault_of_expand whole, plainFault_record, plainFault_record]

end ServiceCli.Report
