import ServiceCli.Data.Value

set_option autoImplicit false
set_option relaxedAutoImplicit false

namespace ServiceCli.Data.Entries

variable {entries : Entries} {name : String} {v : Value}

theorem get?_cons_str (s : String) (v : Value) (entries : Entries) (name : String) :
    get? ((.str s, v) :: entries) name = if s = name then some v else get? entries name := rfl

theorem get?_cons_of_ne {k : Key} (other : k ≠ .str name) (v : Value) (entries : Entries) :
    get? ((k, v) :: entries) name = get? entries name := by
  cases k with
  | atom a =>
    cases a with
    | str s =>
      have differ : s ≠ name := fun equal => other (equal ▸ rfl)
      rw [get?_cons_str, if_neg differ]
    | _ => rfl
  | _ => rfl

/-- What is found under a name stands in the first entry with that key. -/
theorem split_of_get? (found : get? entries name = some v) :
    ∃ before after, entries = before ++ (.str name, v) :: after
      ∧ ∀ entry ∈ before, entry.1 ≠ .str name := by
  induction entries with
  | nil => simp [get?] at found
  | cons entry entries ih =>
    obtain ⟨k, w⟩ := entry
    by_cases same : k = .str name
    · subst same
      rw [get?_cons_str, if_pos rfl] at found
      rw [Option.some.inj found]
      exact ⟨[], entries, rfl, by simp⟩
    · rw [get?_cons_of_ne same] at found
      obtain ⟨before, after, split, absent⟩ := ih found
      refine ⟨(k, w) :: before, after, by rw [split, List.cons_append], ?_⟩
      intro entry member
      rcases List.mem_cons.mp member with rfl | member
      · exact same
      · exact absent entry member

theorem mem_of_get? (found : get? entries name = some v) : (Key.str name, v) ∈ entries := by
  obtain ⟨before, after, rfl, -⟩ := split_of_get? found
  exact List.mem_append_right before List.mem_cons_self

theorem same_str (k : Key) (name : String) : k.same (.str name) = true ↔ k = .str name := by
  cases k with
  | atom a =>
    cases a <;> simp [Key.same, Scalar.same, Scalar.asInt?]
    split <;> simp_all
  | tuple items => simp [Key.same]
  | opaqueText s c => simp [Key.same]

theorem get?_append (first second : Entries) (name : String) :
    get? (first ++ second) name = (get? first name).or (get? second name) := by
  induction first with
  | nil => rfl
  | cons entry first ih =>
    obtain ⟨k, w⟩ := entry
    by_cases same : k = .str name
    · subst same
      rw [List.cons_append, get?_cons_str, get?_cons_str, if_pos rfl, if_pos rfl, Option.some_or]
    · rw [List.cons_append, get?_cons_of_ne same, get?_cons_of_ne same, ih]

variable {before after : Entries}

theorem get?_append_cons (absent : ∀ entry ∈ before, entry.1 ≠ .str name) :
    get? (before ++ (.str name, v) :: after) name = some v := by
  induction before with
  | nil => exact (get?_cons_str name v after name).trans (if_pos rfl)
  | cons entry before ih =>
    obtain ⟨k, w⟩ := entry
    rw [List.cons_append, get?_cons_of_ne (absent (k, w) List.mem_cons_self)]
    exact ih fun entry member => absent entry (List.mem_cons_of_mem _ member)

theorem get?_of_mem (differ : (entries.map Prod.fst).Nodup)
    (member : (Key.str name, v) ∈ entries) : get? entries name = some v := by
  obtain ⟨before, after, rfl⟩ := List.append_of_mem member
  rw [List.map_append, List.map_cons, List.nodup_append] at differ
  refine get?_append_cons fun entry earlier same => ?_
  exact differ.2.2 _ (List.mem_map_of_mem earlier) _ List.mem_cons_self same

theorem put_append_cons (absent : ∀ entry ∈ before, entry.1 ≠ .str name) (w : Value) :
    put (before ++ (.str name, v) :: after) (.str name) w
      = before ++ (.str name, w) :: after := by
  induction before with
  | nil =>
    have same : (Key.str name).same (.str name) = true := (same_str _ name).mpr rfl
    simp [put, same]
  | cons entry before ih =>
    obtain ⟨k, u⟩ := entry
    have differ : ¬ k.same (.str name) = true := fun same =>
      absent (k, u) List.mem_cons_self ((same_str k name).mp same)
    rw [List.cons_append, put, if_neg differ,
      ih fun entry member => absent entry (List.mem_cons_of_mem _ member), List.cons_append]

theorem put_of_absent (absent : ∀ entry ∈ entries, entry.1 ≠ .str name) (w : Value) :
    put entries (.str name) w = entries ++ [(.str name, w)] := by
  induction entries with
  | nil => rfl
  | cons entry entries ih =>
    obtain ⟨k, u⟩ := entry
    have differ : ¬ k.same (.str name) = true := fun same =>
      absent (k, u) List.mem_cons_self ((same_str k name).mp same)
    rw [put, if_neg differ, ih fun entry member => absent entry (List.mem_cons_of_mem _ member),
      List.cons_append]

/-- Pairs under new names that differ are put behind the entries, as they are written. -/
theorem foldl_put_of_nodup {pairs : List (Key × Value)} {done : Entries}
    (differ : ((done ++ pairs).map Prod.fst).Nodup)
    (texts : ∀ pair ∈ pairs, ∃ name, pair.1 = .str name) :
    pairs.foldl (fun entries (k, v) => put entries k v) done = done ++ pairs := by
  induction pairs generalizing done with
  | nil => exact (List.append_nil done).symm
  | cons pair pairs ih =>
    obtain ⟨k, v⟩ := pair
    obtain ⟨name, rfl⟩ : ∃ name, k = .str name := texts (k, v) List.mem_cons_self
    have absent : ∀ entry ∈ done, entry.1 ≠ .str name := by
      intro entry member same
      rw [List.map_append, List.nodup_append] at differ
      exact differ.2.2 _ (List.mem_map_of_mem member) _ (by simp) same
    have split : done ++ (.str name, v) :: pairs = put done (.str name) v ++ pairs := by
      rw [put_of_absent absent, List.append_assoc, List.singleton_append]
    rw [split] at differ ⊢
    exact ih differ fun pair member => texts pair (List.mem_cons_of_mem _ member)

theorem ofList_of_nodup {pairs : List (Key × Value)} (differ : (pairs.map Prod.fst).Nodup)
    (texts : ∀ pair ∈ pairs, ∃ name, pair.1 = .str name) : ofList pairs = pairs :=
  foldl_put_of_nodup differ texts

theorem get?_put_of_ne {other : String} (differ : other ≠ name) (w : Value) :
    get? (put entries (.str name) w) other = get? entries other := by
  induction entries with
  | nil =>
    have absent : Key.str name ≠ .str other := by simpa using differ.symm
    rw [put, get?_cons_of_ne absent]
  | cons entry entries ih =>
    obtain ⟨k, u⟩ := entry
    rw [put]
    split
    · rename_i same
      have absent : k ≠ .str other := by
        rw [(same_str k name).mp same]
        simpa using differ.symm
      rw [get?_cons_of_ne absent, get?_cons_of_ne absent]
    · by_cases there : k = .str other
      · subst there
        rw [get?_cons_str, get?_cons_str, if_pos rfl, if_pos rfl]
      · rw [get?_cons_of_ne there, get?_cons_of_ne there, ih]

theorem get?_put_same (w : Value) : get? (put entries (.str name) w) name = some w := by
  induction entries with
  | nil => rw [put, get?_cons_str, if_pos rfl]
  | cons entry entries ih =>
    obtain ⟨k, u⟩ := entry
    rw [put]
    split
    · rename_i same
      rw [(same_str k name).mp same, get?_cons_str, if_pos rfl]
    · rename_i other
      have differ : k ≠ .str name := fun equal => other ((same_str k name).mpr equal)
      rw [get?_cons_of_ne differ, ih]

theorem erase_cons_str (s : String) (v : Value) (entries : Entries) (name : String) :
    erase ((.str s, v) :: entries) name
      = if s = name then erase entries name else (.str s, v) :: erase entries name := by
  by_cases same : s = name <;> simp [erase, same]

theorem erase_cons_of_ne {k : Key} (other : ∀ s, k ≠ .str s) (v : Value) (entries : Entries)
    (name : String) : erase ((k, v) :: entries) name = (k, v) :: erase entries name := by
  rw [erase, List.filter_cons_of_pos]
  · rfl
  · split
    · rename_i s _ equal
      exact absurd (Prod.mk.inj equal).1 (other s)
    · rfl

theorem ne_of_mem_erase {entry : Key × Value} (member : entry ∈ erase entries name) :
    entry.1 ≠ .str name := by
  obtain ⟨k, v⟩ := entry
  rintro rfl
  have kept := (List.mem_filter.mp member).2
  simp at kept

theorem get?_erase_same (entries : Entries) (name : String) :
    get? (erase entries name) name = none := by
  rw [Option.eq_none_iff_forall_ne_some]
  intro v found
  exact ne_of_mem_erase (mem_of_get? found) rfl

theorem get?_erase_of_ne {other : String} (differ : other ≠ name) (entries : Entries) :
    get? (erase entries name) other = get? entries other := by
  induction entries with
  | nil => rfl
  | cons entry entries ih =>
    obtain ⟨k, v⟩ := entry
    by_cases text : ∃ s, k = .str s
    · obtain ⟨s, rfl⟩ := text
      rw [erase_cons_str]
      split
      · rename_i same
        rw [ih, get?_cons_str, if_neg (same ▸ differ.symm)]
      · rw [get?_cons_str, get?_cons_str, ih]
    · rw [not_exists] at text
      rw [erase_cons_of_ne text, get?_cons_of_ne (text other), get?_cons_of_ne (text other), ih]

theorem field_eq_of_get? (found : get? entries name = some v) : Value.field entries name = v := by
  rw [Value.field, found]
  rfl

theorem field_eq_null (absent : get? entries name = none) : Value.field entries name = .null := by
  rw [Value.field, absent]
  rfl

theorem field_erase_of_ne {other : String} (differ : other ≠ name) (entries : Entries) :
    Value.field (erase entries name) other = Value.field entries other := by
  rw [Value.field, get?_erase_of_ne differ, Value.field]

end ServiceCli.Data.Entries

/-! ### Equal keys

Mappings by the equality of their keys, where numbers of different kinds may be one key. The
equality is symmetric and transitive, so a value that is put under a key is held under every equal
key and changes nothing under the others.
-/

namespace ServiceCli.Number.Binary64

theorem equal_symm {x y : Binary64} (equal : x.equal y = true) : y.equal x = true := by
  cases x <;> cases y <;> simp_all only [Binary64.equal] <;> grind

theorem equal_trans {x y z : Binary64} (first : x.equal y = true) (second : y.equal z = true) :
    x.equal z = true := by
  cases x <;> cases y <;> cases z <;> simp_all only [Binary64.equal] <;> grind

end ServiceCli.Number.Binary64

namespace ServiceCli.Data

open ServiceCli.Number

namespace Moment

theorem same_symm {m n : Moment} (same : m.same n = true) : n.same m = true := by
  unfold Moment.same at same ⊢
  cases early : m.instant? <;> cases late : n.instant? <;> simp_all

theorem same_trans {l m n : Moment} (first : l.same m = true) (second : m.same n = true) :
    l.same n = true := by
  unfold Moment.same at first second ⊢
  cases early : l.instant? <;> cases middle : m.instant? <;> cases late : n.instant? <;> simp_all

end Moment

namespace Scalar

/-- Scalars that are the same count as one whole number, or they are of one kind. -/
inductive Alike : Scalar → Scalar → Prop
  | whole {a b : Scalar} {i : Int} : a.asInt? = some i → b.asInt? = some i → Alike a b
  | fraction {x y : Binary64} : x.toInt? = none → y.toInt? = none → x.equal y = true →
    Alike (.float x) (.float y)
  | moment {m n : Moment} : m.same n = true → Alike (.moment m) (.moment n)
  | itself {a : Scalar} : a.asInt? = none → (∀ x, a ≠ .float x) → (∀ m, a ≠ .moment m) → Alike a a

theorem same_iff_alike (a b : Scalar) : a.same b = true ↔ Alike a b := by
  constructor
  · intro same
    unfold Scalar.same at same
    cases first : a.asInt? with
    | some i =>
      cases second : b.asInt? with
      | none => simp [first, second] at same
      | some j =>
        rw [first, second] at same
        obtain rfl : i = j := eq_of_beq same
        exact .whole first second
    | none =>
      cases second : b.asInt? with
      | some j => simp [first, second] at same
      | none =>
        simp only [first, second] at same
        split at same
        · exact .fraction first second same
        · exact .moment same
        · rename_i floats moments
          obtain rfl : a = b := eq_of_beq same
          exact .itself first (fun x equal => floats x x equal equal)
            fun m equal => moments m m equal equal
  · rintro (⟨first, second⟩ | ⟨first, second, equal⟩ | same | ⟨none, floats, moments⟩)
    · simp [Scalar.same, first, second]
    · simp [Scalar.same, asInt?, first, second, equal]
    · simp [Scalar.same, asInt?, same]
    · cases a <;> simp_all [Scalar.same]

theorem same_symm {a b : Scalar} (same : a.same b = true) : b.same a = true := by
  rw [same_iff_alike] at same ⊢
  cases same with
  | whole first second => exact .whole second first
  | fraction first second equal => exact .fraction second first (Binary64.equal_symm equal)
  | moment same => exact .moment (Moment.same_symm same)
  | itself none floats moments => exact .itself none floats moments

theorem same_trans {a b c : Scalar} (first : a.same b = true) (second : b.same c = true) :
    a.same c = true := by
  rw [same_iff_alike] at first second ⊢
  cases first with
  | whole own other =>
    cases second with
    | whole again third =>
      cases other.symm.trans again
      exact .whole own third
    | fraction again => cases other.symm.trans again
    | moment => cases other
    | itself again => cases other.symm.trans again
  | fraction own other equal =>
    cases second with
    | whole again => cases other.symm.trans again
    | fraction _ third equal' => exact .fraction own third (Binary64.equal_trans equal equal')
    | itself _ floats => exact absurd rfl (floats _)
  | moment same =>
    cases second with
    | whole again => cases again
    | moment same' => exact .moment (Moment.same_trans same same')
    | itself _ _ moments => exact absurd rfl (moments _)
  | itself => exact second

end Scalar

mutual
theorem Key.same_symm : ∀ {k l : Key}, k.same l = true → l.same k = true
  | .atom a, l, same => by
    cases l with
    | atom b => exact Scalar.same_symm same
    | _ => exact same
  | .tuple xs, l, same => by
    cases l with
    | tuple ys => exact Key.sameAll_symm same
    | _ => exact same
  | .opaqueText s c, l, same => by
    cases l with
    | opaqueText t d =>
      rw [Key.same, Bool.and_eq_true, beq_iff_eq, beq_iff_eq] at same ⊢
      exact ⟨same.1.symm, same.2.symm⟩
    | _ => exact same
theorem Key.sameAll_symm :
    ∀ {ks ls : List Key}, Key.sameAll ks ls = true → Key.sameAll ls ks = true
  | [], ls, same => by
    cases ls with
    | nil => rfl
    | cons l ls => exact same
  | k :: ks, ls, same => by
    cases ls with
    | nil => exact same
    | cons l ls =>
      rw [Key.sameAll, Bool.and_eq_true] at same ⊢
      exact ⟨Key.same_symm same.1, Key.sameAll_symm same.2⟩
end

mutual
theorem Key.same_trans :
    ∀ {j k l : Key}, j.same k = true → k.same l = true → j.same l = true
  | .atom a, k, l, first, second => by
    cases k with
    | atom b =>
      cases l with
      | atom c => exact Scalar.same_trans first second
      | _ => exact second
    | _ => exact nomatch first
  | .tuple xs, k, l, first, second => by
    cases k with
    | tuple ys =>
      cases l with
      | tuple zs => exact Key.sameAll_trans first second
      | _ => exact second
    | _ => exact nomatch first
  | .opaqueText s c, k, l, first, second => by
    cases k with
    | opaqueText t d =>
      rw [Key.same, Bool.and_eq_true, beq_iff_eq, beq_iff_eq] at first
      rw [first.1, first.2]
      exact second
    | _ => exact nomatch first
theorem Key.sameAll_trans : ∀ {js ks ls : List Key},
    Key.sameAll js ks = true → Key.sameAll ks ls = true → Key.sameAll js ls = true
  | [], ks, ls, first, second => by
    cases ks with
    | nil => exact second
    | cons k ks => exact nomatch first
  | j :: js, ks, ls, first, second => by
    cases ks with
    | nil => exact nomatch first
    | cons k ks =>
      cases ls with
      | nil => exact second
      | cons l ls =>
        rw [Key.sameAll, Bool.and_eq_true] at first second ⊢
        exact ⟨Key.same_trans first.1 second.1, Key.sameAll_trans first.2 second.2⟩
end

namespace Entries

/-- The value that a mapping holds under a key or an equal one. -/
def held? : Entries → Key → Option Value
  | [], _ => none
  | (k, v) :: rest, key => if k.same key then some v else held? rest key

/-- No two keys of a mapping are equal. -/
def IsDict (entries : Entries) : Prop :=
  (entries.map Prod.fst).Pairwise fun k l => ¬k.same l = true

/-- Two mappings hold the same under every key. -/
def SameMapping (entries others : Entries) : Prop := ∀ key, entries.held? key = others.held? key

variable {entries : Entries} {k l : Key} {v : Value}

theorem held?_eq_none : entries.held? k = none ↔ ∀ l ∈ entries.map Prod.fst, ¬l.same k = true := by
  induction entries with
  | nil => simp [held?]
  | cons entry entries ih =>
    by_cases same : entry.1.same k = true
    · simp [held?, same]
    · simp only [held?, if_neg same, ih, List.map_cons, List.forall_mem_cons]
      exact ⟨fun others => ⟨same, others⟩, And.right⟩

theorem held?_put :
    (put entries k v).held? l = if k.same l = true then some v else entries.held? l := by
  induction entries with
  | nil => rfl
  | cons entry entries ih =>
    obtain ⟨j, w⟩ := entry
    by_cases found : j.same k = true
    · have first : put ((j, w) :: entries) k v = (j, v) :: entries := by simp [put, found]
      rw [first]
      by_cases same : k.same l = true
      · have also : j.same l = true := Key.same_trans found same
        simp [held?, same, also]
      · have neither : ¬j.same l = true := fun also =>
          same (Key.same_trans (Key.same_symm found) also)
        simp [held?, same, neither]
    · have later : put ((j, w) :: entries) k v = (j, w) :: put entries k v := by simp [put, found]
      rw [later, held?, held?, ih]
      by_cases same : k.same l = true
      · have other : ¬j.same l = true := fun also =>
          found (Key.same_trans also (Key.same_symm same))
        simp [same, other]
      · simp [same]

theorem keys_put : (put entries k v).map Prod.fst
    = if (entries.held? k).isNone then entries.map Prod.fst ++ [k] else entries.map Prod.fst := by
  induction entries with
  | nil => rfl
  | cons entry entries ih =>
    obtain ⟨j, w⟩ := entry
    by_cases found : j.same k = true
    · simp [put, held?, found]
    · simp only [put, held?, if_neg found, List.map_cons, ih]
      split <;> rfl

theorem IsDict.put (dict : IsDict entries) (k : Key) (v : Value) : IsDict (put entries k v) := by
  rw [IsDict, keys_put]
  split
  · rename_i new
    rw [Option.isNone_iff_eq_none, held?_eq_none] at new
    refine List.pairwise_append.mpr ⟨dict, List.pairwise_singleton _ _, ?_⟩
    intro j member l last
    rw [List.mem_singleton.mp last]
    exact new j member
  · exact dict

theorem IsDict.held?_rest (dict : IsDict ((k, v) :: entries)) (same : k.same l = true) :
    entries.held? l = none := by
  rw [held?_eq_none]
  intro j member also
  exact (List.pairwise_cons.mp dict).1 j member (Key.same_trans same (Key.same_symm also))

end Entries

end ServiceCli.Data
