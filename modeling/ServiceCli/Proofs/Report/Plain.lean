import Mathlib.Algebra.Group.Int.Defs
import Mathlib.Algebra.Group.Nat.Defs
import ServiceCli.Proofs.Data.JsonValue
import ServiceCli.Proofs.Report.Telling

set_option autoImplicit false
set_option relaxedAutoImplicit false

namespace ServiceCli.Report

open ServiceCli.Data ServiceCli.Number
open ServiceCli.Json (MembersHave)
open Outcome (bind_eq_error bind_eq_ok error_bind pure_eq_ok return_eq_error)

/-- A value in plain form: it holds no bytes, tuple, record, report or account, unless in something
that stays, and the keys of its mappings are texts, each once. -/
inductive IsPlain : Value → Prop
  | stays {v : Value} : Stays v → IsPlain v
  | list {items : List Value} : (∀ v ∈ items, IsPlain v) → IsPlain (.list items)
  | map {entries : Entries} : (entries.map Prod.fst).Nodup →
    (∀ entry ∈ entries, ∃ name, entry.1 = .str name) → (∀ entry ∈ entries, IsPlain entry.2) →
      IsPlain (.map entries)

/-- What holds of every value when it holds of those that are brought into plain form on the way. -/
@[elab_as_elim]
theorem plainInduction {P : Value → Prop} (stays : ∀ v, Stays v → P v)
    (bytes : ∀ bs, P (.bytes bs))
    (list : ∀ items, (∀ v ∈ items, P v) → P (.list items))
    (tuple : ∀ items, P (.list items) → P (.tuple items))
    (map : ∀ entries, (∀ entry ∈ entries, P entry.2) → P (.map entries))
    (record : ∀ fields, (∀ told, expandFields fields = .ok told → P (.map told)) →
      P (.record fields))
    (report : ∀ content, P content → P (.report content))
    (account : ∀ fields content, P content → P (.account fields content)) (v : Value) : P v := by
  refine plain.induct P (fun items => ∀ v ∈ items, P v)
    (fun entries => ∀ entry ∈ entries, P entry.2) report account ?record ?failed map list
    (fun items each => tuple items (list items each)) bytes ?leaf
    (List.forall_mem_nil _) (fun v rest own others => List.forall_mem_cons.mpr ⟨own, others⟩)
    (List.forall_mem_nil _) (fun k v rest own others => List.forall_mem_cons.mpr ⟨own, others⟩) v
  case record =>
    intro fields told expanded held
    refine record fields fun other again => ?_
    cases expanded.symm.trans again
    exact held
  case failed =>
    intro fields e failed
    refine record fields fun told expanded => ?_
    cases failed.symm.trans expanded
  case leaf =>
    intro v noReport noAccount noRecord noMap noList noTuple noBytes
    cases v with
    | atom a => exact stays _ (.atom fun bs same => noBytes bs (congrArg Value.atom same))
    | set items => exact stays _ (.set items)
    | stream path position closed => exact stays _ (.stream path position closed)
    | opaqueText text copyable => exact stays _ (.opaqueText text copyable)
    | list items => exact (noList items rfl).elim
    | tuple items => exact (noTuple items rfl).elim
    | map entries => exact (noMap entries rfl).elim
    | record fields => exact (noRecord fields rfl).elim
    | report content => exact (noReport content rfl).elim
    | account fields content => exact (noAccount fields content rfl).elim

variable {v w : Value} {items : List Value} {entries : Entries} {fault : Fault} {e : Failure}

theorem plain_of_stays (stays : Stays v) : plain v = .ok v := by
  cases stays with
  | @atom a other =>
    cases a with
    | bytes bs => exact absurd rfl (other bs)
    | _ => simp [plain]
  | set items => simp [plain]
  | stream path position closed => simp [plain]
  | opaqueText text copyable => simp [plain]

theorem plain_list_eq_ok :
    plain (.list items) = .ok w ↔ ∃ out, items.mapM plain = .ok out ∧ .list out = w := by
  rw [plain, plainItems_eq]
  simp only [bind_eq_ok, pure_eq_ok]

theorem plain_map_eq_ok : plain (.map entries) = .ok w ↔
    ∃ pairs, (entries.mapM fun entry => do return (← keyName entry.1, ← plain entry.2))
      = .ok pairs ∧ .map (Entries.ofList pairs) = w := by
  rw [plain, plainEntries_eq]
  simp only [bind_eq_ok, pure_eq_ok]

theorem plain_record (fields : List (String × Value)) : plain (.record fields)
    = expandFields fields >>= fun told => plain (.map told) := by
  rw [plain]
  split
  · rename_i told expanded
    rw [expanded]
    rfl
  · rename_i e failed
    rw [failed]
    rfl

theorem eq_of_keyName {k l : Key} (named : keyName k = .ok l) :
    holdsLongNumber k = false ∧ l = .str (Literal.keyText k) := by
  rw [keyName] at named
  split at named
  · cases named
  · rename_i short
    exact ⟨Bool.eq_false_iff.mpr short, (Except.ok.inj named).symm⟩

theorem keyName_eq_error {k : Key} (failed : keyName k = .error e) :
    e = .fault .malformedValue ∧ holdsLongNumber k = true := by
  rw [keyName] at failed
  split at failed
  · rename_i long
    cases failed
    exact ⟨rfl, long⟩
  · cases failed

theorem plainEntry_eq_ok {entry own : Key × Value} :
    (do return (← keyName entry.1, ← plain entry.2) : Outcome (Key × Value)) = .ok own ↔
      keyName entry.1 = .ok own.1 ∧ plain entry.2 = .ok own.2 := by
  obtain ⟨k, v⟩ := own
  simp only [bind_eq_ok, pure_eq_ok, Prod.mk.injEq]
  constructor
  · rintro ⟨key, named, own, made, rfl, rfl⟩
    exact ⟨named, made⟩
  · rintro ⟨named, made⟩
    exact ⟨k, named, v, made, rfl, rfl⟩

theorem membersHave_ofList {P : Value → Prop} {pairs : List (Key × Value)}
    (held : ∀ pair ∈ pairs, (∃ name, pair.1 = .str name) ∧ P pair.2) :
    MembersHave P (Entries.ofList pairs) := by
  have onto : ∀ (pairs : List (Key × Value)) (done : Entries), MembersHave P done →
      (∀ pair ∈ pairs, (∃ name, pair.1 = .str name) ∧ P pair.2) →
        MembersHave P (pairs.foldl (fun entries pair => entries.put pair.1 pair.2) done) := by
    intro pairs
    induction pairs with
    | nil => exact fun done members _ => members
    | cons pair pairs ih =>
      intro done members held
      obtain ⟨k, v⟩ := pair
      obtain ⟨⟨⟨name, rfl⟩, own⟩, others⟩ := List.forall_mem_cons.mp held
      exact ih _ (members.put name own) others
  exact onto pairs [] ⟨List.nodup_nil, List.forall_mem_nil _⟩ held

theorem IsPlain.of_membersHave {entries : Entries} (members : MembersHave IsPlain entries) :
    IsPlain (.map entries) :=
  .map members.1 (fun entry member => (members.2 entry member).1)
    fun entry member => (members.2 entry member).2

theorem isPlain_of_plain (made : plain v = .ok w) : IsPlain w := by
  induction v using plainInduction generalizing w with
  | stays v stays =>
    cases (plain_of_stays stays).symm.trans made
    exact .stays stays
  | bytes bs =>
    rw [plain] at made
    cases made
    exact .stays (.atom (by simp))
  | list items ih =>
    obtain ⟨out, each, rfl⟩ := plain_list_eq_ok.mp made
    refine .list fun w member => ?_
    obtain ⟨v, there, own⟩ := (exists_of_mapM each).2 w member
    exact ih v there own
  | tuple items ih =>
    rw [plain_tuple] at made
    exact ih made
  | map entries ih =>
    obtain ⟨pairs, each, rfl⟩ := plain_map_eq_ok.mp made
    refine .of_membersHave (membersHave_ofList fun pair member => ?_)
    obtain ⟨entry, there, own⟩ := (exists_of_mapM each).2 pair member
    obtain ⟨key, own⟩ := plainEntry_eq_ok.mp own
    exact ⟨⟨_, (eq_of_keyName key).2⟩, ih entry there own⟩
  | record fields ih =>
    rw [plain_record] at made
    obtain ⟨told, expanded, made⟩ := bind_eq_ok.mp made
    exact ih told expanded made
  | report content ih =>
    rw [plain] at made
    exact ih made
  | account fields content ih =>
    rw [plain] at made
    exact ih made

theorem plain_of_isPlain (form : IsPlain v) : plain v = .ok v := by
  induction form with
  | stays stays => exact plain_of_stays stays
  | @list items _ ih =>
    have each : items.mapM plain = .ok items := mapM_eq_ok.mpr (List.forall₂_same.mpr ih)
    exact plain_list_eq_ok.mpr ⟨items, each, rfl⟩
  | @map entries differ texts _ ih =>
    have whole : Entries.ofList entries = entries := Entries.ofList_of_nodup differ texts
    refine plain_map_eq_ok.mpr ⟨entries, mapM_eq_ok.mpr ?_, congrArg Value.map whole⟩
    refine List.forall₂_same.mpr fun entry member => ?_
    obtain ⟨name, key⟩ := texts entry member
    refine plainEntry_eq_ok.mpr ⟨?_, ih entry member⟩
    rw [key]
    rfl

theorem plainOf_of_plain (made : plain v = .ok w) : PlainOf false v w := by
  induction v using plainInduction generalizing w with
  | stays v stays =>
    cases (plain_of_stays stays).symm.trans made
    exact .stays stays
  | bytes bs =>
    rw [plain] at made
    cases made
    exact .bytes bs
  | list items ih =>
    obtain ⟨out, each, rfl⟩ := plain_list_eq_ok.mp made
    obtain ⟨long, own⟩ := List.forall₂_iff_zip.mp (mapM_eq_ok.mp each)
    exact .list long fun pair => ih _ (List.of_mem_zip pair).1 (own pair)
  | tuple items ih =>
    rw [plain_tuple] at made
    have form := ih made
    obtain ⟨out, -, rfl⟩ := plain_list_eq_ok.mp made
    exact .tuple form
  | map entries ih =>
    obtain ⟨pairs, taken, rfl⟩ := plain_map_eq_ok.mp made
    have each := (mapM_eq_ok.mp taken).imp fun _ _ own => plainEntry_eq_ok.mp own
    obtain ⟨long, own⟩ := List.forall₂_iff_zip.mp each
    have keys : (entries.map fun entry => Literal.keyText entry.1).map Key.str
        = pairs.map Prod.fst := by
      rw [List.map_map]
      exact map_eq_map each fun entry own made => (eq_of_keyName made.1).2.symm
    have values : List.Forall₂ (fun entry w => PlainOf false entry.2 w) entries
        (pairs.map Prod.snd) := by
      refine List.forall₂_map_right_iff.mpr (List.forall₂_iff_zip.mpr ⟨long, fun pair => ?_⟩)
      exact ih _ (List.of_mem_zip pair).1 (own pair).2
    have whole : ((entries.map fun entry => Literal.keyText entry.1).map Key.str).zip
        (pairs.map Prod.snd) = pairs := by
      rw [keys, List.zip_map', List.map_id']
    have form := PlainOf.map values.length_eq (List.forall₂_iff_zip.mp values).2
    rwa [underTexts, whole] at form
  | record fields ih =>
    rw [plain_record] at made
    obtain ⟨told, expanded, made⟩ := bind_eq_ok.mp made
    have form : PlainOf true (.record fields) w :=
      plainOf_of_expand (expand_record_eq_ok.mpr ⟨told, expanded, rfl⟩) (ih told expanded made)
    cases form with
    | record long own => exact .record long own
    | stays stays => cases stays
  | report content ih =>
    rw [plain] at made
    exact .report (ih made)
  | account fields content ih =>
    rw [plain] at made
    exact .account (ih made)

/-- Where there is no plain form, this is for a cause that the value shows. -/
theorem fault_of_plain (failed : plain v = .error e) :
    ∃ fault, e = .fault fault ∧ PlainFault false v fault := by
  induction v using plainInduction generalizing e with
  | stays v stays => cases (plain_of_stays stays).symm.trans failed
  | bytes bs =>
    rw [plain] at failed
    cases failed
  | list items ih =>
    rw [plain, plainItems_eq, return_eq_error] at failed
    obtain ⟨v, member, own⟩ := mapM_eq_error failed
    obtain ⟨fault, rfl, faulted⟩ := ih v member own
    exact ⟨fault, rfl, .list member faulted⟩
  | tuple items ih =>
    rw [plain_tuple] at failed
    obtain ⟨fault, rfl, faulted⟩ := ih failed
    exact ⟨fault, rfl, .tuple faulted⟩
  | map entries ih =>
    rw [plain, plainEntries_eq, return_eq_error] at failed
    obtain ⟨entry, member, own⟩ := mapM_eq_error failed
    rcases bind_eq_error.mp own with key | ⟨_, -, own⟩
    · obtain ⟨rfl, long⟩ := keyName_eq_error key
      exact ⟨_, rfl, .key member long⟩
    · obtain ⟨fault, rfl, faulted⟩ := ih entry member (return_eq_error.mp own)
      exact ⟨fault, rfl, .map member faulted⟩
  | record fields ih =>
    rw [plain_record] at failed
    rcases bind_eq_error.mp failed with failed | ⟨told, expanded, failed⟩
    · have untold : expand (.record fields) = .error e := by
        rw [expand, failed, error_bind]
      obtain ⟨rfl, uncopyable⟩ := uncopyable_of_expand untold
      exact ⟨_, rfl, .uncopied uncopyable⟩
    · obtain ⟨fault, rfl, faulted⟩ := ih told expanded failed
      exact ⟨fault, rfl, (fault_record expanded).mpr faulted⟩
  | report content ih =>
    rw [plain] at failed
    obtain ⟨fault, rfl, faulted⟩ := ih failed
    exact ⟨fault, rfl, .report faulted⟩
  | account fields content ih =>
    rw [plain] at failed
    obtain ⟨fault, rfl, faulted⟩ := ih failed
    exact ⟨fault, rfl, .account faulted⟩

/-- Where there is a plain form, the value shows no cause against it. -/
theorem not_fault_of_plain (made : plain v = .ok w) : ¬PlainFault false v fault := by
  induction v using plainInduction generalizing w fault with
  | stays v stays => cases stays <;> exact fun faulted => nomatch faulted
  | bytes bs => exact fun faulted => nomatch faulted
  | list items ih =>
    obtain ⟨out, each, rfl⟩ := plain_list_eq_ok.mp made
    rw [plainFault_list]
    rintro ⟨v, member, faulted⟩
    obtain ⟨w, -, own⟩ := (exists_of_mapM each).1 v member
    exact ih v member own faulted
  | tuple items ih =>
    rw [plain_tuple] at made
    rw [plainFault_tuple]
    exact ih made
  | map entries ih =>
    obtain ⟨pairs, each, rfl⟩ := plain_map_eq_ok.mp made
    rw [plainFault_map]
    rintro ⟨entry, member, cause⟩
    obtain ⟨pair, -, own⟩ := (exists_of_mapM each).1 entry member
    obtain ⟨key, own⟩ := plainEntry_eq_ok.mp own
    rcases cause with ⟨long, -⟩ | faulted
    · exact Bool.eq_false_iff.mp (eq_of_keyName key).1 long
    · exact ih entry member own faulted
  | record fields ih =>
    rw [plain_record] at made
    obtain ⟨told, expanded, made⟩ := bind_eq_ok.mp made
    exact fun faulted => ih told expanded made ((fault_record expanded).mp faulted)
  | report content ih =>
    rw [plain] at made
    intro faulted
    cases faulted with
    | report faulted => exact ih made faulted
  | account fields content ih =>
    rw [plain] at made
    intro faulted
    cases faulted with
    | account faulted => exact ih made faulted

/-- A value is brought into plain form, place by place, where a list or a tuple becomes a list of as
many items, and the result is in plain form and stays as it is; or it is at fault. It is at fault
exactly when it has a record that cannot be copied, since that holds a stream or something else that
refuses to be, or a mapping with a whole number in its keys that has too many digits for a text. -/
theorem plain_settled (v : Value) :
    ((∃ w, plain v = .ok w) ∨ ∃ fault, plain v = faulty fault ∧ PlainFault false v fault) ∧
    ((∃ w, plain v = .ok w) ↔ ∀ fault, ¬PlainFault false v fault) ∧
    ∀ w, plain v = .ok w → PlainOf false v w ∧ IsPlain w ∧ plain w = .ok w ∧
      ∀ items, v = .list items ∨ v = .tuple items →
        ∃ out, w = .list out ∧ out.length = items.length := by
  refine ⟨?outcome, ⟨?sound, ?complete⟩, fun w made => ?form⟩
  case outcome =>
    cases made : plain v with
    | ok w => exact .inl ⟨w, rfl⟩
    | error e =>
      obtain ⟨fault, rfl, faulted⟩ := fault_of_plain made
      exact .inr ⟨fault, rfl, faulted⟩
  case sound => exact fun ⟨w, made⟩ fault => not_fault_of_plain made
  case complete =>
    intro sound
    cases made : plain v with
    | ok w => exact ⟨w, rfl⟩
    | error e =>
      obtain ⟨fault, -, faulted⟩ := fault_of_plain made
      exact absurd faulted (sound fault)
  have form : IsPlain w := isPlain_of_plain made
  refine ⟨plainOf_of_plain made, form, plain_of_isPlain form, ?_⟩
  rintro items (rfl | rfl)
  · obtain ⟨out, each, rfl⟩ := plain_list_eq_ok.mp made
    exact ⟨out, rfl, (mapM_eq_ok.mp each).length_eq.symm⟩
  · rw [plain_tuple] at made
    obtain ⟨out, each, rfl⟩ := plain_list_eq_ok.mp made
    exact ⟨out, rfl, (mapM_eq_ok.mp each).length_eq.symm⟩

theorem length_toDigits_pow (n : Nat) : (Nat.toDigits 10 (10 ^ n)).length = n + 1 := by
  induction n with
  | zero => rfl
  | succ n ih =>
    have large : ¬10 ^ n * 10 < 10 := by
      have positive : 0 < 10 ^ n := Nat.pow_pos (by decide)
      omega
    rw [Nat.pow_succ, Nat.toDigits_eq_if (by decide), if_neg large, List.length_append,
      Nat.mul_div_cancel _ (by decide), ih, List.length_singleton]

theorem holdsLongNumber_pow {n : Nat} (long : digitLimit ≤ n) :
    holdsLongNumber (.atom (.int (10 ^ n))) = true := by
  rw [holdsLongNumber, Int.natAbs_pow, decide_eq_true_eq]
  exact Nat.lt_of_lt_of_eq (Nat.lt_succ_of_le long) (length_toDigits_pow n).symm

/-- A whole number of one digit more than can be written. -/
private def longNumber : Int := 10 ^ digitLimit

/-- A record that holds an open stream has no plain form, and neither has a mapping with a long
number for a key. -/
theorem plain_settled_stream :
    plain (.record [("body", .stream "a.bin" 0 false)]) = faulty .wrongKind ∧
    plain (.map [(.atom (.int longNumber), .null)]) = faulty .malformedValue := by
  constructor
  · rw [plain_record]
    rfl
  · have long : holdsLongNumber (.atom (.int longNumber)) = true :=
      holdsLongNumber_pow (Nat.le_refl digitLimit)
    rw [plain, plainEntries, keyName, if_pos long]
    rfl

end ServiceCli.Report
