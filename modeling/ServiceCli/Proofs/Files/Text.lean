import ServiceCli.Files.Path
import ServiceCli.Files.Text
import ServiceCli.Proofs.Files.Growth
import ServiceCli.Proofs.Text.Utf8

set_option autoImplicit false
set_option relaxedAutoImplicit false

namespace ServiceCli.Files

open Outcome (bind_eq_error)

/-- The text, with unified line ends, that some bytes encode. -/
def HoldsText (bytes : List UInt8) (text : String) : Prop :=
  ∃ s, Text.encode s = bytes ∧ String.ofList (Text.unifyLines s.toList) = text

def HoldsNoText (bytes : List UInt8) : Prop := ∀ s, Text.encode s ≠ bytes

section Bytes

variable {bytes : List UInt8} {text : String}

theorem textOfBytes_eq_ok : textOfBytes bytes = .ok text ↔ HoldsText bytes text := by
  rw [textOfBytes, HoldsText]
  cases read : Text.decode bytes with
  | error e =>
    refine iff_of_false nofun ?_
    rintro ⟨s, encodes, -⟩
    exact nomatch read.symm.trans (Text.decode_eq_ok_iff.mpr encodes)
  | ok s =>
    have encodes := Text.decode_eq_ok_iff.mp read
    refine ⟨fun same => ⟨s, encodes, Except.ok.inj same⟩, ?_⟩
    rintro ⟨other, again, rfl⟩
    cases Except.ok.inj (read.symm.trans (Text.decode_eq_ok_iff.mpr again))
    rfl

theorem textOfBytes_eq_error {e : TextError} (failed : textOfBytes bytes = .error e) :
    HoldsNoText bytes ∧ ∃ cause, e = .encoding cause bytes := by
  rw [textOfBytes] at failed
  cases read : Text.decode bytes with
  | error cause =>
    rw [read] at failed
    refine ⟨fun s encodes => ?_, cause, (Except.error.inj failed).symm⟩
    exact nomatch read.symm.trans (Text.decode_eq_ok_iff.mpr encodes)
  | ok s =>
    rw [read] at failed
    exact nomatch failed

end Bytes

/-- A path whose text or one of whose names is longer than the system takes. -/
def Path.IsLong (p : Path) : Prop :=
  pathLimit < p.text.utf8ByteSize ∨ ∃ name ∈ p.names, nameLimit < name.utf8ByteSize

namespace System

section Finding

variable {s : System} {p : Path} {cause : SystemError}

theorem accept_eq_error {e : PathError} (failed : accept p = .error e) :
    e = .unnameable ∧ p.isUnnameable = true ∨
      e = .refused .nameTooLong ∧ pathLimit < p.text.utf8ByteSize := by
  rw [accept] at failed
  split at failed
  · rename_i unnameable
    exact .inl ⟨(Except.error.inj failed).symm, unnameable⟩
  · split at failed
    · rename_i long
      exact .inr ⟨(Except.error.inj failed).symm, long⟩
    · cases failed

theorem follow_eq_refused {tree : Tree} {place : Place} {names : List String}
    (failed : follow tree place names = refused cause) :
    cause = .notFound ∨ cause = .notDirectory ∨
      cause = .nameTooLong ∧ ∃ name ∈ names, nameLimit < name.utf8ByteSize := by
  induction names generalizing place with
  | nil => exact nomatch failed
  | cons name names ih =>
    have later {place : Place} (failed : follow tree place names = refused cause) :
        cause = .notFound ∨ cause = .notDirectory ∨
          cause = .nameTooLong ∧ ∃ name' ∈ name :: names, nameLimit < name'.utf8ByteSize := by
      obtain missing | blocked | ⟨named, other, member, long⟩ := ih failed
      · exact .inl missing
      · exact .inr (.inl blocked)
      · exact .inr (.inr ⟨named, other, List.mem_cons_of_mem name member, long⟩)
    rw [follow] at failed
    split at failed
    · split at failed
      · exact later failed
      · split at failed
        · rename_i long
          cases failed
          exact .inr (.inr ⟨rfl, name, List.mem_cons_self, long⟩)
        · split at failed
          · exact later failed
          · cases failed
            exact .inl rfl
    · cases failed
      exact .inr (.inl rfl)
    · cases failed
      exact .inl rfl

theorem find_eq_refused (failed : s.find p = refused cause) :
    cause = .notFound ∨ cause = .notDirectory ∨ cause = .nameTooLong ∧ p.IsLong := by
  rcases bind_eq_error.mp failed with unlocated | ⟨place, -, missing⟩
  · rcases bind_eq_error.mp unlocated with untaken | ⟨_, -, unfollowed⟩
    · obtain ⟨same, -⟩ | ⟨same, long⟩ := accept_eq_error untaken
      · exact nomatch same
      · cases same
        exact .inr (.inr ⟨rfl, .inl long⟩)
    · obtain missing | blocked | ⟨named, long⟩ := follow_eq_refused unfollowed
      · exact .inl missing
      · exact .inr (.inl blocked)
      · exact .inr (.inr ⟨named, .inr long⟩)
  · split at missing
    · exact nomatch missing
    · cases missing
      exact .inl rfl

theorem find_eq_unnameable : s.find p = .error .unnameable ↔ p.isUnnameable = true := by
  constructor
  · intro failed
    by_contra nameable
    obtain ⟨cause, same⟩ := s.find_isSystemic (Bool.eq_false_iff.mpr nameable) _ failed
    exact nomatch same
  · intro unnameable
    have untaken : accept p = .error .unnameable := if_pos unnameable
    rw [find, locate, untaken]
    rfl

theorem isFile_eq_error {e : PathError} :
    s.isFile p = .error e ↔ s.find p = refused .nameTooLong ∧ e = .refused .nameTooLong := by
  rw [isFile]
  cases found : s.find p with
  | ok t => exact iff_of_false nofun nofun
  | error e' =>
    cases e' with
    | unnameable => exact iff_of_false nofun nofun
    | refused cause =>
      obtain rfl | rfl | ⟨rfl, -⟩ := find_eq_refused found
      · exact iff_of_false nofun nofun
      · exact iff_of_false nofun nofun
      · exact ⟨fun same => ⟨rfl, (Except.error.inj same).symm⟩, fun ⟨_, same⟩ => by rw [same]; rfl⟩

theorem isFile_iff : s.isFile p = .ok true ↔ ∃ bytes, s.readBytes p = .ok bytes := by
  constructor
  · intro file
    rw [isFile, ask.eq_def] at file
    split at file
    · rename_i t found
      cases t with
      | file bytes => exact ⟨bytes, by rw [readBytes, found]; rfl⟩
      | directory entries => cases file
    all_goals cases file
  · rintro ⟨bytes, read⟩
    obtain ⟨t, found, here⟩ := Outcome.bind_eq_ok.mp read
    cases t with
    | file bytes => rw [isFile, found]; rfl
    | directory entries => cases here

theorem readBytes_eq_unnameable :
    s.readBytes p = .error .unnameable ↔ p.isUnnameable = true := by
  rw [← find_eq_unnameable (s := s), readBytes]
  cases s.find p with
  | error e => simp only [Outcome.error_bind, Except.error.injEq]
  | ok t => cases t <;> exact iff_of_false nofun nofun

end Finding

section Reading

variable {s : System} {p : Path}

theorem readText_eq_ok {text : String} :
    s.readText p = .ok text ↔ ∃ bytes, s.readBytes p = .ok bytes ∧ HoldsText bytes text := by
  rw [readText]
  cases s.readBytes p with
  | error e => exact iff_of_false nofun nofun
  | ok bytes => simp [textOfBytes_eq_ok]

theorem readText_of_unread {e : PathError} (unread : s.readBytes p = .error e) :
    s.readText p = .error (.path e) := by
  rw [readText, unread]

theorem readText_of_noText {bytes : List UInt8} (read : s.readBytes p = .ok bytes)
    (textless : HoldsNoText bytes) : ∃ cause, s.readText p = .error (.encoding cause bytes) := by
  rw [readText, read]
  dsimp only
  cases told : textOfBytes bytes with
  | error e =>
    obtain ⟨-, cause, rfl⟩ := textOfBytes_eq_error told
    exact ⟨cause, rfl⟩
  | ok text =>
    obtain ⟨s, encodes, -⟩ := textOfBytes_eq_ok.mp told
    exact absurd encodes (textless s)

theorem readText_eq_error {e : TextError} (failed : s.readText p = .error e) :
    (∃ cause, e = .path cause ∧ s.readBytes p = .error cause) ∨
      ∃ cause bytes, e = .encoding cause bytes ∧ s.readBytes p = .ok bytes ∧
        HoldsNoText bytes := by
  rw [readText] at failed
  split at failed
  · rename_i bytes read
    obtain ⟨textless, cause, rfl⟩ := textOfBytes_eq_error failed
    exact .inr ⟨cause, bytes, rfl, read, textless⟩
  · rename_i cause unread
    exact .inl ⟨cause, (Except.error.inj failed).symm, unread⟩

end Reading

end System

end ServiceCli.Files

/-! ### The suffix of a path

The suffix of a path whose text ends with a point and more. It is what the text ends with, unless
the last name of the path is nothing else: such a name has no suffix.
-/

namespace ServiceCli

section Split

variable {mark : Char} {ending : List Char}

theorem Text.splitAt_of_notMem (whole : mark ∉ ending) : splitAt mark ending = [ending] := by
  induction ending with
  | nil => rfl
  | cons c rest ih =>
    rw [List.mem_cons, not_or] at whole
    rw [splitAt, if_neg (Ne.symm whole.1), ih whole.2]

theorem Text.splitAt_append (whole : mark ∉ ending) (cs : List Char) :
    ∃ parts last, splitAt mark (cs ++ ending) = parts ++ [last ++ ending] := by
  induction cs with
  | nil => exact ⟨[], [], splitAt_of_notMem whole⟩
  | cons c cs ih =>
    obtain ⟨parts, last, split⟩ := ih
    rw [List.cons_append, splitAt, split]
    split
    · exact ⟨[] :: parts, last, rfl⟩
    · cases parts with
      | nil => exact ⟨[], c :: last, rfl⟩
      | cons part parts => exact ⟨(c :: part) :: parts, last, rfl⟩

end Split

namespace Files.Path

section Suffix

variable {source : String} {ending : List Char}

theorem isName_ofList {cs : List Char} (long : 1 < cs.length) :
    isName (String.ofList cs) = true := by
  have other {text : String} (short : text.toList.length ≤ 1) : String.ofList cs ≠ text := by
    rintro rfl
    rw [String.toList_ofList] at short
    omega
  rw [isName, bne_iff_ne.mpr (other (by decide)), bne_iff_ne.mpr (other (by decide))]
  rfl

theorem name_ofText (ends : '.' :: ending <:+ source.toList) (filled : ending ≠ [])
    (whole : '/' ∉ ending) :
    ∃ stem, (ofText source).name = String.ofList (stem ++ '.' :: ending) := by
  obtain ⟨front, spelt⟩ := ends
  have whole : '/' ∉ '.' :: ending := by simpa using whole
  obtain ⟨parts, stem, split⟩ := Text.splitAt_append whole front
  have long : 1 < (stem ++ '.' :: ending).length := by
    have some : 0 < ending.length := List.length_pos_iff.mpr filled
    rw [List.length_append, List.length_cons]
    omega
  have last : [String.ofList (stem ++ '.' :: ending)].filter isName
      = [String.ofList (stem ++ '.' :: ending)] :=
    List.filter_eq_self.mpr (List.forall_mem_singleton.mpr (isName_ofList long))
  refine ⟨stem, ?_⟩
  rw [name, ofText, Text.split, ← spelt, split, List.map_append, List.map_singleton,
    List.filter_append, last, List.getLast?_concat]
  rfl

theorem suffixOf_append (filled : ending ≠ []) (pointless : '.' ∉ ending) (stem : List Char) :
    suffixOf (stem ++ '.' :: ending) = if stem.isEmpty then [] else '.' :: ending := by
  have reversed : (stem ++ '.' :: ending).reverse = ending.reverse ++ '.' :: stem.reverse := by
    simp
  have tail : (ending.reverse ++ '.' :: stem.reverse).takeWhile (· != '.') = ending.reverse := by
    have other : ∀ c ∈ ending.reverse, (c != '.') = true := by
      rintro c member
      rw [bne_iff_ne]
      rintro rfl
      exact pointless (List.mem_reverse.mp member)
    rw [List.takeWhile_append_of_pos other, List.takeWhile_cons_of_neg (by decide),
      List.append_nil]
  have some : ending.isEmpty = false := by simpa using filled
  rw [suffixOf, reversed, tail]
  simp [some]

/-- A path has the suffix that its text ends with, unless its last name is nothing else. -/
theorem suffix_ofText (ends : '.' :: ending <:+ source.toList) (filled : ending ≠ [])
    (whole : '/' ∉ ending) (pointless : '.' ∉ ending) :
    (ofText source).suffix = if (ofText source).name = String.ofList ('.' :: ending) then ""
      else Text.lower (String.ofList ('.' :: ending)) := by
  obtain ⟨stem, named⟩ := name_ofText ends filled whole
  have bare : String.ofList (stem ++ '.' :: ending) = String.ofList ('.' :: ending) ↔
      stem.isEmpty = true := by
    rw [String.ofList_inj, List.isEmpty_iff, List.append_left_eq_self]
  rw [suffix, named, String.toList_ofList, suffixOf_append filled pointless]
  simp only [bare]
  split
  · rfl
  · rfl

end Suffix

end Files.Path

end ServiceCli
