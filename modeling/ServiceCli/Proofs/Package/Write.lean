import ServiceCli.Package.Write
import ServiceCli.Proofs.Files.Replacement

set_option autoImplicit false
set_option relaxedAutoImplicit false

namespace ServiceCli.Package

open ServiceCli.Files

/-- What is written, and where. -/
structure Writing where
  directory : String
  command : String
  files : List File

namespace Writing

def root (w : Writing) : Path := rootOf w.directory w.command

/-- The path that a file of the package is written to. -/
def target (w : Writing) (file : File) : Path := targetOf w.root file

def run (w : Writing) (s : System) : System × List Path × Option Failure :=
  writeFiles s w.root w.files

/-- All paths lead downwards, and those of the files differ. -/
structure IsPlain (w : Writing) : Prop where
  directory : (Path.ofText w.directory).IsDownward
  command : (Path.ofText w.command).IsDownward
  files : ∀ file ∈ w.files, (Path.ofText file.path).IsDownward
  differ : (w.files.map fun file => (Path.ofText file.path).names).Nodup

end Writing

/-- The file system after several packages were written, or as far as it went with each. -/
def afterAll (s : System) (writings : List Writing) : System :=
  writings.foldl (fun s w => (w.run s).1) s

/-- What it means to write files to their targets: those before the first that cannot be written are
stored, and at any other place nothing but a directory is new. -/
structure Leaves (target : File → Path) (files : List File) (s s' : System) (paths : List Path)
    (failure : Option Failure) : Prop where
  current : s'.current = s.current
  written : paths = (files.take paths.length).map target
  ending : match failure with
    | none => paths.length = files.length
    | some f => ∃ file cause, files[paths.length]? = some file
      ∧ f = .output (target file).text (SystemError.message cause)
  stored : ∀ file ∈ files.take paths.length,
    s'.tree.seen (s.placeOf (target file)) = some (some (Text.encode file.content))
      ∧ s'.readBytes (target file) = .ok (Text.encode file.content)
  left : ∀ file ∈ files.drop paths.length,
    (s'.tree.seen (s.placeOf (target file))).join = (s.tree.seen (s.placeOf (target file))).join
  others : ∀ place, (∀ file ∈ files.take paths.length, place ≠ s.placeOf (target file)) →
    KeptOrMade (s.tree.seen place) (s'.tree.seen place)

section Files

variable {root : Path} {files : List File} {s s' : System} {paths : List Path}
variable {failure : Option Failure}

theorem placeOf_target_inj (down : ∀ file ∈ files, (Path.ofText file.path).IsDownward)
    {f g : File} (first : f ∈ files) (second : g ∈ files)
    (same : s.placeOf (targetOf root f) = s.placeOf (targetOf root g)) :
    (Path.ofText f.path).names = (Path.ofText g.path).names := by
  have names : ∀ file ∈ files,
      (targetOf root file).names = root.names ++ (Path.ofText file.path).names := by
    intro file member
    rw [targetOf, Path.join, (down file member).relative]
  rw [System.placeOf, System.placeOf, names f first, names g second] at same
  exact List.append_cancel_left (List.append_cancel_left same)

theorem writeFiles_leaves (rootDown : root.IsDownward)
    (down : ∀ file ∈ files, (Path.ofText file.path).IsDownward)
    (differ : (files.map fun file => (Path.ofText file.path).names).Nodup)
    (run : writeFiles s root files = (s', paths, failure)) :
    Leaves (targetOf root) files s s' paths failure := by
  induction files generalizing s paths with
  | nil =>
    obtain ⟨rfl, rest⟩ := Prod.mk.inj run
    obtain ⟨rfl, rfl⟩ := Prod.mk.inj rest
    exact ⟨rfl, rfl, rfl, by simp, by simp, fun _ _ => .inl rfl⟩
  | cons file rest ih =>
    have ownDown : (targetOf root file).IsDownward :=
      rootDown.join (down file List.mem_cons_self)
    obtain ⟨fresh, differRest⟩ := List.nodup_cons.mp differ
    have apart : ∀ other ∈ rest,
        s.placeOf (targetOf root other) ≠ s.placeOf (targetOf root file) := by
      intro other member same
      have names := placeOf_target_inj down (List.mem_cons_of_mem _ member) List.mem_cons_self same
      exact fresh (List.mem_map.mpr ⟨other, member, names⟩)
    rw [writeFiles] at run
    split at run
    · rename_i s₁ stored
      rcases result : writeFiles s₁ root rest with ⟨s₂, paths', failure'⟩
      rw [result] at run
      obtain ⟨rfl, rest'⟩ := Prod.mk.inj run
      obtain ⟨rfl, rfl⟩ := Prod.mk.inj rest'
      obtain ⟨current, accepted, fits, here, s₀, above, elsewhere⟩ :=
        s.writeFile_eq_ok _ ownDown stored
      have places : ∀ p, s₁.placeOf p = s.placeOf p := by
        intro p
        rw [System.placeOf, System.placeOf, current]
      have inner :=
        ih (fun file member => down file (List.mem_cons_of_mem _ member)) differRest result
      have step : ∀ place, place ≠ s.placeOf (targetOf root file) →
          KeptOrMade (s.tree.seen place) (s₁.tree.seen place) := by
        intro place other
        rw [elsewhere place other]
        exact above.seen place
      -- the files that follow have other places, so the first one stays
      have stays : s₂.tree.seen (s.placeOf (targetOf root file))
          = some (some (Text.encode file.content)) := by
        have kept := inner.others (s.placeOf (targetOf root file)) fun other member => by
          rw [places]
          exact (apart other (List.mem_of_mem_take member)).symm
        rw [here] at kept
        exact kept.of_some
      have now : s₂.current = s.current := inner.current.trans current
      refine ⟨now, ?written, ?ending, ?stored, ?left, ?others⟩
      case written => exact congrArg (targetOf root file :: ·) inner.written
      case ending =>
        have ending := inner.ending
        cases failure' with
        | none => exact congrArg (· + 1) ending
        | some f => exact ending
      case stored =>
        intro other member
        rw [List.length_cons, List.take_succ_cons, List.mem_cons] at member
        rcases member with rfl | member
        · refine ⟨stays, s₂.readBytes_of_seen _ ownDown accepted fits ?_⟩
          rw [System.placeOf, now]
          exact stays
        · rw [← places]
          exact inner.stored other member
      case left =>
        intro other member
        rw [List.length_cons, List.drop_succ_cons] at member
        have before := step _ (apart other (List.mem_of_mem_drop member))
        rw [← before.join, ← places]
        exact inner.left other member
      case others =>
        intro place outside
        rw [List.length_cons, List.take_succ_cons] at outside
        have first := step place (outside file List.mem_cons_self)
        refine first.trans (inner.others place fun other member => ?_)
        rw [places]
        exact outside other (List.mem_cons_of_mem _ member)
    · rename_i s₁ e failed
      obtain ⟨rfl, rest'⟩ := Prod.mk.inj run
      obtain ⟨rfl, rfl⟩ := Prod.mk.inj rest'
      obtain ⟨extends_, cause, rfl⟩ := s.writeFile_eq_error _ ownDown failed
      exact ⟨extends_.current, rfl, ⟨file, cause, rfl, rfl⟩, by simp,
        fun other _ => (extends_.seen _).join, fun place _ => extends_.seen place⟩

end Files

section Runs

variable {s : System} {writings : List Writing}

theorem Writing.IsPlain.leaves {w : Writing} (plain : w.IsPlain) (s : System) :
    Leaves w.target w.files s (w.run s).1 (w.run s).2.1 (w.run s).2.2 :=
  writeFiles_leaves (plain.directory.join plain.command) plain.files plain.differ rfl

/-- A file that is seen after a package was written was there before, or the package lists it. -/
theorem Writing.IsPlain.seen_run {w : Writing} (plain : w.IsPlain) {place : Place}
    {bytes : List UInt8} (seen : (w.run s).1.tree.seen place = some (some bytes)) :
    s.tree.seen place = some (some bytes)
      ∨ ∃ file ∈ w.files, place = s.placeOf (w.target file) ∧ bytes = Text.encode file.content := by
  have leaves := plain.leaves s
  by_cases listed : ∃ file ∈ w.files.take (w.run s).2.1.length, place = s.placeOf (w.target file)
  · obtain ⟨file, member, rfl⟩ := listed
    have stored := (leaves.stored file member).1
    rw [seen] at stored
    exact .inr ⟨file, List.mem_of_mem_take member, rfl, Option.some.inj (Option.some.inj stored)⟩
  · push Not at listed
    rcases leaves.others place listed with kept | ⟨-, made⟩
    · exact .inl (kept.symm.trans seen)
    · rw [seen] at made
      cases made

theorem afterAll_seen (plain : ∀ w ∈ writings, w.IsPlain) {place : Place} {bytes : List UInt8}
    (seen : (afterAll s writings).tree.seen place = some (some bytes)) :
    s.tree.seen place = some (some bytes) ∨ ∃ w ∈ writings, ∃ file ∈ w.files,
      place = s.placeOf (w.target file) ∧ bytes = Text.encode file.content := by
  induction writings generalizing s with
  | nil => exact .inl seen
  | cons w writings ih =>
    have first := plain w List.mem_cons_self
    have current := (first.leaves s).current
    rcases ih (fun w member => plain w (List.mem_cons_of_mem _ member)) seen with
      before | ⟨v, member, file, listed, here, content⟩
    · rcases first.seen_run before with kept | ⟨file, listed, here, content⟩
      · exact .inl kept
      · exact .inr ⟨w, List.mem_cons_self, file, listed, here, content⟩
    · rw [System.placeOf, current] at here
      exact .inr ⟨v, List.mem_cons_of_mem _ member, file, listed, here, content⟩

/-- Packages are written one after another, whatever the tree is like. Each writing stores its files
in order up to the first that the system refuses, which it names; any other place shows what it
showed before that writing, or a directory where nothing was. So a file that is there in the end was
there at the beginning or is listed by a package. -/
theorem writings_leave (s : System) (writings : List Writing)
    (plain : ∀ w ∈ writings, w.IsPlain) :
    (∀ before w after, writings = before ++ w :: after →
      Leaves w.target w.files (afterAll s before) (w.run (afterAll s before)).1
        (w.run (afterAll s before)).2.1 (w.run (afterAll s before)).2.2) ∧
    ∀ place bytes, (afterAll s writings).tree.seen place = some (some bytes) →
      s.tree.seen place = some (some bytes) ∨ ∃ w ∈ writings, ∃ file ∈ w.files,
        place = s.placeOf (w.target file) ∧ bytes = Text.encode file.content := by
  refine ⟨?_, fun place bytes seen => afterAll_seen plain seen⟩
  intro before w after split
  have member : w ∈ writings := by
    rw [split]
    exact List.mem_append_right _ List.mem_cons_self
  exact (plain w member).leaves (afterAll s before)

/-- A yard where a file is in the way of a directory. -/
private def yard : System :=
  ⟨.directory [("out", .directory [("cli", .directory [("old", .file [1])])])], []⟩

private def blocked : Writing := ⟨"out", "cli", [⟨"a.py", "x"⟩, ⟨"old/b.py", "y"⟩, ⟨"c.py", "z"⟩]⟩

private def renewed : Writing := ⟨"./out", "cli", [⟨"old", "w"⟩, ⟨"new/d.py", ""⟩]⟩

private theorem yard_plain : ∀ w ∈ [blocked, renewed], w.IsPlain := by
  intro w member
  rcases List.mem_cons.mp member with rfl | member
  · refine ⟨⟨by decide, by decide, by decide⟩, ⟨by decide, by decide, by decide⟩, ?_, by decide⟩
    simp only [blocked, List.mem_cons, List.not_mem_nil, or_false]
    rintro file (rfl | rfl | rfl) <;> exact ⟨by decide, by decide, by decide⟩
  · obtain rfl := List.mem_singleton.mp member
    refine ⟨⟨by decide, by decide, by decide⟩, ⟨by decide, by decide, by decide⟩, ?_, by decide⟩
    simp only [renewed, List.mem_cons, List.not_mem_nil, or_false]
    rintro file (rfl | rfl) <;> exact ⟨by decide, by decide, by decide⟩

/-- A package that stops at its second file, and one that then replaces the file in the way. -/
theorem writings_leave_yard : (∀ w ∈ [blocked, renewed], w.IsPlain) ∧
    (blocked.run yard).2.1.map Path.text = ["out/cli/a.py"] ∧
    (blocked.run yard).2.2.bind Failure.message?
      = some "Cannot write out/cli/old/b.py: File exists" ∧
    (renewed.run (afterAll yard [blocked])).2.1.map Path.text
      = ["out/cli/old", "out/cli/new/d.py"] ∧
    Leaves renewed.target renewed.files (afterAll yard [blocked])
      (renewed.run (afterAll yard [blocked])).1 (renewed.run (afterAll yard [blocked])).2.1
      (renewed.run (afterAll yard [blocked])).2.2 ∧
    (afterAll yard [blocked, renewed]).tree.seen ["out", "cli", "a.py"]
      = some (some (Text.encode "x")) ∧
    (afterAll yard [blocked, renewed]).tree.seen ["out", "cli", "old"]
      = some (some (Text.encode "w")) ∧
    (afterAll yard [blocked, renewed]).tree.seen ["out", "cli", "c.py"] = none := by
  have leaves := (writings_leave yard [blocked, renewed] yard_plain).1
  exact ⟨yard_plain, by decide, by decide, by decide, leaves [blocked] renewed [] rfl,
    rfl, rfl, rfl⟩

end Runs

end ServiceCli.Package
