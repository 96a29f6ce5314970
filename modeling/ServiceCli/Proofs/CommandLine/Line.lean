import ServiceCli.CommandLine.Request
import ServiceCli.Proofs.Outcome

set_option autoImplicit false
set_option relaxedAutoImplicit false

namespace ServiceCli.CommandLine

open Outcome (bind_eq_ok mapError_eq_ok ok_bind)
open ServiceCli.Settings

def Arguments.withoutDryRun (a : Arguments) : Arguments :=
  { a with given := a.given.filter fun g => g.1 ≠ .dryRun }

section Reading

variable {switches : List Switch} {waiting : Option Waiting} {line rest : List String}
variable {a : Arguments} {name : String}

theorem readFrom_value {w : Waiting} {operandsEnd : Bool} (value : String)
    (read : readFrom switches operandsEnd none rest = .ok a) :
    readFrom switches operandsEnd (some w) (value :: rest)
      = .ok { a with given := (w.meaning, value) :: a.given } := by
  rw [readFrom, read]
  rfl

theorem readFrom_switch {argument : String} {operandsEnd : Bool} {said : List (Meaning × String)}
    (more : argument.toList ≠ twoDashes) (dashed : isSwitch argument.toList = true)
    (spoken : readSwitch switches argument.toList = .ok (said, waiting))
    (read : readFrom switches operandsEnd waiting rest = .ok a) :
    readFrom switches operandsEnd none (argument :: rest)
      = .ok { a with given := said ++ a.given } := by
  rw [readFrom, if_neg more, if_pos dashed, spoken]
  change (do
    let more ← readFrom switches operandsEnd waiting rest
    return { more with given := said ++ more.given }) = _
  rw [read]
  rfl

theorem readFrom_front (read : readFrom switches true waiting line = .ok a)
    (first : a.operands = name :: rest) : ∃ front, line = front ++ name :: rest ∧
      ∀ other, readFrom switches true waiting (front ++ name :: other)
        = .ok ⟨a.given, name :: other⟩ := by
  -- what comes before the first operand is read in the same way, whatever follows it
  fun_induction readFrom switches true waiting line generalizing a with
  | case1 =>
    cases read
    cases first
  | case2 => cases read
  | case3 w value line ih =>
    obtain ⟨more, readRest, made⟩ := bind_eq_ok.mp read
    cases made
    obtain ⟨front, split, again⟩ := ih readRest first
    refine ⟨value :: front, by rw [split]; rfl, fun other => ?_⟩
    exact readFrom_value value (again other)
  | case4 argument line ends =>
    cases read
    refine ⟨[argument], by rw [← first]; rfl, fun other => ?_⟩
    rw [List.singleton_append, readFrom, if_pos ends]
  | case5 argument line more dashed ih =>
    obtain ⟨⟨said, waiting⟩, spoken, goesOn⟩ := bind_eq_ok.mp read
    obtain ⟨later, readRest, made⟩ := bind_eq_ok.mp goesOn
    cases made
    obtain ⟨front, split, again⟩ := ih waiting readRest first
    refine ⟨argument :: front, by rw [split]; rfl, fun other => ?_⟩
    exact readFrom_switch more dashed spoken (again other)
  | case6 argument line more plain =>
    cases read
    cases first
    refine ⟨[], rfl, fun other => ?_⟩
    rw [List.nil_append, readFrom, if_neg more, if_neg plain, if_pos rfl]
  | case7 argument line more plain open' => exact absurd rfl open'

end Reading

section DryRun

variable {waiting : Option Waiting} {arguments : List String} {a : Arguments} {name : String}

theorem name_of_dryRun (means : meaningOf? buildSwitches name = some .dryRun) :
    name = "--dry-run" := by
  obtain ⟨s, found, meaning⟩ := Option.map_eq_some_iff.mp means
  have named : s.names.contains name = true :=
    List.find?_some (p := fun s : Switch => s.names.contains name) found
  have member := List.mem_of_find?_eq_some found
  have only : ∀ s ∈ buildSwitches, s.meaning = .dryRun → s.names = ["--dry-run"] := by
    decide
  rw [only s member meaning] at named
  simpa using named

theorem ne_dryRun_of_takesValue {meaning : Meaning} (takes : meaning.takesValue = true) :
    meaning ≠ .dryRun := by
  rintro rfl
  cases takes

/-- What an argument says without a dry run, and what it waits for. -/
structure Said.NoDryRun (s : Said) : Prop where
  said : ∀ g ∈ s.1, g.1 ≠ .dryRun
  waiting : ∀ w ∈ s.2, w.meaning ≠ .dryRun

theorem readBundle_noDryRun {cs : List Char} {said : Said}
    (spoken : readBundle buildSwitches cs = .ok said) : said.NoDryRun := by
  fun_induction readBundle buildSwitches cs generalizing said with
  | case1 =>
    cases spoken
    exact ⟨by simp, by simp⟩
  | case2 => cases spoken
  | case3 c rest name meaning means takes =>
    cases spoken
    exact ⟨by simp, by simpa using ne_dryRun_of_takesValue takes⟩
  | case4 c rest name meaning means takes =>
    cases spoken
    exact ⟨by simpa using ne_dryRun_of_takesValue takes, by simp⟩
  | case5 c rest name meaning means plain =>
    rename_i ih
    obtain ⟨more, toldRest, made⟩ := bind_eq_ok.mp spoken
    have others := ih toldRest
    have short : meaning ≠ .dryRun := by
      rintro rfl
      have long := congrArg String.toList (name_of_dryRun means)
      rw [String.toList_ofList] at long
      simp at long
    cases made
    exact ⟨List.forall_mem_cons.mpr ⟨short, others.said⟩, others.waiting⟩

theorem readSwitch_dryRun {argument : List Char} {said : Said}
    (spoken : readSwitch buildSwitches argument = .ok said) :
    said = ([(.dryRun, "")], none) ∨ said.NoDryRun := by
  rw [readSwitch] at spoken
  dsimp only at spoken
  split at spoken
  · split at spoken
    · rename_i meaning means
      rw [readLong.eq_def] at spoken
      by_cases takes : meaning.takesValue = true
      · have other := ne_dryRun_of_takesValue takes
        simp only [takes, if_true] at spoken
        split at spoken
        · cases spoken
          exact .inr ⟨by simpa using other, by simp⟩
        · cases spoken
          exact .inr ⟨by simp, by simpa using other⟩
      · simp only [takes] at spoken
        split at spoken
        · cases spoken
        · cases spoken
          by_cases dry : meaning = .dryRun
          · exact .inl (by rw [dry])
          · exact .inr ⟨by simpa using dry, by simp⟩
    · cases spoken
  · exact .inr (readBundle_noDryRun spoken)

theorem withoutDryRun_append {said : List (Meaning × String)} (none : ∀ g ∈ said, g.1 ≠ .dryRun) :
    Arguments.withoutDryRun { a with given := said ++ a.given }
      = { a.withoutDryRun with given := said ++ a.withoutDryRun.given } := by
  have kept : said.filter (fun g => g.1 ≠ .dryRun) = said :=
    List.filter_eq_self.mpr fun g member => decide_eq_true (none g member)
  rw [Arguments.withoutDryRun, List.filter_append, kept, Arguments.withoutDryRun]

theorem readFrom_withoutDryRun (waits : ∀ w ∈ waiting, w.meaning ≠ .dryRun)
    (read : readFrom buildSwitches false waiting arguments = .ok a) :
    ∃ fewer : List String, fewer.Sublist arguments ∧
      readFrom buildSwitches false waiting fewer = .ok a.withoutDryRun := by
  fun_induction readFrom buildSwitches false waiting arguments generalizing a with
  | case1 =>
    cases read
    exact ⟨[], .slnil, rfl⟩
  | case2 => cases read
  | case3 w value rest ih =>
    obtain ⟨more, readRest, made⟩ := bind_eq_ok.mp read
    cases made
    obtain ⟨fewer, among, again⟩ := ih (by simp) readRest
    have other : ∀ g ∈ [(w.meaning, value)], g.1 ≠ .dryRun := by simpa using waits
    refine ⟨value :: fewer, among.cons_cons value, (readFrom_value value again).trans ?_⟩
    exact congrArg _ (withoutDryRun_append other).symm
  | case4 argument rest ends =>
    cases read
    refine ⟨argument :: rest, .refl _, ?_⟩
    rw [readFrom, if_pos ends]
    rfl
  | case5 argument rest more dashed ih =>
    obtain ⟨said, spoken, goesOn⟩ := bind_eq_ok.mp read
    obtain ⟨later, readRest, made⟩ := bind_eq_ok.mp goesOn
    cases made
    -- an argument that asks for a dry run is left out
    rcases readSwitch_dryRun spoken with rfl | other
    · obtain ⟨fewer, among, again⟩ := ih none (by simp) readRest
      exact ⟨fewer, among.cons argument, again⟩
    · obtain ⟨fewer, among, again⟩ := ih said.2 other.waiting readRest
      refine ⟨argument :: fewer, among.cons_cons argument, ?_⟩
      refine (readFrom_switch more dashed spoken again).trans ?_
      exact congrArg _ (withoutDryRun_append other.said).symm
  | case6 argument rest more plain ends => cases ends
  | case7 argument rest more plain _ ih =>
    obtain ⟨later, readRest, made⟩ := bind_eq_ok.mp read
    cases made
    obtain ⟨fewer, among, again⟩ := ih (by simp) readRest
    refine ⟨argument :: fewer, among.cons_cons argument, ?_⟩
    rw [readFrom, if_neg more, if_neg plain, if_neg (by decide), again]
    rfl

end DryRun

section Requests

variable {line : List String} {a b : Arguments} {given : List (Setting × String)} {dryRun : Bool}

theorem urgent?_ne_build (command : Command) (a : Arguments) :
    urgent? command a ≠ some (.build given dryRun) := by
  intro urgent
  obtain ⟨⟨meaning, text⟩, -, asks⟩ := List.exists_of_findSome?_eq_some urgent
  cases meaning <;> cases asks

theorem argumentsOf_eq_ok {command : Command} {arguments : List String} :
    argumentsOf command arguments = .ok a ↔
      readArguments command.switches command.isGroup arguments = .ok a := by
  rw [argumentsOf, mapError_eq_ok]

theorem leafRequest_eq_ok {command : Command} {finish : Arguments → Except Misuse Request}
    {arguments : List String} {r : Request} : leafRequest command finish arguments = .ok r ↔
      ∃ a, argumentsOf command arguments = .ok a ∧
        (urgent? command a = some r ∨ urgent? command a = none ∧ finish a = .ok r) := by
  rw [leafRequest, bind_eq_ok]
  refine exists_congr fun a => and_congr_right fun _ => ?_
  cases urgent? command a <;> simp [pure, Except.pure]

theorem groupRequest_eq_ok {group : Command} {operands : List String} {r : Request}
    {follow : Command → List String → Except Misuse Request}
    (asked : groupRequest group follow operands = .ok r) :
    (∃ name rest command, operands = name :: rest ∧ group.below.lookup name = some command ∧
      follow command rest = .ok r) ∨ ∃ a, urgent? group a = some r := by
  cases operands with
  | nil => cases asked
  | cons name rest =>
    rw [groupRequest] at asked
    cases found : group.below.lookup name with
    | some command =>
      rw [found] at asked
      exact .inl ⟨name, rest, command, rfl, found, asked⟩
    | none =>
      rw [found] at asked
      obtain ⟨a, -, answered⟩ := bind_eq_ok.mp asked
      cases urgent : urgent? group a with
      | none =>
        rw [urgent] at answered
        cases answered
      | some request =>
        rw [urgent] at answered
        cases answered
        exact .inr ⟨a, urgent⟩

theorem inspection_ne_build (command : Command) (arguments : List String) :
    inspectRequest.inspection command arguments ≠ .ok (.build given dryRun) := by
  have finished {finish : Arguments → Except Misuse Request} {command : Command}
      (other : ∀ a, finish a ≠ .ok (.build given dryRun)) :
      leafRequest command finish arguments ≠ .ok (.build given dryRun) := by
    intro asked
    obtain ⟨a, -, urgent | ⟨-, answered⟩⟩ := leafRequest_eq_ok.mp asked
    · exact urgent?_ne_build command a urgent
    · exact other a answered
  rw [inspectRequest.inspection]
  split
  · refine finished fun a answered => ?_
    rw [parametersRequest] at answered
    split at answered <;> cases answered
  · refine finished fun a answered => ?_
    rw [operationsRequest] at answered
    split at answered <;> cases answered

theorem inspectRequest_ne_build (arguments : List String) :
    inspectRequest arguments ≠ .ok (.build given dryRun) := by
  intro asked
  rw [inspectRequest] at asked
  split at asked
  · cases asked
  · obtain ⟨a, -, answered⟩ := bind_eq_ok.mp asked
    cases urgent : urgent? .inspect a with
    | some request =>
      rw [urgent] at answered
      cases answered
      exact urgent?_ne_build .inspect a urgent
    | none =>
      rw [urgent] at answered
      obtain ⟨_, rest, command, -, -, follows⟩ | ⟨a, also⟩ := groupRequest_eq_ok answered
      · exact inspection_ne_build command rest follows
      · exact urgent?_ne_build .inspect a also

theorem buildRequest_eq_ok : buildRequest b = .ok (.build given dryRun) ↔
    b.operands = [] ∧ b.settings = given ∧ b.has .dryRun = dryRun := by
  rw [buildRequest]
  split
  · rename_i empty
    simp [empty]
  · rename_i full
    simp only [reduceCtorEq, false_iff, not_and]
    exact fun empty => absurd empty full

theorem requestOf_build : requestOf line = .ok (a, .build given dryRun) ↔
    ∃ rest b, readArguments programSwitches true line = .ok a ∧ urgent? .program a = none ∧
      a.operands = "build" :: rest ∧ readArguments buildSwitches false rest = .ok b ∧
      urgent? .build b = none ∧ b.operands = [] ∧ b.settings = given ∧ b.has .dryRun = dryRun := by
  have leaf (rest : List String) :
      leafRequest .build buildRequest rest = .ok (.build given dryRun) ↔
      ∃ b, readArguments buildSwitches false rest = .ok b ∧ urgent? .build b = none ∧
        b.operands = [] ∧ b.settings = given ∧ b.has .dryRun = dryRun := by
    rw [leafRequest_eq_ok]
    simp only [argumentsOf_eq_ok, urgent?_ne_build, false_or, buildRequest_eq_ok]
    rfl
  constructor
  · intro asked
    rw [requestOf] at asked
    split at asked
    · cases asked
    · obtain ⟨a', read, answered⟩ := bind_eq_ok.mp asked
      cases urgent : urgent? .program a' with
      | some request =>
        rw [urgent] at answered
        cases answered
        exact absurd urgent (urgent?_ne_build .program _)
      | none =>
        rw [urgent] at answered
        obtain ⟨r, follows, made⟩ := bind_eq_ok.mp answered
        cases made
        obtain ⟨name, rest, command, operands, found, follows⟩ | ⟨a, also⟩ :=
          groupRequest_eq_ok follows
        · by_cases build : name = "build"
          · subst build
            cases found
            obtain ⟨b, asks⟩ := (leaf rest).mp follows
            exact ⟨rest, b, argumentsOf_eq_ok.mp read, urgent, operands, asks⟩
          · have inspect : command = .inspect := by
              have below : Command.below .program
                  = [("build", .build), ("inspect", .inspect)] := rfl
              have other : (name == "build") = false := beq_eq_false_iff_ne.mpr build
              simp only [below, List.lookup_cons, other, List.lookup_nil] at found
              split at found
              · exact (Option.some.inj found).symm
              · cases found
            rw [inspect] at follows
            exact absurd follows (inspectRequest_ne_build rest)
        · exact absurd also (urgent?_ne_build .program a)
  · rintro ⟨rest, b, read, urgent, operands, asks⟩
    have follows := (leaf rest).mpr ⟨b, asks⟩
    have full : line ≠ [] := by
      rintro rfl
      cases read
      cases operands
    have started : argumentsOf .program line = .ok a := argumentsOf_eq_ok.mpr read
    have led : groupRequest .program commandRequest a.operands = .ok (.build given dryRun) := by
      rw [operands]
      exact follows
    rw [requestOf, if_neg (by simpa using full), started, ok_bind, urgent, led]
    rfl

theorem urgent?_withoutDryRun {command : Command} (calm : urgent? command b = none) :
    urgent? command b.withoutDryRun = none := by
  rw [urgent?, List.findSome?_eq_none_iff] at calm ⊢
  exact fun g member => calm g (List.mem_filter.mp member).1

theorem settings_withoutDryRun (b : Arguments) : b.withoutDryRun.settings = b.settings := by
  rw [Arguments.settings, Arguments.withoutDryRun, List.filterMap_filter, Arguments.settings]
  congr
  funext ⟨meaning, text⟩
  cases meaning <;> rfl

theorem has_withoutDryRun (b : Arguments) : b.withoutDryRun.has .dryRun = false := by
  rw [Arguments.has, List.any_eq_false]
  intro g member
  have other := (List.mem_filter.mp member).2
  simpa using other

/-- A line that asks for a build with a dry run holds one that asks for the same build without. -/
theorem requestOf_withoutDryRun (asked : requestOf line = .ok (a, .build given true)) :
    ∃ other b, other.Sublist line ∧ requestOf other = .ok (b, .build given false) ∧
      b.given = a.given := by
  obtain ⟨rest, b, read, urgent, operands, readBuild, calm, alone, settings, -⟩ :=
    requestOf_build.mp asked
  obtain ⟨front, split, again⟩ := readFrom_front read operands
  obtain ⟨fewer, among, without⟩ := readFrom_withoutDryRun (by simp) readBuild
  refine ⟨front ++ "build" :: fewer, ⟨a.given, "build" :: fewer⟩, ?_, ?_, rfl⟩
  · rw [split]
    exact (List.Sublist.refl front).append (among.cons_cons "build")
  · exact requestOf_build.mpr ⟨fewer, b.withoutDryRun, again fewer, urgent, rfl, without,
      urgent?_withoutDryRun calm, alone, (settings_withoutDryRun b).trans settings,
      has_withoutDryRun b⟩

end Requests

end ServiceCli.CommandLine
