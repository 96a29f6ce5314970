import ServiceCli.Package.Function
import ServiceCli.Proofs.Command.Identifier
import ServiceCli.Proofs.Command.Plan
import ServiceCli.Proofs.Conversion.Fragment

set_option autoImplicit false
set_option relaxedAutoImplicit false

namespace ServiceCli.Source

open ServiceCli.Script

def Piece.quotes? : Piece → Option String
  | .quoted s => some s
  | .code _ => none

def Piece.IsBare : Piece → Prop
  | .code text => HasNoQuote text
  | .quoted _ => True

end ServiceCli.Source

namespace ServiceCli.Package

open ServiceCli.Command ServiceCli.Conversion ServiceCli.Script ServiceCli.Service
open ServiceCli.Shape ServiceCli.Source

theorem merge_quotes (flags : List Flag) :
    (Step.merge flags).lines.flatMap (List.filterMap Piece.quotes?) = flags.map Flag.name := by
  have entries : (flags.map fun f => [Piece.code "        ", .quoted f.name,
      .code (": " ++ f.parameter ++ ",")]).flatMap (List.filterMap Piece.quotes?)
        = flags.map Flag.name := by
    induction flags with
    | nil => rfl
    | cons f flags ih =>
      rw [List.map_cons, List.flatMap_cons, ih]
      rfl
  rw [Step.lines, List.flatMap_append, List.flatMap_append, entries]
  exact List.append_nil _

theorem merge_isBare {flags : List Flag}
    (words : ∀ flag ∈ flags, IsWordText flag.parameter.toList) :
    ∀ line ∈ (Step.merge flags).lines, ∀ piece ∈ line, piece.IsBare := by
  have plain {text : String} (all : text.toList.all (fun c => !isQuote c) = true) :
      ∀ piece ∈ codeLine text, piece.IsBare :=
    List.forall_mem_singleton.mpr (hasNoQuote_of_all all)
  have around : ∀ flag ∈ flags, HasNoQuote (": " ++ flag.parameter ++ ",") := by
    intro flag there
    have parameter : HasNoQuote flag.parameter := hasNoQuote_of_wordChars (words flag there)
    exact ((hasNoQuote_of_all (by decide)).append parameter).append (hasNoQuote_of_all (by decide))
  have blank : Piece.IsBare (.code "        ") := hasNoQuote_of_all (by decide)
  rw [Step.lines]
  simp only [List.forall_mem_append, List.forall_mem_cons, List.forall_mem_map]
  refine ⟨⟨⟨plain ?_, plain ?_, plain ?_, by simp⟩, fun flag there => ?_⟩, plain ?_, plain ?_,
    by simp⟩
  case refine_4 => exact ⟨blank, trivial, around flag there, by simp⟩
  all_goals decide

variable {op : Operation} {cli : String} {needsToken : Bool} {plan : Plan}

/-- Every literal by which a command refers to a member. The literals under which the values of
flags are stored are those of the flags' names, one flag for each member, and denote them. The
literals of the converting lines are keys, which are names of members, and labels, which are paths
through members: a key denotes its name just when one unit is enough for each character of it, and a
label its path just when no character of the path breaks a line. -/
theorem literals_denote (planned : planOf op cli needsToken = .ok plan) :
    (∀ f ∈ op.inputFields, ∃ flag ∈ plan.flags, flag.name = f.name) ∧
    ((Step.merge plan.flags).lines.flatMap (List.filterMap Piece.quotes?)
      = plan.flags.map Flag.name) ∧
    (∀ line ∈ (Step.merge plan.flags).lines, ∀ piece ∈ line, match piece with
      | .code text => HasNoQuote text
      | .quoted name => Denotes piece.text name) ∧
    ((fragmentsOf plan.conversions).map fragmentText = linesOf plan.conversions) ∧
    (∀ f ∈ op.inputFields, f.type.containsSpecial = true →
      ∃ line ∈ fragmentsOf plan.conversions,
        [.code "params", .code ".get(", .key f.name, .code ")"] <:+: line) ∧
    ∀ line ∈ fragmentsOf plan.conversions, ∀ fragment ∈ line, match fragment with
      | .code text => HasNoQuote text
      | .key name => name ∈ memberNames op.inputFields ∧
          (Denotes fragment.text name ↔ IsBasic name)
      | .label path => (∀ name, .member name ∈ path → name ∈ memberNames op.inputFields) ∧
          (Denotes fragment.text path.text ↔ IsWhole path.text) := by
  obtain ⟨-, rfl⟩ := planOf_eq_ok.mp planned
  refine ⟨?flags, merge_quotes _, ?stored, ofFields_text _ (Path.AccessPath.inStep_ofRoot _),
    fun f member special => exists_lookup member special parameterRoot, ?converted⟩
  case flags =>
    intro f member
    obtain ⟨parameter, made⟩ := exists_flagOf member reservedNames
    exact ⟨_, List.mem_append_left _ made, rfl⟩
  case stored =>
    intro line there piece member
    have bare := merge_isBare (fun _ => parameter_isWordText) line there piece member
    cases piece with
    | code text => exact bare
    | quoted name => exact denotes_quote name
  case converted =>
    intro line there fragment member
    have named : NamesHave (· ∈ memberNames op.inputFields) op.inputFields :=
      (namesHave_iff _).mpr fun _ among => among
    have sound := ofFields_sound op.inputFields Passes.ofRoot named line there fragment member
    cases fragment with
    | code text => exact sound
    | key name => exact ⟨sound, denotes_jsonQuote name⟩
    | label path => exact ⟨sound, denotes_quoteLabel path.text⟩

private def putBlob (name : String) : Operation where
  name := "PutBlob"
  route := "/blob"
  method := "PUT"
  documentation := ""
  traits := []
  input := some ⟨"PutBlobInput", [⟨name, .blob false, true, "", false⟩]⟩
  output := none
  authExempt := false

/-- A name of one unit for each character is the key of its blob, and is denoted by it. -/
theorem literals_putBlob : ∃ plan, planOf (putBlob "größe") "shop" false = .ok plan ∧
    ∃ line ∈ fragmentsOf plan.conversions, .key "größe" ∈ line ∧
      Denotes (Fragment.key "größe").text "größe" := by
  obtain ⟨plan, planned⟩ : ∃ plan, planOf (putBlob "größe") "shop" false = .ok plan := ⟨_, rfl⟩
  obtain ⟨-, -, -, -, lookups, converted⟩ := literals_denote planned
  obtain ⟨line, there, among⟩ := lookups _ List.mem_cons_self rfl
  have key : .key "größe" ∈ line :=
    among.subset (List.mem_cons_of_mem _ (List.mem_cons_of_mem _ List.mem_cons_self))
  have small : "größe".toList.all (fun c => decide (c.toNat < 0x10000)) = true := by decide
  have basic : IsBasic "größe" := fun c member =>
    of_decide_eq_true (List.all_eq_true.mp small c member)
  exact ⟨plan, planned, line, there, key, (converted line there _ key).2.mpr basic⟩

/-- A character of two units is not denoted by the key that is looked up, and a label that breaks
its line denotes nothing. -/
theorem literals_astral : ∃ plan, planOf (putBlob "😀") "shop" false = .ok plan ∧
    linesOf plan.conversions = [
      "if params.get(\"\\ud83d\\ude00\") is not None:",
      "    params[\"\\ud83d\\ude00\"] = rt.read_blob(params[\"\\ud83d\\ude00\"], \"😀\")"] ∧
    Denotes (Literal.quote "😀") "😀" ∧ ¬ Denotes "\"\\ud83d\\ude00\"" "😀" ∧
    ¬ Denotes (quoteLabel "a\nb") "a\nb" := by
  have key : Json.quote "😀" = "\"\\ud83d\\ude00\"" := by decide
  refine ⟨_, rfl, by decide, denotes_quote _, ?_, ?_⟩
  · rw [← key, denotes_jsonQuote]
    intro basic
    exact absurd (basic '😀' (by decide)) (by decide)
  · rw [denotes_quoteLabel]
    intro whole
    exact absurd (whole '\n' (by decide)) (by decide)

end ServiceCli.Package
