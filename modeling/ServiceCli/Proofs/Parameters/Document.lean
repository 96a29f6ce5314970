import ServiceCli.Parameters.Blob
import ServiceCli.Proofs.Data.JsonRoundtrip
import ServiceCli.Proofs.Parameters.Inline

set_option autoImplicit false
set_option relaxedAutoImplicit false

namespace ServiceCli.Parameters

open ServiceCli.Command ServiceCli.Data ServiceCli.Files

/-- A document of values that JSON text keeps is sent as a text that names no file, is read back as
the document, entries in their order, and is the text of whatever is read from it. -/
theorem serialize_keeps (v : Value) (kept : v.IsExact) :
    ∃ text, serialize v = .ok (.str text) ∧ text.toList.head? ≠ some '@'
      ∧ (∀ files option, readArgument files .document option (.str text) = .ok v)
      ∧ ∀ files option w, readArgument files .document option (.str text) = .ok w →
        serialize w = .ok (.str text) := by
  obtain ⟨text, printed, told⟩ := @Json.read_print? Json.compact v kept
  have sent : serialize v = .ok (.str text) := by rw [serialize, printed]
  have back : ∀ files option, readArgument files .document option (.str text) = .ok v :=
    fun files option => readArgument_of_read (.inr rfl) files option told
  refine ⟨text, sent, ?_, back, fun files option w again => ?_⟩
  · intro marked
    obtain ⟨name, marked⟩ := List.head?_eq_some_iff.mp marked
    exact Json.read_marked marked told
  · rw [back] at again
    rw [← Except.ok.inj again, sent]

private def letter : Value := .object [
  ("to", .str "\"Zoë\" \\ 😀\t\u0001/"),
  ("copies", .int (-123456789012345678901234567890)),
  ("", .list [.null, .bool true, .list [], .object []]),
  ("@", .str "@file.json")]

private def letterText : String :=
  "\x7b\"to\": \"\\\"Zo\\u00eb\\\" \\\\ \\ud83d\\ude00\\t\\u0001/\", \"copies\": "
    ++ "-123456789012345678901234567890, \"\": [null, true, [], \x7b\x7d], "
    ++ "\"@\": \"@file.json\"\x7d"

/-- A text with quotes, control characters and characters beyond ASCII, one of them written as two
escapes; a number that no machine word holds; empty brackets; and a name that is a mark. -/
theorem serialize_keeps_letter :
    letter.IsExact
      ∧ serialize letter = .ok (.str letterText)
      ∧ ∀ files, readArgument files .document "--letter" (.str letterText) = .ok letter := by
  have kept : letter.IsExact := by
    have copies : (Scalar.int (-123456789012345678901234567890)).isExact = true := by decide
    refine ⟨by decide, ⟨_, rfl⟩, rfl, ⟨_, rfl⟩, copies, ⟨_, rfl⟩, ?_, ⟨_, rfl⟩, rfl, trivial⟩
    exact ⟨rfl, rfl, trivial, ⟨List.nodup_nil, trivial⟩, trivial⟩
  have printed : Json.print? Json.compact letter = some letterText := by decide +kernel
  have spelt : serialize letter = .ok (.str letterText) := by rw [serialize, printed]
  obtain ⟨text, sent, -, back, -⟩ := serialize_keeps letter kept
  cases sent.symm.trans spelt
  exact ⟨kept, spelt, fun files => back files _⟩

end ServiceCli.Parameters
