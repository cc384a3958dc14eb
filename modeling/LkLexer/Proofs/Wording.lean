import LkLexer.LexError
import LkLexer.Proofs.Quotation

/-!
# What can be read off the wording of an error

The reasons for the two faults part at their third letter, and the tips at their first one, where the tip for a
lone exclamation mark has a beginning of its own. Behind the beginning stands the quoted character, if there is
one, and behind that, in a message, the offset. Main statement: a message tells the fault and the offset, and the
reason and the tip both tell the fault (`message_eq_message_iff`).
-/

namespace LkLexer

namespace Fault

variable {fault other : Fault}

/-- A reason tells its fault, and where the text behind it begins. -/
theorem reason_append_injective {back back' : Text} (heq : fault.reason ++ back = other.reason ++ back') :
    fault = other ∧ back = back' := by
  cases fault with
  | unexpectedCharacter c =>
    cases other with
    | unexpectedCharacter d =>
      rw [reason_unexpectedCharacter, reason_unexpectedCharacter, List.append_assoc, List.append_assoc] at heq
      obtain ⟨rfl, hback⟩ := Text.quoteChar_append_injective (List.append_cancel_left heq)
      exact ⟨rfl, hback⟩
    | unterminatedBlockComment => simp at heq
  | unterminatedBlockComment =>
    cases other with
    | unexpectedCharacter d => simp at heq
    | unterminatedBlockComment => exact ⟨rfl, List.append_cancel_left heq⟩

/-- Faults are the same when their reasons are. -/
theorem reason_injective (heq : fault.reason = other.reason) : fault = other :=
  (reason_append_injective (congrArg (· ++ []) heq)).1

/-- The tip for any character but the exclamation mark quotes it. -/
theorem tip_text_of_ne {c : Char} (hc : c ≠ '!') :
    (unexpectedCharacter c).tip.text = "Unexpected character: ".toList ++ Text.quoteChar c := by
  rw [tip, if_neg hc, Tip.text]

/-- The tip for an exclamation mark is not the one for another fault. -/
theorem tip_text_exclamation_ne (hother : other ≠ unexpectedCharacter '!') :
    (unexpectedCharacter '!').tip.text ≠ other.tip.text := by
  cases other with
  | unexpectedCharacter d =>
    have hd : d ≠ '!' := fun heq => hother (congrArg unexpectedCharacter heq)
    rw [tip_text_of_ne hd]
    simp [tip, Tip.text]
  | unterminatedBlockComment => simp [tip, Tip.text]

/-- Faults are the same when the words of their tips are. -/
theorem tip_text_injective (heq : fault.tip.text = other.tip.text) : fault = other := by
  by_cases hfault : fault = unexpectedCharacter '!'
  · subst hfault
    exact Classical.byContradiction fun hne => tip_text_exclamation_ne (Ne.symm hne) heq
  by_cases hother : other = unexpectedCharacter '!'
  · subst hother
    exact absurd heq.symm (tip_text_exclamation_ne hfault)
  cases fault with
  | unexpectedCharacter c =>
    rw [tip_text_of_ne fun hc => hfault (congrArg unexpectedCharacter hc)] at heq
    cases other with
    | unexpectedCharacter d =>
      rw [tip_text_of_ne fun hd => hother (congrArg unexpectedCharacter hd)] at heq
      have hquoted := congrArg (· ++ []) (List.append_cancel_left heq)
      exact congrArg unexpectedCharacter (Text.quoteChar_append_injective hquoted).1
    | unterminatedBlockComment => simp [tip, Tip.text] at heq
  | unterminatedBlockComment =>
    cases other with
    | unexpectedCharacter d =>
      rw [tip_text_of_ne fun hd => hother (congrArg unexpectedCharacter hd)] at heq
      simp [tip, Tip.text] at heq
    | unterminatedBlockComment => rfl

end Fault

/-- The wording of errors tells them apart, whatever their labels are. Messages are the same exactly for the same
fault at the same offset, and reasons as well as tips exactly for the same fault. -/
theorem LexError.message_eq_message_iff (error other : LexError) :
    (error.message = other.message ↔ error.fault = other.fault ∧ error.position.offset = other.position.offset) ∧
      (error.fault.reason = other.fault.reason ↔ error.fault.tip.text = other.fault.tip.text) ∧
      (error.fault.tip.text = other.fault.tip.text ↔ error.fault = other.fault) := by
  refine ⟨⟨fun heq => ?_, fun hsame => ?_⟩, ⟨fun heq => ?_, fun heq => ?_⟩, Fault.tip_text_injective, fun heq => ?_⟩
  · rw [message, message, List.append_assoc, List.append_assoc] at heq
    obtain ⟨hfault, hoffset⟩ := Fault.reason_append_injective heq
    exact ⟨hfault, UInt32.toNat_inj.mp (Text.decimal_injective (List.append_cancel_left hoffset))⟩
  · rw [message, message, hsame.1, hsame.2]
  · rw [Fault.reason_injective heq]
  · rw [Fault.tip_text_injective heq]
  · rw [heq]

end LkLexer
