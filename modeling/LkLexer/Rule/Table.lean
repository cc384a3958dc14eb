import LkLexer.Rule.Basic

/-!
# The rules of the language

The tokens of lk: four brackets and the colon, two forms of comment, the operators, the newline, words and
blanks. Rules are tried from the first one on. Main statement: in every rule the handler fits the pattern
(`coherent_of_mem_table`).
-/

namespace LkLexer.Rule

/-- The rules of the language, in the order in which they are tried. -/
def table : List Rule :=
  [⟨.literal ['{'], .fixed .openCurly ['{']⟩,
   ⟨.literal ['}'], .fixed .closeCurly ['}']⟩,
   ⟨.literal ['('], .fixed .openParen ['(']⟩,
   ⟨.literal [')'], .fixed .closeParen [')']⟩,
   ⟨.literal [':'], .fixed .colon [':']⟩,
   ⟨.literal ['/', '/'], .lineComment⟩,
   ⟨.literal ['/', '*'], .blockComment⟩,
   ⟨.literal ['-', '>'], .fixed .arrow ['-', '>']⟩,
   ⟨.literal ['!', '='], .fixed .notEquals ['!', '=']⟩,
   ⟨.literal ['='], .fixed .equals ['=']⟩,
   ⟨.literal ['&'], .fixed .and ['&']⟩,
   ⟨.literal ['|'], .fixed .or ['|']⟩,
   ⟨.literal ['\n'], .fixed .newline ['\n']⟩,
   ⟨.run .word, .run .identifier⟩,
   ⟨.run .blank, .run .whitespace⟩]

/-- The handler of each rule of the language fits its pattern. -/
theorem coherent_of_mem_table {rule : Rule} (hrule : rule ∈ table) : rule.Coherent := by
  simp only [table, List.mem_cons, List.not_mem_nil, or_false] at hrule
  rcases hrule with rfl | rfl | rfl | rfl | rfl | rfl | rfl | rfl | rfl | rfl | rfl | rfl | rfl | rfl | rfl <;>
    constructor <;> exact List.cons_ne_nil _ _

/-- Every rule of the language makes progress where it applies. -/
theorem progresses_of_mem_table {rule : Rule} (hrule : rule ∈ table) : rule.Progresses :=
  (coherent_of_mem_table hrule).progresses

end LkLexer.Rule
