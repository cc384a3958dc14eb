import LkLexer.Proofs.Numerals
import LkLexer.Text.Quoted
import Mathlib.Tactic.SplitIfs

/-!
# What can be read off a quotation

Each way in which a character is quoted can be told from the others by how it begins, and says by itself where
it ends. So the characters of a quotation are known one after the other, up to the closing delimiter, with
which no quoted character begins. Main statements: a quoted character can be told from every other whatever
text is behind it (`escape_append_injective`), and so can a quoted text (`quote_append_injective`), which stays
on its line (`newline_not_mem_quote`).
-/

namespace LkLexer.Text

/-- Texts that go on behind the first occurrence of a character agree before it and behind it. -/
theorem append_cons_injective {c : Char} {front front' back back' : Text} (hfront : c ∉ front) (hfront' : c ∉ front')
    (heq : front ++ c :: back = front' ++ c :: back') : front = front' ∧ back = back' := by
  induction front generalizing front' with
  | nil =>
    cases front' with
    | nil => exact ⟨rfl, (List.cons.inj heq).2⟩
    | cons d front' => exact absurd (List.cons.inj heq).1 (List.ne_of_not_mem_cons hfront')
  | cons d front ih =>
    cases front' with
    | nil => exact absurd (List.cons.inj heq).1.symm (List.ne_of_not_mem_cons hfront)
    | cons d' front' =>
      obtain ⟨rfl, hlater⟩ := List.cons.inj heq
      obtain ⟨rfl, rfl⟩ := ih (List.not_mem_of_not_mem_cons hfront) (List.not_mem_of_not_mem_cons hfront') hlater
      exact ⟨rfl, rfl⟩

/-- The character that a letter behind a backslash stands for; any other character stands for itself. -/
def meantBy : Char → Char
  | '0' => '\x00'
  | 't' => '\t'
  | 'r' => '\r'
  | 'n' => '\n'
  | c => c

/-- The ways in which a character stands between two delimiters: as itself, behind a backslash, or by its code
point. -/
inductive Escaped (delimiter : Char) : Char → Text → Prop
  | plain {c : Char} (hplain : c ∉ ['\\', '\n', delimiter]) : Escaped delimiter c [c]
  | short {k : Char} (hshort : k ∉ ['u', '\n']) : Escaped delimiter (meantBy k) ['\\', k]
  | codePoint (c : Char) : Escaped delimiter c (escapeCodePoint c)

/-- The delimiters of quotations. -/
def IsDelimiter (delimiter : Char) : Prop :=
  delimiter = '"' ∨ delimiter = '\''

section Escaped

variable {delimiter c d : Char} {front front' back back' : Text}

/-- Quoting a character uses one of the ways. -/
theorem escaped_escape (hdelimiter : IsDelimiter delimiter) (c : Char) : Escaped delimiter c (escape delimiter c) := by
  have hself (hc : c = '\\' ∨ c = delimiter) : Escaped delimiter c ['\\', c] := by
    rcases hc with rfl | rfl
    · exact .short (k := '\\') (by decide)
    · rcases hdelimiter with rfl | rfl
      · exact .short (k := '"') (by decide)
      · exact .short (k := '\'') (by decide)
  unfold escape
  split_ifs with hnull htab hreturn hnewline hbackslash hvisible
  · exact hnull ▸ .short (k := '0') (by decide)
  · exact htab ▸ .short (k := 't') (by decide)
  · exact hreturn ▸ .short (k := 'r') (by decide)
  · exact hnewline ▸ .short (k := 'n') (by decide)
  · exact hself hbackslash
  · exact .plain (by simpa [not_or, and_left_comm, hnewline] using hbackslash)
  · exact .codePoint c

/-- A quoted character does not begin with the delimiter. -/
theorem Escaped.head?_ne (hdelimiter : IsDelimiter delimiter) (hescaped : Escaped delimiter c front) :
    front.head? ≠ some delimiter := by
  have hbackslash : '\\' ≠ delimiter := by
    rcases hdelimiter with rfl | rfl <;> decide
  cases hescaped with
  | plain hplain =>
    intro hhead
    exact hplain (by simp [Option.some.inj hhead])
  | short hshort => exact fun hhead => hbackslash (Option.some.inj hhead)
  | codePoint c => exact fun hhead => hbackslash (Option.some.inj hhead)

/-- A quoted character stays on its line. -/
theorem Escaped.newline_not_mem (hescaped : Escaped delimiter c front) : '\n' ∉ front := by
  cases hescaped with
  | plain hplain =>
    intro hmem
    exact hplain (by simp [← List.mem_singleton.mp hmem])
  | short hshort =>
    intro hmem
    have hk := List.mem_singleton.mp (List.mem_of_ne_of_mem (by decide) hmem)
    exact hshort (by simp [← hk])
  | codePoint c =>
    have hdigits := not_mem_hexadecimal (fun _ => Nat.digitChar_ne '\n' (by decide)) c.toNat
    simp [escapeCodePoint, hdigits]

/-- A code point in braces tells the character and where what is behind it begins. -/
theorem escapeCodePoint_append_injective (heq : escapeCodePoint c ++ back = escapeCodePoint d ++ back') :
    c = d ∧ back = back' := by
  simp only [escapeCodePoint, List.cons_append, List.nil_append, List.append_assoc, List.cons.injEq, true_and] at heq
  have hbrace (n : Nat) : '\x7d' ∉ hexadecimal n := not_mem_hexadecimal (fun _ => Nat.digitChar_ne '\x7d' (by decide)) n
  obtain ⟨hdigits, hback⟩ := append_cons_injective (hbrace _) (hbrace _) heq
  exact ⟨Char.toNat_inj.mp (hexadecimal_injective hdigits), hback⟩

/-- The way in which a character is quoted tells the character and where what is behind it begins. -/
theorem Escaped.append_injective (hfront : Escaped delimiter c front) (hfront' : Escaped delimiter d front')
    (heq : front ++ back = front' ++ back') : c = d ∧ back = back' := by
  -- A character that stands for itself is no backslash, and the letter behind a backslash is not `u`.
  cases hfront with
  | plain hplain =>
    cases hfront' with
    | plain => exact List.cons.inj heq
    | short | codePoint => exact absurd (List.cons.inj heq).1 (List.ne_of_not_mem_cons hplain)
  | short hshort =>
    cases hfront' with
    | plain hplain => exact absurd (List.cons.inj heq).1.symm (List.ne_of_not_mem_cons hplain)
    | short =>
      obtain ⟨hletter, hback⟩ := List.cons.inj (List.cons.inj heq).2
      exact ⟨congrArg meantBy hletter, hback⟩
    | codePoint =>
      exact absurd (List.cons.inj (List.cons.inj heq).2).1 (List.ne_of_not_mem_cons hshort)
  | codePoint =>
    cases hfront' with
    | plain hplain => exact absurd (List.cons.inj heq).1.symm (List.ne_of_not_mem_cons hplain)
    | short hshort =>
      exact absurd (List.cons.inj (List.cons.inj heq).2).1.symm (List.ne_of_not_mem_cons hshort)
    | codePoint => exact escapeCodePoint_append_injective heq

/-- A quoted character can be told from every other, whatever text is behind it. -/
theorem escape_append_injective (hdelimiter : IsDelimiter delimiter)
    (heq : escape delimiter c ++ back = escape delimiter d ++ back') : c = d ∧ back = back' :=
  (escaped_escape hdelimiter c).append_injective (escaped_escape hdelimiter d) heq

/-- The closing delimiter of a quotation is not taken for a quoted character. -/
theorem escape_append_ne (hdelimiter : IsDelimiter delimiter) (c : Char) (back back' : Text) :
    escape delimiter c ++ back ≠ delimiter :: back' := by
  have hescaped := escaped_escape hdelimiter c
  intro heq
  cases hescape : escape delimiter c with
  | nil => rw [hescape] at hescaped; cases hescaped
  | cons first later =>
    rw [hescape] at heq hescaped
    exact hescaped.head?_ne hdelimiter (congrArg some (List.cons.inj heq).1)

/-- Quoted characters can be told from others, up to the delimiter that closes the quotation. -/
theorem flatMap_escape_append_injective (hdelimiter : IsDelimiter delimiter) {text text' : Text}
    (heq : text.flatMap (escape delimiter) ++ delimiter :: back =
      text'.flatMap (escape delimiter) ++ delimiter :: back') :
    text = text' ∧ back = back' := by
  induction text generalizing text' with
  | nil =>
    cases text' with
    | nil => exact ⟨rfl, (List.cons.inj heq).2⟩
    | cons d text' =>
      rw [List.flatMap_cons, List.append_assoc] at heq
      exact absurd heq.symm (escape_append_ne hdelimiter d _ back)
  | cons c text ih =>
    rw [List.flatMap_cons, List.append_assoc] at heq
    cases text' with
    | nil => exact absurd heq (escape_append_ne hdelimiter c _ back')
    | cons d text' =>
      rw [List.flatMap_cons, List.append_assoc] at heq
      obtain ⟨rfl, hlater⟩ := escape_append_injective hdelimiter heq
      obtain ⟨rfl, rfl⟩ := ih hlater
      exact ⟨rfl, rfl⟩

end Escaped

/-- A character between single quotes can be told from every other, whatever text is behind it. -/
theorem quoteChar_append_injective {c d : Char} {back back' : Text}
    (heq : quoteChar c ++ back = quoteChar d ++ back') : c = d ∧ back = back' := by
  simp only [quoteChar, List.cons_append, List.append_assoc, List.nil_append, List.cons.injEq, true_and] at heq
  obtain ⟨rfl, hback⟩ := escape_append_injective (Or.inr rfl) heq
  exact ⟨rfl, (List.cons.inj hback).2⟩

/-- A quoted text can be told from every other, whatever text is behind it. -/
theorem quote_append_injective {text text' back back' : Text} (heq : quote text ++ back = quote text' ++ back') :
    text = text' ∧ back = back' := by
  have hdelimiter : IsDelimiter '"' := Or.inl rfl
  simp only [quote, List.cons_append, List.append_assoc, List.nil_append, List.cons.injEq, true_and] at heq
  exact flatMap_escape_append_injective hdelimiter heq

/-- A quoted text stays on its line. -/
theorem newline_not_mem_quote (text : Text) : '\n' ∉ quote text := by
  have hdelimiter : IsDelimiter '"' := Or.inl rfl
  have hescaped : '\n' ∉ text.flatMap (escape '"') := by
    rw [List.mem_flatMap]
    rintro ⟨c, -, hmem⟩
    exact (escaped_escape hdelimiter c).newline_not_mem hmem
  simp [quote, hescaped]

end LkLexer.Text
