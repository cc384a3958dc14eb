import LkLexer.Text.Basic

/-!
# Numerals

A numeral is made of digits only, so that what stands between numerals can be told from them, and in the bases
in use no two numbers have the same one. Main statements: a number is determined by its numeral
(`decimal_injective`, `hexadecimal_injective`), and which characters are in none (`not_mem_decimal`,
`not_mem_hexadecimal`).
-/

namespace LkLexer.Text

variable {base : Nat}

/-- A numeral is the digit of the ones behind the numeral of the rest, if there is a rest. -/
theorem toDigits_eq_append (hbase : 1 < base) (n : Nat) :
    Nat.toDigits base n = (if n < base then [] else Nat.toDigits base (n / base)) ++ [Nat.digitChar (n % base)] := by
  rw [Nat.toDigits_eq_if hbase]
  split
  · next hlt => rw [Nat.mod_eq_of_lt hlt, List.nil_append]
  · rfl

/-- A numeral is made of digits. -/
theorem exists_digitChar_of_mem_toDigits (hbase : 1 < base) {n : Nat} {c : Char} (hmem : c ∈ Nat.toDigits base n) :
    ∃ digit, c = Nat.digitChar digit := by
  induction n using Nat.strongRecOn with
  | ind n ih =>
    rw [toDigits_eq_append hbase, List.mem_append] at hmem
    rcases hmem with hmem | hmem
    · split at hmem
      · cases hmem
      · next hle => exact ih (n / base) (Nat.div_lt_self (by omega) hbase) hmem
    · exact ⟨n % base, List.mem_singleton.mp hmem⟩

/-- Up to sixteen, every digit has a character of its own. -/
theorem digitChar_injective : ∀ m < 16, ∀ n < 16, Nat.digitChar m = Nat.digitChar n → m = n := by
  decide

/-- In a base up to sixteen, numbers with the same numeral are the same. -/
theorem toDigits_injective (hbase : 1 < base) (hsixteen : base ≤ 16) {m n : Nat}
    (heq : Nat.toDigits base m = Nat.toDigits base n) : m = n := by
  induction m using Nat.strongRecOn generalizing n with
  | ind m ih =>
    rw [toDigits_eq_append hbase m, toDigits_eq_append hbase n] at heq
    -- The last digits are the remainders, and the digits before them the numerals of the quotients.
    obtain ⟨hrest, hones⟩ := List.append_inj' heq rfl
    have hm : m % base < base := Nat.mod_lt m (by omega)
    have hn : n % base < base := Nat.mod_lt n (by omega)
    have hmod : m % base = n % base :=
      digitChar_injective _ (by omega) _ (by omega) (List.singleton_inj.mp hones)
    have hdiv : m / base = n / base := by
      split at hrest <;> split at hrest
      · next hmlt hnlt => rw [Nat.div_eq_of_lt hmlt, Nat.div_eq_of_lt hnlt]
      · exact absurd hrest.symm Nat.toDigits_ne_nil
      · exact absurd hrest Nat.toDigits_ne_nil
      · next hmle hnle => exact ih (m / base) (Nat.div_lt_self (by omega) hbase) hrest
    rw [← Nat.div_add_mod m base, hdiv, hmod, Nat.div_add_mod]

/-- A number is determined by its decimal numeral. -/
theorem decimal_injective {m n : Nat} (heq : decimal m = decimal n) : m = n :=
  toDigits_injective (by decide) (by decide) heq

/-- A number is determined by its hexadecimal numeral. -/
theorem hexadecimal_injective {m n : Nat} (heq : hexadecimal m = hexadecimal n) : m = n :=
  toDigits_injective (by decide) (by decide) heq

/-- Decimal numerals have only decimal digits. -/
theorem not_mem_decimal {c : Char} (hc : c.isDigit = false) (n : Nat) : c ∉ decimal n := by
  intro hmem
  have hdigit := Nat.isDigit_of_mem_toDigits (by decide) (by decide) hmem
  rw [hc] at hdigit
  cases hdigit

/-- Hexadecimal numerals have only hexadecimal digits. -/
theorem not_mem_hexadecimal {c : Char} (hc : ∀ digit, Nat.digitChar digit ≠ c) (n : Nat) : c ∉ hexadecimal n := by
  intro hmem
  obtain ⟨digit, hdigit⟩ := exists_digitChar_of_mem_toDigits (by decide) hmem
  exact hc digit hdigit.symm

end LkLexer.Text
