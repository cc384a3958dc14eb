import LkLexer.Text.Basic

/-!
# The bytes of a text

A text is stored as the bytes of its characters, each in one to four of them. Main statement: the byte of the
newline is part of no other character (`newlineByte_mem_utf8EncodeChar_iff`), so that the lines of a text
can be found among its bytes.
-/

namespace LkLexer.Text

/-- The bytes of a text in UTF-8. -/
def bytes (text : Text) : List UInt8 :=
  text.flatMap String.utf8EncodeChar

/-- The only byte of the newline. -/
def newlineByte : UInt8 := 10

@[simp] theorem bytes_append (front back : Text) : bytes (front ++ back) = bytes front ++ bytes back :=
  List.flatMap_append

/-- There are as many bytes as are counted for the characters. -/
@[simp] theorem length_bytes (text : Text) : (bytes text).length = byteLength text := by
  induction text with
  | nil => rfl
  | cons c text ih =>
    rw [byteLength_cons, ← ih, ← String.length_utf8EncodeChar, ← List.length_append]
    rfl

/-- A number gives the byte of the newline when it is the newline's code point, up to whole bytes. -/
theorem newlineByte_eq_ofNat_iff (n : Nat) : newlineByte = UInt8.ofNat n ↔ n % 256 = 10 := by
  rw [← UInt8.toNat_inj, UInt8.toNat_ofNat', eq_comm]
  rfl

/-- The byte of the newline is found in the encoding of no other character. -/
theorem newlineByte_mem_utf8EncodeChar_iff (c : Char) : newlineByte ∈ String.utf8EncodeChar c ↔ c = '\n' := by
  have hc : c = '\n' ↔ c.val.toNat = 10 := by
    rw [← Char.toNat_inj]
    rfl
  rw [hc]
  -- Only the characters of ASCII have a byte below 128.
  simp only [String.utf8EncodeChar]
  split
  · simp only [List.mem_singleton, newlineByte_eq_ofNat_iff]
    omega
  · split
    · simp only [List.mem_cons, List.not_mem_nil, or_false, newlineByte_eq_ofNat_iff]
      omega
    · split <;> simp only [List.mem_cons, List.not_mem_nil, or_false, newlineByte_eq_ofNat_iff] <;> omega

/-- The newlines of a text are the newlines among its bytes. -/
theorem count_newlineByte_bytes (text : Text) : (bytes text).count newlineByte = text.count '\n' := by
  induction text with
  | nil => rfl
  | cons c text ih =>
    change (String.utf8EncodeChar c ++ bytes text).count newlineByte = _
    rw [List.count_append, ih, List.count_cons, Nat.add_comm]
    congr 1
    by_cases hc : c = '\n'
    · subst hc
      decide
    · rw [List.count_eq_zero.mpr fun hmem => hc ((newlineByte_mem_utf8EncodeChar_iff c).mp hmem)]
      simp [hc]

/-- The byte of the newline is found where there is a newline. -/
theorem newlineByte_mem_bytes_iff (text : Text) : newlineByte ∈ bytes text ↔ '\n' ∈ text := by
  rw [← List.count_pos_iff, count_newlineByte_bytes, List.count_pos_iff]

end LkLexer.Text
