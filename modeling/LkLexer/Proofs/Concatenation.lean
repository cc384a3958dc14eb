import LkLexer.Proofs.Tiling

/-!
# Texts one after another

Behind an accepted text the tokenizer has nothing in hand but its place. So a text that the last token does
not go on into has the result that it has alone, further on by the bytes of the text before it: the same
tokens behind those before, or the same error. Main statement: this law for every such text, with the newline
as the text behind which everything stands apart (`tokenize_append_eq_behind`).
-/

namespace LkLexer

/-- An error moved forward by a number of bytes. -/
def LexError.shift (count : Nat) (error : LexError) : LexError :=
  { error with position := error.position.shift count }

/-- The result of a text that stands behind the text of some tokens, a number of bytes further on. -/
def LexResult.behind (tokens : List Token) (count : Nat) : LexResult → LexResult
  | .ok later => .ok (tokens ++ later.map (Token.shift count))
  | .error error => .error (error.shift count)

/-- Moving a result forward adds a number of bytes to its offsets, as none of them reaches 2 ^ 32. -/
def LexResult.ShiftsBy (count : Nat) : LexResult → Prop
  | .ok tokens => ∀ token ∈ tokens,
    (token.shift count).start = token.start + count ∧ (token.shift count).stop = token.stop + count
  | .error error => (error.shift count).position.offset.toNat = error.position.offset.toNat + count

/-- The offsets of a text are those of its places, or less, and so can be moved forward within 2 ^ 32 bytes. -/
theorem shiftsBy_tokenize {source : Text} {count : Nat} (hfits : Text.byteLength source + count < UInt32.size)
    (label? : Option Text) : (tokenize source label?).ShiftsBy count := by
  have hlength : Text.byteLength source < UInt32.size := by omega
  cases hresult : tokenize source label? with
  | ok tokens =>
    intro token hmem
    obtain ⟨lexemes, -, rfl, rfl⟩ := tokenize_eq_ok_iff.mp hresult
    obtain ⟨before, after, hjoined, hstart, hstop⟩ :=
      Token.exists_offsets_of_mem_layOut ((Nat.zero_add _).symm ▸ hlength) hmem
    rw [← hjoined, Text.byteLength_append, Text.byteLength_append] at hfits
    rw [Text.byteLength_append] at hstop
    refine ⟨Position.toNat_offset_shift ?_, Position.toNat_offset_shift ?_⟩
    · change token.start + count < UInt32.size
      omega
    · change token.stop + count < UInt32.size
      omega
  | error error =>
    obtain ⟨place, hplace, hposition⟩ := exists_isPlace_of_tokenize_eq_error hresult
    have hle := hplace.le_byteLength
    have hoffset := Position.toNat_offset_ofPlace_of_isPlace (label?.getD defaultLabel) hlength hplace
    rw [← hposition] at hoffset
    exact Position.toNat_offset_shift (by omega)

/-- A text from which lexemes stand apart has behind them the result that it has alone. -/
theorem tokenize_joined_append_eq_behind {lexemes : List Lexeme} {rest : Text}
    (hapart : Lexeme.SetApart lexemes rest) (label? : Option Text) :
    tokenize (Lexeme.joined lexemes ++ rest) label? =
      (tokenize rest label?).behind (Token.layOut (label?.getD defaultLabel) 0 lexemes)
        (Text.byteLength (Lexeme.joined lexemes)) := by
  -- One division of the rest decides its result alone and, behind the lexemes, the result of both.
  obtain ⟨later, after, rfl, hlater, hend⟩ := exists_division rest
  have hboth : Lexeme.SetApart (lexemes ++ later) after :=
    (Lexeme.setApart_append_iff lexemes later after).mpr ⟨hapart, hlater⟩
  rw [← List.append_assoc, ← Lexeme.joined_append]
  rcases hend with rfl | ⟨fault, hblocks⟩
  · rw [Lexeme.setApart_nil_iff] at hlater hboth
    rw [List.append_nil, List.append_nil, tokenize_joined hboth, tokenize_joined hlater, LexResult.behind,
      Token.layOut_append, ← Token.layOut_add]
  · rw [tokenize_joined_append hboth hblocks, tokenize_joined_append hlater hblocks, LexResult.behind,
      LexError.shift, Lexeme.joined_append, Text.byteLength_append, Nat.add_comm (Text.byteLength _),
      Fault.reportedAt_add, Position.ofPlace_add]

/-- Behind an accepted text, a text that its last token does not go on into has the result that it has alone, moved
forward by the bytes of the accepted text; as long as both have less than 2 ^ 32, these are added to all offsets. Every
text that begins with a newline is one; what is behind the newline has the result that it has alone. -/
theorem tokenize_append_eq_behind {source : Text} {label? : Option Text} {tokens : List Token}
    (hok : tokenize source label? = .ok tokens) :
    (∀ rest, (∀ last ∈ tokens.getLast?, last.kind.StopsBefore rest) →
      tokenize (source ++ rest) label? = (tokenize rest label?).behind tokens (Text.byteLength source)) ∧
    (∀ rest, Text.byteLength (source ++ rest) < UInt32.size →
      (tokenize rest label?).ShiftsBy (Text.byteLength source)) ∧
    ∀ rest,
      tokenize (source ++ ['\n'] ++ rest) label? =
        (tokenize (['\n'] ++ rest) label?).behind tokens (Text.byteLength source) ∧
      tokenize (['\n'] ++ rest) label? =
        (tokenize rest label?).behind [⟨⟨.newline, ['\n']⟩, .between (label?.getD defaultLabel) 0 1⟩] 1 := by
  obtain ⟨lexemes, harranged, rfl, rfl⟩ := tokenize_eq_ok_iff.mp hok
  have hbehind (rest : Text) (hstops : ∀ last ∈ lexemes.getLast?, last.kind.StopsBefore rest) :=
    tokenize_joined_append_eq_behind ((Lexeme.setApart_iff lexemes rest).mpr ⟨harranged, hstops⟩) label?
  have hnewline (kind : Kind) (rest : Text) : kind.StopsBefore (['\n'] ++ rest) :=
    (Kind.stopsBefore_cons kind '\n' rest).mpr kind.continuesWith_newline
  refine ⟨fun rest hstops => hbehind rest ?_, fun rest hfits => shiftsBy_tokenize ?_ label?, fun rest => ⟨?_, ?_⟩⟩
  · have hlast := (Token.forall_mem_getLast?_lexemes_iff _ fun last => last.kind.StopsBefore rest).mpr hstops
    rwa [Token.lexemes_layOut] at hlast
  · rwa [Nat.add_comm, ← Text.byteLength_append]
  · rw [List.append_assoc]
    exact hbehind _ fun last _ => hnewline last.kind rest
  · have hapart : Lexeme.SetApart [⟨.newline, ['\n']⟩] rest := ⟨rfl, fun _ _ => rfl, trivial⟩
    exact tokenize_joined_append_eq_behind hapart label?

/-- A newline ends a line comment, and a fault behind it is found six bytes further on than it is alone. -/
theorem tokenize_comment_append_refused :
    let source := "a //é".toList
    let tokens : List Token :=
      [⟨⟨.identifier, "a".toList⟩, .between defaultLabel 0 1⟩, ⟨⟨.whitespace, " ".toList⟩, .between defaultLabel 1 2⟩,
       ⟨⟨.comment, "//é".toList⟩, .between defaultLabel 2 6⟩]
    tokenize source none = .ok tokens ∧ (∀ last ∈ tokens.getLast?, last.kind.StopsBefore "\n/".toList) ∧
      tokenize (source ++ "\n/".toList) none =
        LexResult.behind tokens 6 (.error ⟨.unexpectedCharacter '/', .ofPlace defaultLabel 1⟩) := by
  intro source tokens
  have hok : tokenize source none = .ok tokens := by decide +kernel
  have hstops : ∀ last ∈ tokens.getLast?, last.kind.StopsBefore "\n/".toList := by
    intro last hlast
    obtain rfl := Option.some.inj hlast
    exact (Kind.stopsBefore_cons .comment '\n' _).mpr (by decide)
  have hrest : tokenize "\n/".toList none = .error ⟨.unexpectedCharacter '/', .ofPlace defaultLabel 1⟩ := by
    decide +kernel
  refine ⟨hok, hstops, ?_⟩
  rw [(tokenize_append_eq_behind hok).1 _ hstops, hrest]
  rfl

end LkLexer
