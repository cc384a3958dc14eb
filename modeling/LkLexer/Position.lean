import LkLexer.Text.Basic

/-!
# Positions

A position keeps a place of a source in 32 bits, together with the label of the source; a span goes from one
position to another. A place of 2 ^ 32 bytes or more is kept as its remainder, so positions tell the places of
shorter sources only. Main statement: below 2 ^ 32 the offset of a position is the place (`toNat_offset_ofPlace`).
-/

namespace LkLexer

/-- An offset into a source, which bears a label. -/
structure Position where
  offset : UInt32
  label : Text
deriving DecidableEq

namespace Position

/-- The position of a place. -/
def ofPlace (label : Text) (place : Nat) : Position :=
  ⟨UInt32.ofNat place, label⟩

/-- A position moved forward by a number of bytes. -/
def shift (count : Nat) (position : Position) : Position :=
  { position with offset := position.offset + UInt32.ofNat count }

/-- A position moved back by a number of bytes. -/
def unshift (count : Nat) (position : Position) : Position :=
  { position with offset := position.offset - UInt32.ofNat count }

@[simp] theorem label_ofPlace (label : Text) (place : Nat) : (ofPlace label place).label = label := rfl

/-- The offset of a place below 2 ^ 32 is the place. -/
theorem toNat_offset_ofPlace (label : Text) {place : Nat} (hplace : place < UInt32.size) :
    (ofPlace label place).offset.toNat = place :=
  UInt32.toNat_ofNat_of_lt hplace

/-- In a text of less than 2 ^ 32 bytes the offset of a place is the place. -/
theorem toNat_offset_ofPlace_of_isPlace (label : Text) {place : Nat} {text : Text}
    (hlength : Text.byteLength text < UInt32.size) (hplace : Text.IsPlace place text) :
    (ofPlace label place).offset.toNat = place :=
  toNat_offset_ofPlace label (Nat.lt_of_le_of_lt hplace.le_byteLength hlength)

/-- The position of a later place is moved forward. -/
theorem ofPlace_add (label : Text) (place count : Nat) :
    ofPlace label (place + count) = (ofPlace label place).shift count :=
  congrArg (mk · label) (UInt32.ofNat_add place count)

/-- Moving a position forward adds to its offset, as long as that stays below 2 ^ 32. -/
theorem toNat_offset_shift {position : Position} {count : Nat} (hfits : position.offset.toNat + count < UInt32.size) :
    (position.shift count).offset.toNat = position.offset.toNat + count := by
  have hcount : (UInt32.ofNat count).toNat = count :=
    UInt32.toNat_ofNat_of_lt (Nat.lt_of_le_of_lt (Nat.le_add_left _ _) hfits)
  rw [shift, UInt32.toNat_add, hcount, Nat.mod_eq_of_lt hfits]

end Position

/-- The half-open range of bytes from one position to another. -/
structure Span where
  start : Position
  stop : Position
deriving DecidableEq

namespace Span

/-- The span between two places of a source. -/
def between (label : Text) (start stop : Nat) : Span :=
  ⟨.ofPlace label start, .ofPlace label stop⟩

/-- A span moved forward by a number of bytes. -/
def shift (count : Nat) (span : Span) : Span :=
  ⟨span.start.shift count, span.stop.shift count⟩

/-- A span moved back by a number of bytes. -/
def unshift (count : Nat) (span : Span) : Span :=
  ⟨span.start.unshift count, span.stop.unshift count⟩

@[simp] theorem start_between (label : Text) (start stop : Nat) :
    (between label start stop).start = .ofPlace label start := rfl

@[simp] theorem stop_between (label : Text) (start stop : Nat) :
    (between label start stop).stop = .ofPlace label stop := rfl

/-- The span between later places is moved forward. -/
theorem between_add (label : Text) (start stop count : Nat) :
    between label (start + count) (stop + count) = (between label start stop).shift count := by
  rw [between, Position.ofPlace_add, Position.ofPlace_add]
  rfl

end Span

end LkLexer
