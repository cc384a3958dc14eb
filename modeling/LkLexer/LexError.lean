import LkLexer.Position
import LkLexer.Text.Quoted

/-!
# What can be wrong with a source

A source is refused for one of two faults, at one place. This module holds the faults and their wording: a
name, a reason, a message that adds the place, and a tip for the reader.
-/

namespace LkLexer

/-- What can be wrong with a source. -/
inductive Fault where
  | unexpectedCharacter (character : Char)
  | unterminatedBlockComment
deriving DecidableEq

/-- Advice that goes with a fault, if there is any. -/
inductive Tip where
  | none
  | suggestion (text : Text)
deriving DecidableEq

/-- The wording of a tip; no advice has no words. -/
def Tip.text : Tip → Text
  | none => []
  | suggestion text => text

namespace Fault

/-- The name under which a fault is reported. -/
def name : Fault → Text
  | unexpectedCharacter _ => "UnexpectedCharacter".toList
  | unterminatedBlockComment => "UnterminatedBlockComment".toList

/-- What is wrong, in words. -/
def reason : Fault → Text
  | unexpectedCharacter character => "unexpected character ".toList ++ Text.quoteChar character
  | unterminatedBlockComment => "unterminated block comment".toList

@[simp] theorem reason_unexpectedCharacter (character : Char) :
    (unexpectedCharacter character).reason = "unexpected character ".toList ++ Text.quoteChar character := rfl

@[simp] theorem reason_unterminatedBlockComment :
    unterminatedBlockComment.reason = "unterminated block comment".toList := rfl

/-- The advice for a fault. A lone exclamation mark is most often half of an operator. -/
def tip : Fault → Tip
  | unexpectedCharacter character =>
    if character = '!' then .suggestion "`!` is only valid as part of `!=`".toList
    else .suggestion ("Unexpected character: ".toList ++ Text.quoteChar character)
  | unterminatedBlockComment => .suggestion "Block comment is never closed, add a matching `*/`".toList

end Fault

/-- A fault, with the position at which it was found. -/
structure LexError where
  fault : Fault
  position : Position
deriving DecidableEq

/-- What is wrong and where, in words. -/
def LexError.message (error : LexError) : Text :=
  error.fault.reason ++ " at offset ".toList ++ Text.decimal error.position.offset.toNat

end LkLexer
