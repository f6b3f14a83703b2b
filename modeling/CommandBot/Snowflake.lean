import CommandBot.Numeral.Integer
import CommandBot.Text.Blank

/-!
# Snowflakes

Snowflakes are the identifiers of the chat platform: users, roles, channels and guilds all have
one. A user may also be named by a mention.
-/

namespace CommandBot

/-- A positive number of 64 bits. -/
structure Snowflake where
  val : Nat
  pos : 0 < val
  le_max : val ≤ Numeral.maxWord
  deriving DecidableEq

namespace Snowflake

/-- The snowflake of a number in range. -/
def ofNat? (n : Nat) : Option Snowflake :=
  if h : 0 < n ∧ n ≤ Numeral.maxWord then some ⟨n, h.1, h.2⟩ else none

instance : Repr Snowflake := ⟨fun s p => reprPrec s.val p⟩

/-- The decimal digits of a snowflake. -/
def print (s : Snowflake) : Text := Numeral.printNat s.val

/-- The text that mentions a user. -/
def mention (s : Snowflake) : Text := ['<', '@'] ++ s.print ++ ['>']

/-- The numeral inside a mention, with or without an exclamation mark; any other text itself. -/
def withoutMention (t : Text) : Text :=
  match (t.after? ['<', '@']).bind (Text.before? · ['>']) with
  | some inner => (inner.after? ['!']).getD inner
  | none => t

/-- The user that a text names by a bare numeral or a mention, blanks around it ignored. -/
def ofTarget? (t : Text) : Option Snowflake :=
  match Numeral.readNat Numeral.maxWord (withoutMention t.trim) with
  | .ok n => ofNat? n
  | .error _ => none

end Snowflake

end CommandBot
