import CommandBot.Numeral.Shortest

/-!
# JSON values

The values that variables yield and filters transform, their compact printed form, the text that
stands for them in a message, and which of them count as true.
-/

namespace CommandBot

/-- A JSON number: an integer of 64 bits, signed or not, or a finite float. -/
inductive Number where
  | int (n : Int)
  | float (x : Float)

namespace Number

/-- The float nearest to a number. -/
def toFloat : Number → Float
  | .int n => Binary64.ofInt n
  | .float x => x

/-- The printed form of a number. -/
def print : Number → Text
  | .int n => Numeral.printInt n
  | .float x => Shortest.print x

end Number

/-- A JSON value; the members of an object stand in order of their names. -/
inductive Json where
  | null
  | bool (b : Bool)
  | number (n : Number)
  | string (t : Text)
  | array (items : List Json)
  | object (members : List (Text × Json))

namespace Json

/-- The escape of a character inside quotes, if it needs one. -/
def escape (c : Char) : Text :=
  if c == '"' then ['\\', '"']
  else if c == '\\' then ['\\', '\\']
  else if c == '\n' then ['\\', 'n']
  else if c == '\r' then ['\\', 'r']
  else if c == '\t' then ['\\', 't']
  else if c == '\x08' then ['\\', 'b']
  else if c == '\x0c' then ['\\', 'f']
  else if c.toNat < 0x20 then
    "\\u00".toList ++ [Numeral.hexDigit (c.toNat / 16), Numeral.hexDigit (c.toNat % 16)]
  else [c]

/-- A text in quotes. -/
def quote (t : Text) : Text := '"' :: t.flatMap escape ++ ['"']

mutual

/-- The compact printed form of a value. -/
def print : Json → Text
  | .null => "null".toList
  | .bool true => "true".toList
  | .bool false => "false".toList
  | .number n => n.print
  | .string t => quote t
  | .array items => '[' :: Text.join [','] (printItems items) ++ [']']
  | .object members => '{' :: Text.join [','] (printMembers members) ++ ['}']

/-- The printed forms of the items of an array. -/
def printItems : List Json → List Text
  | [] => []
  | v :: r => print v :: printItems r

/-- The printed forms of the members of an object. -/
def printMembers : List (Text × Json) → List Text
  | [] => []
  | (name, v) :: r => (quote name ++ ':' :: print v) :: printMembers r

end

/-- The text that stands for a value in a message: a string is bare, null is empty, and any other
value stands in its compact printed form. -/
def text : Json → Text
  | .string t => t
  | .null => []
  | v => v.print

/-- Whether a value counts as true: null, zero and everything empty do not. -/
def truthy : Json → Bool
  | .null => false
  | .bool b => b
  | .number n => n.toFloat != 0
  | .string t => !t.isEmpty
  | .array items => !items.isEmpty
  | .object members => !members.isEmpty

end Json

end CommandBot
