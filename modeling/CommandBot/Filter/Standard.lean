import CommandBot.Filter.Basic
import CommandBot.Text.Blank
import CommandBot.Text.Case
import CommandBot.Text.Percent

/-!
# The standard filters

Case, blanks and percent encoding work on the text of a value. Addition and subtraction work on
numbers and on text that reads as one; joining works on arrays; a default stands in for values that
count as false.
-/

namespace CommandBot.Filter

/-- A filter that maps the text of a value and ignores its argument. -/
def onText (f : Text → Text) : Filter := fun v _ => .ok (some (.string (f v.text)))

/-- The number that a value is, or that its text reads as. -/
def numberOf : Json → Except FilterError Float
  | .number n => .ok n.toFloat
  | v => (FloatText.read v.text.trim).mapError (.notANumber v.text)

/-- A float as a value: without a fraction and within 63 bits it is an integer. -/
def ofFloat (x : Float) : Except FilterError Json :=
  if !Binary64.isFinite x then .error .notFinite
  else if x.floor == x && x.abs < Binary64.ofQuotient false Binary64.signBit 1 then
    .ok (.number (.int (Binary64.truncate x)))
  else .ok (.number (.float x))

/-- A filter that combines a number with the number in its argument. -/
def arithmetic (combine : Float → Float → Float) : Filter := fun v argument => do
  let operand ← match argument with
    | none => .error .missingOperand
    | some t => (FloatText.read t.trim).mapError .operandNotANumber
  let x ← numberOf v
  return some (← ofFloat (combine x operand))

/-- Joins the texts of an array's items, with a comma and a space between them unless the argument
is another separator. Any other value stays as it is. -/
def joinItems : Filter
  | .array items, separator =>
    .ok (some (.string (Text.join (separator.getD [',', ' ']) (items.map Json.text))))
  | v, _ => .ok (some v)

/-- The argument in place of a value that counts as false; without one, the empty text. -/
def orDefault : Filter := fun v argument =>
  .ok (some (if v.truthy then v else .string (argument.getD [])))

/-- The filters by name. -/
def standard : Registry Filter := .ofList
  [("lower".toList, onText Text.lower),
   ("upper".toList, onText Text.upper),
   ("title".toList, onText Text.title),
   ("capitalize".toList, onText Text.capitalize),
   ("swapcase".toList, onText Text.swapCase),
   ("strip".toList, onText Text.trim),
   ("urlencode".toList, onText Text.percentEncode),
   ("add".toList, arithmetic (· + ·)),
   ("subtract".toList, arithmetic (· - ·)),
   ("join".toList, joinItems),
   ("default".toList, orDefault)]

end CommandBot.Filter
