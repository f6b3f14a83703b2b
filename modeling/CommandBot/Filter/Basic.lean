import CommandBot.Json.Basic
import CommandBot.Numeral.FloatText
import CommandBot.Registry
import CommandBot.Template.Placeholder

/-!
# Filters

A filter transforms a value and may take an argument. It yields a value, yields no value, or fails.
A pipeline applies filters in order: no value ends it without a value, and a failure ends it with
the last value that it had.
-/

namespace CommandBot

/-- Why a filter fails. -/
inductive FilterError where
  | missingOperand
  | operandNotANumber (fault : FloatFault)
  | notANumber (text : Text) (fault : FloatFault)
  | notFinite
  | custom (message : String)

/-- The wording of a failure. -/
def FilterError.message : FilterError → String
  | .missingOperand => "missing operand"
  | .operandNotANumber fault => "operand is not a number: " ++ fault.message
  | .notANumber text fault =>
    "\x60" ++ text.asString ++ "\x60 is not a number: " ++ fault.message
  | .notFinite => "result is not finite"
  | .custom message => message

/-- What a filter makes of a value and an argument. -/
abbrev Filter := Json → Option Text → Except FilterError (Option Json)

/-- Applies a filter named in a template to a value. -/
abbrev FilterCaller := Template.FilterCall → Json → Except FilterError (Option Json)

/-- Applies the filter of a name; an unknown name leaves the value as it is. -/
def Registry.callFilter (filters : Registry Filter) : FilterCaller := fun call v =>
  match filters.get? call.name with
  | some filter => filter v call.argument
  | none => .ok (some v)

/-- The value after all filters of a pipeline. -/
def pipeline (apply : FilterCaller) : List Template.FilterCall → Json → Option Json
  | [], v => some v
  | call :: calls, v =>
    match apply call v with
    | .ok (some w) => pipeline apply calls w
    | .ok none => none
    | .error _ => some v

end CommandBot
