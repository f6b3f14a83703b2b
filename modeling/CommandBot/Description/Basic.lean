import CommandBot.Action.Basic
import CommandBot.Json.Lexer

/-!
# Descriptions of actions

Commands are stored as descriptions, which name the type of an action and give its fields. Building
an action from one fails for an unknown type or a missing field; a callback that does not exist
makes no action, and a menu drops the children that it would have to run. The first error in depth
first order counts.
-/

namespace CommandBot

mutual

/-- The description of an action: its type, and the fields that the types take. -/
structure Description where
  type : Text
  message : Option Text
  callback : Option Text
  children : List ChildDescription
  default : Option Text
  fallback : Option Text

/-- The description of a menu's child. -/
structure ChildDescription where
  /-- The aliases of the child, separated by bars. -/
  aliasList : Text
  level : Level
  action : Description
  description : Option Text

end

/-- Why a description makes no action. -/
inductive DescriptionError where
  | json (fault : Json.Fault)
  | unknownType (type : Text)
  | missingField (type field : String)
  deriving Repr, DecidableEq

/-- The wording of an error; a fault in JSON text is told by its category. -/
def DescriptionError.message : DescriptionError → String
  | .json fault => fault.category
  | .unknownType type => "unknown action type \x60" ++ type.asString ++ "\x60"
  | .missingField type field =>
    "action type \x60" ++ type ++ "\x60 is missing field \x60" ++ field ++ "\x60"

/-- The variables and callbacks that descriptions may name. -/
structure Vocabulary where
  families : Registry Family
  callbacks : Registry Callback

/-- The value of a field that a type of action requires. -/
def required (value : Option Text) (type field : String) : Except DescriptionError Text :=
  match value with
  | some t => .ok t
  | none => .error (.missingField type field)

mutual

/-- The action that a description makes. -/
def Description.build (v : Vocabulary) : Description → Except DescriptionError (Option Action)
  | ⟨type, message, callback, children, default, fallback⟩ =>
    if type = "channelmessage".toList then do
      return some (.leaf (.say ⟨← required message "channelmessage" "message", v.families⟩))
    else if type = "privatemessage".toList then do
      return some (.leaf (.whisper ⟨← required message "privatemessage" "message", v.families⟩))
    else if type = "func".toList then do
      let name ← required callback "func" "cb"
      return (v.callbacks.get? name).map fun c => .leaf (.func name c)
    else if type = "multi".toList then do
      return some (.menu (.ofChildren (← buildChildren v children) default fallback))
    else .error (.unknownType type)

/-- The commands that descriptions make, each with one of its aliases, in order. -/
def buildChildren (v : Vocabulary) :
    List ChildDescription → Except DescriptionError (List (Text × Command))
  | [] => .ok []
  | ⟨aliasList, level, action, description⟩ :: r => do
    let child ← action.build v
    let rest ← buildChildren v r
    return match child with
      | none => rest
      | some a => (aliases aliasList).map (·, ⟨level, a, description⟩) ++ rest

end

end CommandBot
