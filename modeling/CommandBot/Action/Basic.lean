import CommandBot.Callback
import CommandBot.Template.Render
import CommandBot.Text.Case

/-!
# Actions and commands

A leaf action sends a response or runs a callback. A menu routes the first word of a message to one
of several commands. A command is an action that asks for a level.
-/

namespace CommandBot

/-- An action that routes no further. The errors of a plain callback are swallowed, those of a raw
one are passed on. -/
inductive Leaf where
  | say (template : Template)
  | whisper (template : Template)
  | func (name : Text) (callback : Callback)
  | rawFunc (name : Text) (callback : Callback)

/-- Children by alias. Children can be added to the live ones; the initial ones are kept so as to go
back to them. -/
structure Menu (γ : Type) where
  live : Registry γ
  initial : Registry γ
  /-- The alias that stands in for no text. -/
  default : Option Text
  /-- The alias that gets texts with an unknown first word. -/
  fallback : Option Text

mutual

/-- An action that only users of a level may run. -/
structure Command where
  level : Level
  action : Action
  description : Option Text

/-- What happens when a command is invoked. -/
inductive Action where
  | leaf (leaf : Leaf)
  | menu (menu : Menu Command)

end

/-- The level of a command that names none. -/
def Command.defaultLevel : Level := 100

/-- The aliases in a list separated by bars: blanks around them and empty ones do not count, nor
does case. -/
def aliases (t : Text) : List Text :=
  (((t.splitWhere (· == '|')).map Text.trim).filter (!·.isEmpty)).map Text.lower

namespace Menu

variable {γ : Type}

/-- The menu of the given children; case does not count in aliases. -/
def ofChildren (children : List (Text × γ)) (default fallback : Option Text) : Menu γ :=
  let live : Registry γ := ⟨children.map fun (name, c) => (name.lower, c)⟩
  ⟨live, live, default.map Text.lower, fallback.map Text.lower⟩

/-- The live child of an alias in any case. -/
def get? (m : Menu γ) (name : Text) : Option γ := m.live.get? name.lower

/-- Adds the live children of another menu, in place of those with the same aliases. -/
def merge (m other : Menu γ) : Menu γ := { m with live := m.live.overlay other.live }

/-- Goes back to the initial children. -/
def reset (m : Menu γ) : Menu γ := { m with live := m.initial }

/-- The alias that a message selects, and the message left for its child. A blank message is none:
it selects the default. The first word selects a child by its alias; an unknown one leaves the
whole message to the fallback. -/
def select? (m : Menu γ) (message : Option Text) : Option (Text × Option Text) :=
  match message.bind fun t => t.firstWord?.map (t, ·) with
  | none => m.default.map (·, none)
  | some (t, word, rest) =>
    if m.live.contains word.lower then some (word.lower, rest) else m.fallback.map (·, some t)

theorem reset_merge (m other : Menu γ) : (m.merge other).reset = m.reset := rfl

end Menu

/-- An action as at its construction: a menu goes back to its initial children. -/
def Action.reset : Action → Action
  | .leaf l => .leaf l
  | .menu m => .menu m.reset

/-- A command with its action as at its construction. -/
def Command.reset (c : Command) : Command := { c with action := c.action.reset }

end CommandBot
