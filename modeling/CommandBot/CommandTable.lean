import CommandBot.Action.Run
import CommandBot.Description.Reader

/-!
# The command table

The table keeps the loaded commands by trigger; one command may answer to several. Adding a menu
under a trigger of a menu merges the children into the old one, and any other command under a bound
trigger leaves the old one alone.
-/

namespace CommandBot

/-- The loaded commands in order, and the position of the command that each trigger invokes. -/
structure CommandTable where
  commands : List Command
  triggers : Registry Nat

/-- A stored command: its triggers, the text of its action's description, its level and its own
description. -/
structure StoredCommand where
  aliasList : Text
  action : Text
  level : Level
  description : Option Text

/-- Why a command cannot be added: its list of aliases names a trigger twice that was free before,
so that the command would meet itself before it has a place. -/
inductive AddError where
  | repeatedAlias (trigger : Text)
  deriving Repr, DecidableEq

/-- A command after another one was added under one of its triggers. -/
def Command.absorb (old new : Command) : Command :=
  match old.action, new.action with
  | .menu m, .menu extra => { old with action := .menu (m.merge extra) }
  | _, _ => old

namespace CommandTable

/-- The table without commands. -/
def empty : CommandTable := ⟨[], .empty⟩

/-- The number of commands. -/
def size (t : CommandTable) : Nat := t.commands.length

/-- The command that a trigger in any case invokes. -/
def get? (t : CommandTable) (trigger : Text) : Option Command := do
  t.commands[← t.triggers.get? trigger.lower]?

/-- Binds a trigger for a new command that will stand at position `t.size`: a free one to that
position, while the command at a bound one absorbs the new command. -/
def bindTrigger (c : Command) (t : CommandTable) (trigger : Text) : Except AddError CommandTable :=
  match t.triggers.get? trigger with
  | none => .ok { t with triggers := t.triggers.insert trigger t.size }
  | some index =>
    match t.commands[index]? with
    | none => .error (.repeatedAlias trigger)
    | some old => .ok { t with commands := t.commands.set index (old.absorb c) }

/-- Adds a command under the aliases of a list. It gets a place of its own if one of them was
free. -/
def add (t : CommandTable) (aliasList : Text) (c : Command) : Except AddError CommandTable := do
  let names := aliases aliasList
  let bound ← names.foldlM (bindTrigger c) t
  return if names.all t.triggers.contains then bound
    else { bound with commands := bound.commands ++ [c] }

/-- All commands as at their construction. -/
def reset (t : CommandTable) : CommandTable := { t with commands := t.commands.map Command.reset }

/-- The bound triggers in order. -/
def boundTriggers (t : CommandTable) : List Text := t.triggers.names

/-- The built-in commands with their triggers. -/
def builtIn : List (Text × Command) :=
  [("ping".toList, ⟨Level.base, .leaf (.rawFunc "ping".toList Callback.ping),
      some "Replies with Pong!".toList⟩),
   ("level".toList, ⟨Level.base, .leaf (.func "level".toList Callback.level),
      some "Shows your access level.".toList⟩)]

/-- The command that a stored one stands for, if its description makes an action. -/
def ofStored? (v : Vocabulary) (s : StoredCommand) : Option (Text × Command) :=
  match Action.ofText v s.action with
  | .ok (some action) => some (s.aliasList, ⟨s.level, action, s.description⟩)
  | _ => none

/-- The table with the built-in commands and all stored ones that make a command, in order. -/
def load (v : Vocabulary) (stored : List StoredCommand) : Except AddError CommandTable :=
  (builtIn ++ stored.filterMap (ofStored? v)).foldlM (fun t (names, c) => t.add names c) empty

end CommandTable

end CommandBot
