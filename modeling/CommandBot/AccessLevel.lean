import CommandBot.Snowflake

/-!
# Access levels

Every command asks for a level, and every user has one: the highest that a role of theirs grants,
and never less than the base level.
-/

namespace CommandBot

/-- An access level; a higher one opens more commands. -/
abbrev Level := Int

namespace Level

/-- The level of users without a member record. -/
def base : Level := 50

/-- The level granted by a role that is configured to grant none in particular. -/
def member : Level := 100

/-- The level granted by a role. Of several entries for a role the last counts. -/
def ofRole (admins : List (Snowflake × Level)) (role : Snowflake) : Level :=
  ((admins.reverse.find? (·.1 == role)).map (·.2)).getD member

/-- The level of a user with the given roles, or without a member record. -/
def ofRoles (admins : List (Snowflake × Level)) : Option (List Snowflake) → Level
  | none => base
  | some roles => (roles.map (ofRole admins)).foldl max base

end Level

end CommandBot
