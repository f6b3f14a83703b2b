import CommandBot.Action.Basic

/-!
# Running actions

A run routes the message through menus to a leaf, and runs that leaf if the user has the level of
every command on the way. A response is not sent if it is empty, or if it has more fetch
placeholders than its template: then some value brought in a fetch of its own. If the template has
fetch placeholders at all, delivery waits for them.
-/

namespace CommandBot

/-- Delivers the response of a template. -/
def Template.deliver (t : Template) (host : Host) (i : Invocation) (d : Destination) : Outcome :=
  match (t.render host.filter (.ofInvocation i)).1 with
  | none => .nothing
  | some response =>
    if response.isEmpty || t.fetchCeiling < Fetch.count response then .nothing
    else if t.fetchCeiling = 0 then d.send host response
    else ⟨[.schedule ⟨d, response, t.fetchCeiling⟩], .ok true⟩

/-- Runs a leaf: responses go to the channel or the user of the invocation. -/
def Leaf.run (host : Host) (i : Invocation) : Leaf → Outcome
  | .say t => t.deliver host i (.channel i.channel)
  | .whisper t => t.deliver host i (.privately i.user)
  | .func _ callback =>
    let o := callback host i
    { o with result := match o.result with
      | .ok acted => .ok acted
      | .error _ => .ok false }
  | .rawFunc _ callback => callback host i

/-- Where routing ends: a leaf, the message left for it, and the levels of the commands on the way,
the outermost first. -/
structure Route where
  levels : List Level
  leaf : Leaf
  message : Option Text

/-- A route that passes one more command before the others. -/
def Route.through (level : Level) (r : Route) : Route := { r with levels := level :: r.levels }

mutual

/-- The route of a message through an action. -/
def Action.route? : Action → Option Text → Option Route
  | .leaf l, message => some ⟨[], l, message⟩
  | .menu ⟨⟨live⟩, initial, default, fallback⟩, message =>
    match (Menu.mk ⟨live⟩ initial default fallback).select? message with
    | none => none
    | some (name, rest) => routeChild? name rest live

/-- The route of a message through the first child with an alias. -/
def routeChild? (name : Text) (message : Option Text) : List (Text × Command) → Option Route
  | [] => none
  | (other, ⟨level, action, _⟩) :: r =>
    if other = name then (action.route? message).map (.through level)
    else routeChild? name message r

end

/-- The route of a message through a command. -/
def Command.route? (c : Command) (message : Option Text) : Option Route :=
  (c.action.route? message).map (.through c.level)

/-- The leaf that an invocation reaches by a route, with the message left for it, if the user has
the level of every command on the way. -/
def Route.admit? (i : Invocation) (r : Route) : Option (Leaf × Invocation) :=
  if r.levels.all (· ≤ i.level) then some (r.leaf, { i with message := r.message }) else none

/-- The leaf that an invocation reaches through an action. -/
def Action.reach? (a : Action) (i : Invocation) : Option (Leaf × Invocation) :=
  (a.route? i.message).bind (Route.admit? i)

/-- The leaf that an invocation reaches through a command. -/
def Command.reach? (c : Command) (i : Invocation) : Option (Leaf × Invocation) :=
  (c.route? i.message).bind (Route.admit? i)

/-- The outcome of running the leaf that was reached, if any. -/
def runReached (host : Host) : Option (Leaf × Invocation) → Outcome
  | none => .nothing
  | some (leaf, i) => leaf.run host i

/-- Runs an action. The level of a command around it is left to the caller. -/
def Action.run (host : Host) (a : Action) (i : Invocation) : Outcome := runReached host (a.reach? i)

/-- Runs a command for users of its level. -/
def Command.run (host : Host) (c : Command) (i : Invocation) : Outcome :=
  runReached host (c.reach? i)

end CommandBot
