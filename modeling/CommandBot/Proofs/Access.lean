import CommandBot.Handler
import CommandBot.Proofs.Routing
import CommandBot.Proofs.TableAdding

/-!
# Access to commands

Handling a message runs a leaf action exactly if the message calls a bound trigger, routing leads
from the command there to the leaf, and the author has the levels of all commands on the way.
Otherwise there is no request but the look-up of the author's roles, and none at all unless the
message calls a bound trigger.
-/

namespace CommandBot

lemma CommandTable.Placed.contains_iff {t : CommandTable} (ht : t.Placed) (trigger : Text) :
    t.triggers.contains trigger.lower ↔ ∃ c, t.get? trigger = some c := by
  rw [Registry.contains_iff]
  constructor
  · rintro ⟨place, hbound⟩
    have hplace : place < t.commands.length := ht _ _ hbound
    exact ⟨t.commands[place], by simp [get?, hbound, hplace]⟩
  · rintro ⟨c, hget⟩
    obtain ⟨place, hbound, -⟩ := Option.bind_eq_some_iff.mp hget
    exact ⟨place, hbound⟩

namespace Bot

/-- A message calls a bound trigger: no bot wrote it, it is a direct one or comes from the guild and
a channel that the bot listens in, and the trigger follows the prefix. -/
structure Calls (bot : Bot) (e : MessageEvent) (trigger : Text) (message : Option Text) : Prop where
  human : e.isBot = false
  place : ∀ guild, e.guild = some guild →
    guild = bot.settings.guild ∧ bot.settings.listensIn e.channel = true
  invocation : parseInvocation bot.settings.commandPrefix e.content = some (trigger, message)
  bound : bot.commands.triggers.contains trigger.lower = true

def authorLevel (bot : Bot) (world : World) (e : MessageEvent) : Level :=
  Level.ofRoles bot.settings.adminRoles (authorRoles bot.settings world e).2

/-- A message is granted a leaf with an invocation: it calls a bound trigger, routing leads there
from the trigger's command, and the author has the levels of all commands on the way. -/
def Grants (bot : Bot) (world : World) (e : MessageEvent) (leaf : Leaf) (i : Invocation) : Prop :=
  ∃ trigger message command route, bot.Calls e trigger message ∧
    bot.commands.get? trigger = some command ∧ command.action.Leads message route ∧
    (∀ level ∈ command.level :: route.levels, level ≤ bot.authorLevel world e) ∧
    leaf = route.leaf ∧
    i = bot.invocation e trigger route.message (authorRoles bot.settings world e).2

/-- The leaf that a message reaches, and the invocation that it is run with. -/
def reach? (bot : Bot) (world : World) (e : MessageEvent) : Option (Leaf × Invocation) :=
  (bot.addressed? e).bind fun (command, trigger, message) =>
    command.reach? (bot.invocation e trigger message (authorRoles bot.settings world e).2)

def run (bot : Bot) (world : World) (e : MessageEvent) : Outcome :=
  runReached (Platform.host bot.filters) (bot.reach? world e)

/-- The requests that find out a message's author's roles, once the message invokes a command. -/
def lookUps (bot : Bot) (world : World) (e : MessageEvent) : List Request :=
  if (bot.addressed? e).isSome then (authorRoles bot.settings world e).1 else []

/-- Handling a message looks the author's roles up and runs the leaf that the message reaches. -/
theorem handle_eq (bot : Bot) (world : World) (e : MessageEvent) :
    bot.handle world e =
      ⟨bot.lookUps world e ++
        (bot.run world e).events.flatMap (Platform.perform bot.settings world bot.filters),
        (bot.run world e).result.map fun _ => ()⟩ := by
  rw [handle, run, reach?, lookUps]
  cases bot.addressed? e with
  | none => rfl
  | some call => rfl

lemma listensTo_iff {settings : Settings} {e : MessageEvent} :
    listensTo settings e = true ↔
      e.isBot = false ∧ ∀ guild, e.guild = some guild →
        guild = settings.guild ∧ settings.listensIn e.channel = true := by
  rw [listensTo, Bool.and_eq_true, Bool.not_eq_true']
  cases e.guild <;> simp

lemma addressed?_eq_some_iff {bot : Bot} (hbot : bot.commands.Placed) {e : MessageEvent}
    {command : Command} {trigger : Text} {message : Option Text} :
    bot.addressed? e = some (command, trigger, message) ↔
      bot.Calls e trigger message ∧ bot.commands.get? trigger = some command := by
  have hread : bot.addressed? e = some (command, trigger, message) ↔
      listensTo bot.settings e = true ∧
        parseInvocation bot.settings.commandPrefix e.content = some (trigger, message) ∧
        bot.commands.get? trigger = some command := by
    rw [addressed?]
    cases listensTo bot.settings e with
    | false => simp
    | true =>
      simp only [Bool.not_true, Bool.false_eq_true, if_false, true_and, Option.bind_eq_bind,
        Option.bind_eq_some_iff, Option.pure_def]
      constructor
      · rintro ⟨⟨trigger', message'⟩, hparse, command', hget, hsame⟩
        obtain ⟨rfl, rfl, rfl⟩ : command' = command ∧ trigger' = trigger ∧ message' = message := by
          simpa using hsame
        exact ⟨hparse, hget⟩
      · rintro ⟨hparse, hget⟩
        exact ⟨_, hparse, command, hget, rfl⟩
  rw [hread, listensTo_iff]
  constructor
  · rintro ⟨⟨hhuman, hplace⟩, hparse, hget⟩
    exact ⟨⟨hhuman, hplace, hparse, (hbot.contains_iff trigger).mpr ⟨command, hget⟩⟩, hget⟩
  · rintro ⟨hcalls, hget⟩
    exact ⟨⟨hcalls.human, hcalls.place⟩, hcalls.invocation, hget⟩

lemma isSome_addressed?_iff {bot : Bot} (hbot : bot.commands.Placed) {e : MessageEvent} :
    (bot.addressed? e).isSome = true ↔ ∃ trigger message, bot.Calls e trigger message := by
  rw [Option.isSome_iff_exists]
  constructor
  · rintro ⟨⟨command, trigger, message⟩, haddressed⟩
    exact ⟨trigger, message, ((addressed?_eq_some_iff hbot).mp haddressed).1⟩
  · rintro ⟨trigger, message, hcalls⟩
    obtain ⟨command, hget⟩ := (hbot.contains_iff trigger).mp hcalls.bound
    exact ⟨(command, trigger, message), (addressed?_eq_some_iff hbot).mpr ⟨hcalls, hget⟩⟩

theorem reach?_eq_some_iff {bot : Bot} (hbot : bot.commands.Placed) {world : World}
    {e : MessageEvent} {leaf : Leaf} {i : Invocation} :
    bot.reach? world e = some (leaf, i) ↔ bot.Grants world e leaf i := by
  rw [reach?, Option.bind_eq_some_iff]
  constructor
  · rintro ⟨⟨command, trigger, message⟩, haddressed, hreach⟩
    obtain ⟨hcalls, hget⟩ := (addressed?_eq_some_iff hbot).mp haddressed
    obtain ⟨route, hleads, hlevels, hleaf, hi⟩ := Command.reach?_eq_some_iff.mp hreach
    exact ⟨trigger, message, command, route, hcalls, hget, hleads, hlevels, hleaf, hi⟩
  · rintro ⟨trigger, message, command, route, hcalls, hget, hleads, hlevels, hleaf, hi⟩
    have haddressed := (addressed?_eq_some_iff hbot).mpr ⟨hcalls, hget⟩
    have hreach : command.reach? (bot.invocation e trigger message
        (authorRoles bot.settings world e).2) = some (leaf, i) :=
      Command.reach?_eq_some_iff.mpr ⟨route, hleads, hlevels, hleaf, hi⟩
    exact ⟨_, haddressed, hreach⟩

lemma eq_member_of_mem_lookUps {bot : Bot} {world : World} {e : MessageEvent} {request : Request}
    (h : request ∈ bot.lookUps world e) : request = .member bot.settings.guild e.author := by
  rw [lookUps] at h
  split at h
  · rw [authorRoles] at h
    split at h <;> simp_all
  · simp at h

/-- Access control. A message reaches exactly the leaf that it is granted, and handling it looks the
author's roles up and runs that leaf. Without a grant there is no other request and no error, and a
message that does not call a bound trigger makes no request at all. -/
theorem handle_runs_iff_grants (bot : Bot) (hbot : bot.commands.Reachable) (world : World)
    (e : MessageEvent) :
    (∀ leaf i, bot.reach? world e = some (leaf, i) ↔ bot.Grants world e leaf i) ∧
      (∀ leaf i, bot.Grants world e leaf i → bot.handle world e =
        ⟨(authorRoles bot.settings world e).1 ++
          (leaf.run (Platform.host bot.filters) i).events.flatMap
            (Platform.perform bot.settings world bot.filters),
          (leaf.run (Platform.host bot.filters) i).result.map fun _ => ()⟩) ∧
      ((¬∃ leaf i, bot.Grants world e leaf i) → (bot.handle world e).result = .ok () ∧
        ∀ request ∈ (bot.handle world e).requests,
          request = .member bot.settings.guild e.author) ∧
      ((¬∃ trigger message, bot.Calls e trigger message) → bot.handle world e = ⟨[], .ok ()⟩) := by
  have hplaced := hbot.placed
  have hreach : ∀ leaf i, bot.reach? world e = some (leaf, i) ↔ bot.Grants world e leaf i :=
    fun _ _ => reach?_eq_some_iff hplaced
  refine ⟨hreach, ?_, ?_, ?_⟩
  · intro leaf i hgrants
    have hcalls : ∃ trigger message, bot.Calls e trigger message := by
      obtain ⟨trigger, message, _, _, hcalls, -⟩ := hgrants
      exact ⟨trigger, message, hcalls⟩
    rw [handle_eq, run, (hreach leaf i).mpr hgrants, lookUps,
      if_pos ((isSome_addressed?_iff hplaced).mpr hcalls)]
    rfl
  · intro hnone
    have hnothing : bot.reach? world e = none := by
      rw [Option.eq_none_iff_forall_ne_some]
      rintro ⟨leaf, i⟩ hsome
      exact hnone ⟨leaf, i, (hreach leaf i).mp hsome⟩
    rw [handle_eq, run, hnothing]
    refine ⟨rfl, fun request hrequest => ?_⟩
    have hlookUp : request ∈ bot.lookUps world e := by
      simpa [runReached, Outcome.nothing] using hrequest
    exact eq_member_of_mem_lookUps hlookUp
  · intro hcalls
    have hnone : bot.addressed? e = none := by
      rw [← Option.not_isSome_iff_eq_none, isSome_addressed?_iff hplaced]
      exact hcalls
    rw [handle, hnone]

def hi : Leaf := .say ⟨"hi".toList, .empty⟩

def hello : Command := ⟨Command.defaultLevel, .leaf hi, none⟩

/-- A menu with that command as its default. -/
def greetings : Command :=
  ⟨120, .menu (.ofChildren [("hello".toList, hello)] (some "hello".toList) none), none⟩

def talk : Command :=
  ⟨Level.base, .menu (.ofChildren [("Greet".toList, greetings)] none none), none⟩

def one : Snowflake := ⟨1, by decide, by decide⟩

/-- A bot that has the outer menu alone, with a role that grants the level 200. -/
def talker : Bot where
  settings := ⟨[], [], one, ['!'], [(one, 200)], [one], []⟩
  filters := .empty
  commands := ⟨[talk], Registry.empty.insert "bot".toList 0⟩

def silence : World := ⟨fun _ => none, fun _ => none, fun _ => none⟩

/-- A message to that bot by a member with that role. -/
def greet : MessageEvent := ⟨one, false, some one, one, some [one], " !Bot greet ".toList⟩

lemma reachable_talker : talker.commands.Reachable :=
  .add .empty (show CommandTable.empty.add "bot".toList talk = .ok talker.commands from rfl)

/-- That message comes through both menus to the response. -/
theorem talker_reaches_hi :
    talker.commands.Reachable ∧
      talker.reach? silence greet = some (hi, ⟨one, one, none, false, "bot".toList, 200⟩) := by
  have hgreet : Text.firstWord? "greet".toList = some ("greet".toList, none) := by decide +kernel
  refine ⟨reachable_talker,
    ((handle_runs_iff_grants talker reachable_talker silence greet).1 _ _).mpr ?_⟩
  refine ⟨"bot".toList, some "greet".toList, talk, ⟨[120, 100], hi, none⟩, ?_, rfl, ?_, ?_, rfl, ?_⟩
  · exact ⟨rfl, by decide, by decide +kernel, by decide +kernel⟩
  · have hinner : greetings.action.Leads none ⟨[100], hi, none⟩ := by
      refine .menu (c := hello) (r := ⟨[], hi, none⟩) ?_ (.leaf hi none)
      exact .default rfl rfl rfl
    refine .menu (c := greetings) ?_ hinner
    exact .word hgreet rfl
  · decide
  · decide +kernel

end Bot

end CommandBot
