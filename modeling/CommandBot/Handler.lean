import CommandBot.CommandTable
import CommandBot.Platform

/-!
# Handling messages

A bot starts from its settings and its stored commands. A message invokes a command if the bot listens
to it, it begins with the command prefix, and the word after the prefix is a bound trigger. Only then
are the author's roles looked up, and only users of the command's level run it.
-/

namespace CommandBot

/-- A message as the platform reports it. -/
structure MessageEvent where
  author : Snowflake
  isBot : Bool
  /-- The guild of the message; none for a direct message. -/
  guild : Option Snowflake
  channel : Snowflake
  /-- The author's roles, if the report has a member record. -/
  roles : Option (List Snowflake)
  content : Text

/-- A bot: its settings, filters and commands. -/
structure Bot where
  settings : Settings
  filters : Registry Filter
  commands : CommandTable

/-- Why a bot does not start. -/
inductive StartError where
  | settings (error : SettingsError)
  | client (error : FetchError)
  | commands (error : AddError)
  deriving Repr, DecidableEq

/-- The requests made for a message, and the error of a raw callback if there was one. -/
structure Handled where
  requests : List Request
  result : Except CallbackError Unit

namespace Bot

/-- Starts a bot: reads its settings, makes the headers of its client, and loads the stored
commands. -/
def start (filters : Registry Filter) (v : Vocabulary) (lookUp : String → Option Text)
    (stored : List StoredCommand) : Except StartError Bot := do
  let settings ← (Settings.ofLookup lookUp).mapError .settings
  let _ ← (Fetch.makeHeaders settings.userAgent).mapError .client
  let commands ← (CommandTable.load v stored).mapError .commands
  return ⟨settings, filters, commands⟩

/-- Whether the bot listens to a message: no bot wrote it, and it is a direct one or comes from the
bot's guild and a channel that the bot listens in. -/
def listensTo (settings : Settings) (e : MessageEvent) : Bool :=
  !e.isBot && match e.guild with
    | none => true
    | some guild => guild == settings.guild && settings.listensIn e.channel

/-- The trigger in lower case and the text after it, of a content that begins with the prefix and a
word right after it. -/
def parseInvocation (commandPrefix content : Text) : Option (Text × Option Text) := do
  let rest ← content.trim.after? commandPrefix
  if rest.head?.any Text.isBlank then none
  let (trigger, message) ← rest.firstWord?
  return (trigger.lower, message)

/-- The author's roles, with the request for them if the message does not tell them. A direct
message has none. -/
def authorRoles (settings : Settings) (world : World) (e : MessageEvent) :
    List Request × Option (List Snowflake) :=
  match e.guild, e.roles with
  | none, _ => ([], none)
  | some _, some roles => ([], some roles)
  | some _, none => ([.member settings.guild e.author], world.member? e.author)

/-- The command that a message invokes, with its trigger and the text after it, if the bot listens
to the message. -/
def addressed? (bot : Bot) (e : MessageEvent) : Option (Command × Text × Option Text) := do
  if !listensTo bot.settings e then none
  let (trigger, message) ← parseInvocation bot.settings.commandPrefix e.content
  return (← bot.commands.get? trigger, trigger, message)

/-- The invocation that a message makes, given its author's roles. -/
def invocation (bot : Bot) (e : MessageEvent) (trigger : Text) (message : Option Text)
    (roles : Option (List Snowflake)) : Invocation where
  user := e.author
  channel := e.channel
  message := message
  whisper := e.guild.isNone
  trigger := trigger
  level := Level.ofRoles bot.settings.adminRoles roles

/-- Handles a message. -/
def handle (bot : Bot) (world : World) (e : MessageEvent) : Handled :=
  match bot.addressed? e with
  | none => ⟨[], .ok ()⟩
  | some (command, trigger, message) =>
    let (lookUps, roles) := authorRoles bot.settings world e
    let outcome := command.run (Platform.host bot.filters) (bot.invocation e trigger message roles)
    ⟨lookUps ++ outcome.events.flatMap (Platform.perform bot.settings world bot.filters),
      outcome.result.map fun _ => ()⟩

end Bot

end CommandBot
