import CommandBot.AccessLevel

/-!
# Settings

The settings of the bot are read from named texts, the way an environment holds them. They are read
in a fixed order, and the first one that is missing or cannot be read is the error.
-/

namespace CommandBot

/-- The settings of the bot. -/
structure Settings where
  token : Text
  databaseUrl : Text
  /-- The one guild that the bot serves. -/
  guild : Snowflake
  commandPrefix : Text
  /-- The levels that roles grant; of several entries for a role the last counts. -/
  adminRoles : List (Snowflake × Level)
  /-- The channels that the bot listens in; none means all. -/
  listenChannels : List Snowflake
  userAgent : Text

/-- Why a text is not a snowflake: it is no number in range, or it is zero. -/
inductive SnowflakeFault where
  | numeral (fault : IntegerFault)
  | zero
  deriving Repr, DecidableEq

/-- Why there are no settings. -/
inductive SettingsError where
  | missing (key : String)
  | badGuild (text : Text) (fault : SnowflakeFault)
  | badSnowflake (text : Text) (fault : SnowflakeFault)
  | badPair (text : Text)
  | badLevel (pair : Text) (fault : IntegerFault)
  deriving Repr, DecidableEq

namespace SettingsError

/-- A text between backticks. -/
def quoted (t : Text) : String := "\x60" ++ t.asString ++ "\x60"

/-- The wording for a text that is not a snowflake. -/
def notSnowflake (t : Text) : SnowflakeFault → String
  | .numeral fault => quoted t ++ " is not a snowflake: " ++ fault.message
  | .zero => quoted t ++ " is not a snowflake"

/-- The wording of an error. -/
def message : SettingsError → String
  | .missing key => key ++ " is not set"
  | .badGuild t fault => "invalid DISCORD_GUILD_ID: " ++ notSnowflake t fault
  | .badSnowflake t fault => notSnowflake t fault
  | .badPair pair => "admin role " ++ quoted pair ++ " must look like role_id:level"
  | .badLevel pair fault => "invalid level in admin role " ++ quoted pair ++ ": " ++ fault.message

end SettingsError

namespace Settings

/-- Reads a snowflake, blanks around it ignored. -/
def readSnowflake (t : Text) : Except SnowflakeFault Snowflake :=
  match Numeral.readNat Numeral.maxWord t.trim with
  | .error fault => .error (.numeral fault)
  | .ok n => match Snowflake.ofNat? n with
    | some s => .ok s
    | none => .error .zero

/-- Reads a role and its level with a colon between them; the level is read first. -/
def readPair (pair : Text) : Except SettingsError (Snowflake × Level) :=
  match pair.splitOnce? ':' with
  | none => .error (.badPair pair)
  | some (role, level) => do
    let level ← (Numeral.readInt Numeral.maxInt32 level).mapError (.badLevel pair)
    let role ← (readSnowflake role).mapError (.badSnowflake role)
    return (role, level)

/-- Reads pairs of roles and levels separated by blanks and commas. -/
def readAdminRoles (t : Text) : Except SettingsError (List (Snowflake × Level)) :=
  ((t.splitWhere fun c => Text.isBlank c || c == ',').filter (!·.isEmpty)).mapM readPair

/-- Reads channels separated by blanks. -/
def readChannels (t : Text) : Except SettingsError (List Snowflake) :=
  t.words.mapM fun word => (readSnowflake word).mapError (.badSnowflake word)

/-- The prefix of commands where none is set. -/
def defaultPrefix : Text := ['!']

/-- The user agent where none is set. -/
def defaultUserAgent : Text := "greenbot/0.1.0".toList

/-- Reads the settings from named texts. -/
def ofLookup (lookUp : String → Option Text) : Except SettingsError Settings := do
  let demand (key : String) : Except SettingsError Text := match lookUp key with
    | some t => .ok t
    | none => .error (.missing key)
  let guildText ← demand "DISCORD_GUILD_ID"
  let guild ← (readSnowflake guildText).mapError (.badGuild guildText)
  let adminRoles ← match lookUp "ADMIN_ROLES" with
    | some t => readAdminRoles t
    | none => .ok []
  let listenChannels ← match lookUp "LISTEN_CHANNELS" with
    | some t => readChannels t
    | none => .ok []
  let commandPrefix := ((lookUp "COMMAND_PREFIX").bind fun t => Text.nonEmpty? t.trim).getD
    defaultPrefix
  let userAgent := (lookUp "BOT_USER_AGENT").getD defaultUserAgent
  return ⟨← demand "DISCORD_TOKEN", ← demand "DATABASE_URL", guild, commandPrefix, adminRoles,
    listenChannels, userAgent⟩

/-- Whether the bot listens in a channel of its guild. -/
def listensIn (s : Settings) (channel : Snowflake) : Bool :=
  s.listenChannels.isEmpty || s.listenChannels.contains channel

/-- The level that each role with an entry grants. -/
def grants (s : Settings) : List (Snowflake × Level) :=
  (s.adminRoles.map (·.1)).eraseDups.map fun role => (role, Level.ofRole s.adminRoles role)

end Settings

end CommandBot
