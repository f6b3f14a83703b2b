import CommandBot.Proofs.Numerals
import CommandBot.Proofs.TableAdding
import CommandBot.Proofs.Words
import CommandBot.Settings

/-!
# Reading the settings

Roles with their levels, and channels, are listed in texts. Every chunk of such a text has to spell an
entry; otherwise there are no settings at all. So the settings have exactly the entries that are
written, and of several entries for a role the last one counts.
-/

namespace CommandBot

open Numeral (Spells SpellsInt)
open Text (Separated)

namespace Settings

/-- The characters between pairs of roles and levels. -/
def isPairSeparator (c : Char) : Bool := Text.isBlank c || c == ','

/-- A level of 32 bits. -/
def FitsInt32 (level : Level) : Prop :=
  -(Numeral.maxInt32 + 1 : Int) ≤ level ∧ level ≤ Numeral.maxInt32

instance (level : Level) : Decidable (FitsInt32 level) := inferInstanceAs (Decidable (_ ∧ _))

/-- The texts that spell a role and its level, with a colon between them. -/
def SpellsPair (pair : Snowflake × Level) (t : Text) : Prop :=
  ∃ role level, t = role ++ ':' :: level ∧ Spells pair.1.val role ∧ SpellsInt pair.2 level ∧
    FitsInt32 pair.2

lemma spellsPair_print {role : Snowflake} {level : Level} (h : FitsInt32 level) :
    SpellsPair (role, level) (role.print ++ ':' :: Numeral.printInt level) :=
  ⟨_, _, rfl, Numeral.spells_printNat _, Numeral.spellsInt_printInt _, h⟩

lemma readSnowflake_eq_ok_iff {t : Text} {s : Snowflake} :
    readSnowflake t = .ok s ↔ Spells s.val t.trim := by
  rw [← Snowflake.exists_readNat_iff, readSnowflake]
  cases Numeral.readNat Numeral.maxWord t.trim with
  | error fault => simp
  | ok n => cases hn : Snowflake.ofNat? n <;> simp [hn]

lemma readPair_eq_ok_iff {t : Text} (ht : ∀ c ∈ t, Text.isBlank c = false)
    {pair : Snowflake × Level} : readPair t = .ok pair ↔ SpellsPair pair t := by
  have htrim : ∀ role rest, t = role ++ rest → role.trim = role := by
    rintro role rest rfl
    exact Text.trim_eq_self_iff.mpr (.of_not_blank fun c hc => ht c (List.mem_append_left rest hc))
  obtain ⟨role, level⟩ := pair
  constructor
  · intro h
    rw [readPair] at h
    split at h
    · cases h
    · rename_i roleText levelText hsplit
      obtain ⟨-, hsplit⟩ := Text.splitOnce?_eq_some_iff.mp hsplit
      obtain ⟨level', hlevel, h⟩ := exists_of_bind_eq_ok h
      obtain ⟨role', hrole, h⟩ := exists_of_bind_eq_ok h
      obtain ⟨rfl, rfl⟩ := Prod.mk.inj (Except.ok.inj h)
      rw [mapError_eq_ok_iff, Numeral.readInt_eq_ok_iff] at hlevel
      rw [mapError_eq_ok_iff, readSnowflake_eq_ok_iff, htrim _ _ hsplit] at hrole
      exact ⟨roleText, levelText, hsplit, hrole, hlevel⟩
  · rintro ⟨roleText, levelText, hsplit, hrole, hlevel⟩
    have hcolon : ':' ∉ roleText := hrole.not_mem (by decide) (by decide)
    have hreadLevel : Numeral.readInt Numeral.maxInt32 levelText = .ok level :=
      Numeral.readInt_eq_ok_iff.mpr hlevel
    have hreadRole : readSnowflake roleText = .ok role :=
      readSnowflake_eq_ok_iff.mpr (by rwa [htrim _ _ hsplit])
    rw [readPair, Text.splitOnce?_eq_some_iff.mpr ⟨hcolon, hsplit⟩]
    simp only [hreadLevel, hreadRole]
    rfl

lemma readAdminRoles_eq_ok_iff {t : Text} {pairs : List (Snowflake × Level)} :
    readAdminRoles t = .ok pairs ↔
      List.Forall₂ (fun piece pair => SpellsPair pair piece) (t.chunks isPairSeparator) pairs := by
  refine mapM_eq_ok_iff fun piece hpiece pair => readPair_eq_ok_iff fun c hc => ?_
  have hseparator := (Text.of_mem_chunks hpiece).2 c hc
  exact (Bool.or_eq_false_iff.mp hseparator).1

lemma readChannels_eq_ok_iff {t : Text} {channels : List Snowflake} :
    readChannels t = .ok channels ↔
      List.Forall₂ (fun word channel => Spells channel.val word) t.words channels := by
  refine mapM_eq_ok_iff fun word hword channel => ?_
  have htrim : word.trim = word :=
    Text.trim_eq_self_iff.mpr (.of_not_blank (Text.of_mem_chunks hword).2)
  rw [mapError_eq_ok_iff, readSnowflake_eq_ok_iff, htrim]

/-- The text that lists the roles with their levels; empty if there is none. -/
def roleText (lookUp : String → Option Text) : Text := (lookUp "ADMIN_ROLES").getD []

/-- The text that lists the channels; empty if there is none. -/
def channelText (lookUp : String → Option Text) : Text := (lookUp "LISTEN_CHANNELS").getD []

/-- A text that there must be. -/
def demand (lookUp : String → Option Text) (key : String) : Except SettingsError Text :=
  match lookUp key with
  | some t => .ok t
  | none => .error (.missing key)

lemma demand_eq_ok_iff {lookUp : String → Option Text} {key : String} {t : Text} :
    demand lookUp key = .ok t ↔ lookUp key = some t := by
  rw [demand]
  cases lookUp key <;> simp

/-- A list that is missing is read as an empty one. -/
lemma ofLookup_eq (lookUp : String → Option Text) : ofLookup lookUp = do
    let guildText ← demand lookUp "DISCORD_GUILD_ID"
    let guild ← (readSnowflake guildText).mapError (.badGuild guildText)
    let adminRoles ← readAdminRoles (roleText lookUp)
    let listenChannels ← readChannels (channelText lookUp)
    let token ← demand lookUp "DISCORD_TOKEN"
    let databaseUrl ← demand lookUp "DATABASE_URL"
    return ⟨token, databaseUrl, guild,
      ((lookUp "COMMAND_PREFIX").bind fun t => Text.nonEmpty? t.trim).getD defaultPrefix, adminRoles,
      listenChannels, (lookUp "BOT_USER_AGENT").getD defaultUserAgent⟩ := by
  rw [ofLookup, roleText, channelText]
  cases lookUp "ADMIN_ROLES" <;> cases lookUp "LISTEN_CHANNELS" <;> rfl

/-- The texts that there must be: the number of a guild, a token and a database. -/
structure Required (lookUp : String → Option Text) (guild : Snowflake) (token databaseUrl : Text) :
    Prop where
  guild : ∃ t, lookUp "DISCORD_GUILD_ID" = some t ∧ Spells guild.val t.trim
  token : lookUp "DISCORD_TOKEN" = some token
  databaseUrl : lookUp "DATABASE_URL" = some databaseUrl

/-- What named texts say about the settings. -/
structure ReadFrom (lookUp : String → Option Text) (s : Settings) : Prop where
  required : Required lookUp s.guild s.token s.databaseUrl
  adminRoles : List.Forall₂ (fun piece pair => SpellsPair pair piece)
    ((roleText lookUp).chunks isPairSeparator) s.adminRoles
  listenChannels : List.Forall₂ (fun word channel => Spells channel.val word)
    (channelText lookUp).words s.listenChannels
  commandPrefix : s.commandPrefix =
    ((lookUp "COMMAND_PREFIX").bind fun t => Text.nonEmpty? t.trim).getD defaultPrefix
  userAgent : s.userAgent = (lookUp "BOT_USER_AGENT").getD defaultUserAgent

/-- Settings are read exactly as the named texts say. -/
theorem ofLookup_eq_ok_iff {lookUp : String → Option Text} {s : Settings} :
    ofLookup lookUp = .ok s ↔ s.ReadFrom lookUp := by
  rw [ofLookup_eq]
  constructor
  · intro h
    obtain ⟨guildText, hguildText, h⟩ := exists_of_bind_eq_ok h
    obtain ⟨guild, hguild, h⟩ := exists_of_bind_eq_ok h
    obtain ⟨adminRoles, hroles, h⟩ := exists_of_bind_eq_ok h
    obtain ⟨listenChannels, hchannels, h⟩ := exists_of_bind_eq_ok h
    obtain ⟨token, htoken, h⟩ := exists_of_bind_eq_ok h
    obtain ⟨databaseUrl, hdatabaseUrl, h⟩ := exists_of_bind_eq_ok h
    obtain rfl := Except.ok.inj h
    rw [demand_eq_ok_iff] at hguildText htoken hdatabaseUrl
    rw [mapError_eq_ok_iff, readSnowflake_eq_ok_iff] at hguild
    exact ⟨⟨⟨guildText, hguildText, hguild⟩, htoken, hdatabaseUrl⟩, readAdminRoles_eq_ok_iff.mp hroles,
      readChannels_eq_ok_iff.mp hchannels, rfl, rfl⟩
  · obtain ⟨token, databaseUrl, guild, commandPrefix, adminRoles, listenChannels, userAgent⟩ := s
    rintro ⟨⟨⟨guildText, hguildText, hguild⟩, htoken, hdatabaseUrl⟩, hroles, hchannels, hprefix, hagent⟩
    have hreadGuild := readSnowflake_eq_ok_iff.mpr hguild
    have hreadRoles := readAdminRoles_eq_ok_iff.mpr hroles
    have hreadChannels := readChannels_eq_ok_iff.mpr hchannels
    simp only at hprefix hagent hreadGuild hreadRoles hreadChannels htoken hdatabaseUrl
    rw [demand_eq_ok_iff.mpr hguildText, demand_eq_ok_iff.mpr htoken,
      demand_eq_ok_iff.mpr hdatabaseUrl, hreadRoles, hreadChannels, hprefix, hagent]
    simp only [bind, Except.bind, hreadGuild, Except.mapError]
    rfl

/-! ### Levels and channels -/

/-- Of some pairs of roles and levels, the last one of a role has a level. -/
def LastLevel (pairs : List (Snowflake × Level)) (role : Snowflake) (level : Level) : Prop :=
  ∃ before after, pairs = before ++ (role, level) :: after ∧ ∀ pair ∈ after, pair.1 ≠ role

lemma find?_reverse_eq_some_iff {pairs : List (Snowflake × Level)} {role : Snowflake} {level : Level} :
    pairs.reverse.find? (·.1 == role) = some (role, level) ↔ LastLevel pairs role level := by
  rw [List.find?_eq_some_iff_append, LastLevel]
  constructor
  · rintro ⟨-, after, before, hreverse, hafter⟩
    refine ⟨before.reverse, after.reverse, ?_, by simpa using hafter⟩
    simpa using congrArg List.reverse hreverse
  · rintro ⟨before, after, rfl, hafter⟩
    exact ⟨by simp, after.reverse, before.reverse, by simp, by simpa using hafter⟩

lemma LastLevel.unique {pairs : List (Snowflake × Level)} {role : Snowflake} {level level' : Level}
    (h : LastLevel pairs role level) (h' : LastLevel pairs role level') : level = level' := by
  rw [← find?_reverse_eq_some_iff] at h h'
  exact (Prod.mk.inj (Option.some.inj (h.symm.trans h'))).2

/-- A role grants the level of its last pair. -/
theorem mem_grants_iff {s : Settings} {role : Snowflake} {level : Level} :
    (role, level) ∈ s.grants ↔ LastLevel s.adminRoles role level := by
  rw [← find?_reverse_eq_some_iff, grants]
  simp only [List.mem_map, List.mem_eraseDups, Prod.mk.injEq]
  constructor
  · rintro ⟨_, ⟨pair, hpair, rfl⟩, rfl, rfl⟩
    have hsome : (s.adminRoles.reverse.find? (·.1 == pair.1)).isSome := by
      rw [List.find?_isSome]
      exact ⟨pair, List.mem_reverse.mpr hpair, beq_self_eq_true _⟩
    obtain ⟨last, hlast⟩ := Option.isSome_iff_exists.mp hsome
    have hrole : last.1 = pair.1 := by simpa using List.find?_some hlast
    rw [hlast, Level.ofRole, hlast, ← hrole]
    rfl
  · intro hlast
    refine ⟨role, ⟨_, List.mem_reverse.mp (List.mem_of_find?_eq_some hlast), rfl⟩, rfl, ?_⟩
    rw [Level.ofRole, hlast]
    rfl

lemma listensIn_iff {s : Settings} {channel : Snowflake} :
    s.listensIn channel = true ↔ s.listenChannels = [] ∨ channel ∈ s.listenChannels := by
  simp [listensIn]

lemma exists_error_of_chunk {lookUp : String → Option Text}
    (h : (∃ piece ∈ (roleText lookUp).chunks isPairSeparator, ∀ pair, ¬SpellsPair pair piece) ∨
      ∃ word ∈ (channelText lookUp).words, ∀ channel : Snowflake, ¬Spells channel.val word) :
    ∃ e, ofLookup lookUp = .error e := by
  cases hread : ofLookup lookUp with
  | error e => exact ⟨e, rfl⟩
  | ok s =>
    have hs := ofLookup_eq_ok_iff.mp hread
    rcases h with ⟨piece, hpiece, hnone⟩ | ⟨word, hword, hnone⟩
    · obtain ⟨pair, hpair⟩ := exists_of_forall₂ hs.adminRoles hpiece
      exact absurd hpair (hnone pair)
    · obtain ⟨channel, hchannel⟩ := exists_of_forall₂ hs.listenChannels hword
      exact absurd hchannel (hnone channel)

/-- Roles and channels are read exactly or not at all. Written in any spelling and with any gaps, pairs
of roles and levels are all read, and a role has the level of its last pair; so are channels, in order.
A single chunk that spells no entry leaves no settings. -/
theorem roles_and_channels_read (lookUp : String → Option Text) :
    (∀ role level, FitsInt32 level →
      SpellsPair (role, level) (role.print ++ ':' :: Numeral.printInt level)) ∧
    (∀ guild token databaseUrl, Required lookUp guild token databaseUrl →
      ∀ pieces pairs, Separated isPairSeparator pieces (roleText lookUp) →
        List.Forall₂ (fun piece pair => SpellsPair pair piece) pieces pairs →
      ∀ words channels, Separated Text.isBlank words (channelText lookUp) →
        List.Forall₂ (fun word channel => Spells channel.val word) words channels →
      ∃ s, ofLookup lookUp = .ok s ∧
        (∀ role level, (role, level) ∈ s.grants ↔ LastLevel pairs role level) ∧
        s.listenChannels = channels ∧
        ∀ channel, s.listensIn channel = true ↔ channels = [] ∨ channel ∈ channels) ∧
    (∀ pieces, Separated isPairSeparator pieces (roleText lookUp) →
      (∃ piece ∈ pieces, ∀ pair, ¬SpellsPair pair piece) → ∃ e, ofLookup lookUp = .error e) ∧
    ∀ words, Separated Text.isBlank words (channelText lookUp) →
      (∃ word ∈ words, ∀ channel : Snowflake, ¬Spells channel.val word) →
      ∃ e, ofLookup lookUp = .error e := by
  refine ⟨fun role level h => spellsPair_print h, ?_, ?_, ?_⟩
  · intro guild token databaseUrl hrequired pieces pairs hpieces hpairs words channels hwords hchannels
    obtain rfl := hpieces.chunks_eq
    obtain rfl : (channelText lookUp).words = words := hwords.chunks_eq
    have hread : ofLookup lookUp = .ok ⟨token, databaseUrl, guild, _, pairs, channels, _⟩ :=
      ofLookup_eq_ok_iff.mpr ⟨hrequired, hpairs, hchannels, rfl, rfl⟩
    exact ⟨_, hread, fun role level => mem_grants_iff, rfl, fun channel => listensIn_iff⟩
  · rintro pieces hpieces hnone
    obtain rfl := hpieces.chunks_eq
    exact exists_error_of_chunk (.inl hnone)
  · rintro words hwords hnone
    obtain rfl : (channelText lookUp).words = words := hwords.chunks_eq
    exact exists_error_of_chunk (.inr hnone)

/-- An environment in which a role has two levels, the second under another spelling of its number. -/
def twoLevels (key : String) : Option Text :=
  if key = "ADMIN_ROLES" then some ",10:500, +010:-1".toList
  else if key = "LISTEN_CHANNELS" then some " 20\t21 ".toList
  else some "12".toList

/-- The second level counts, and the bot listens in the listed channels alone. -/
theorem twoLevels_read :
    ∃ s ten twenty, ofLookup twoLevels = .ok s ∧ (ten, -1) ∈ s.grants ∧ (ten, 500) ∉ s.grants ∧
      s.listensIn twenty = true ∧ s.listensIn ten = false := by
  let ten : Snowflake := ⟨10, by decide, by decide⟩
  let twenty : Snowflake := ⟨20, by decide, by decide⟩
  let twentyOne : Snowflake := ⟨21, by decide, by decide⟩
  have hrequired : Required twoLevels ⟨12, by decide, by decide⟩ "12".toList "12".toList :=
    ⟨⟨"12".toList, rfl, "12".toList, by decide, rfl, .inl rfl⟩, rfl, rfl⟩
  have hpieces : Separated isPairSeparator ["10:500".toList, "+010:-1".toList] (roleText twoLevels) :=
    Text.chunks_eq_iff.mp (by decide +kernel)
  have hwords : Separated Text.isBlank ["20".toList, "21".toList] (channelText twoLevels) :=
    Text.chunks_eq_iff.mp (by decide +kernel)
  have hfirst : SpellsPair (ten, 500) "10:500".toList :=
    ⟨"10".toList, "500".toList, rfl, ⟨"10".toList, by decide, rfl, .inl rfl⟩,
      .inl ⟨500, rfl, "500".toList, by decide, rfl, .inl rfl⟩, by decide⟩
  have hsecond : SpellsPair (ten, -1) "+010:-1".toList :=
    ⟨"+010".toList, "-1".toList, rfl, ⟨"010".toList, by decide, rfl, .inr rfl⟩,
      .inr ⟨['1'], by decide, rfl, rfl⟩, by decide⟩
  have hchannels : List.Forall₂ (fun word (channel : Snowflake) => Spells channel.val word)
      ["20".toList, "21".toList] [twenty, twentyOne] :=
    .cons ⟨"20".toList, by decide, rfl, .inl rfl⟩ (.cons ⟨"21".toList, by decide, rfl, .inl rfl⟩ .nil)
  obtain ⟨s, hread, hgrants, -, hlistens⟩ := (roles_and_channels_read twoLevels).2.1 _ _ _ hrequired
    _ _ hpieces (.cons hfirst (.cons hsecond .nil)) _ _ hwords hchannels
  have hlast : LastLevel [(ten, 500), (ten, -1)] ten (-1) := ⟨[(ten, 500)], [], rfl, by simp⟩
  refine ⟨s, ten, twenty, hread, (hgrants _ _).mpr hlast, fun hgranted => ?_,
    (hlistens _).mpr (.inr List.mem_cons_self), ?_⟩
  · exact absurd (hlast.unique ((hgrants _ _).mp hgranted)) (by decide)
  · rw [← Bool.not_eq_true, hlistens]
    decide

end Settings

end CommandBot
