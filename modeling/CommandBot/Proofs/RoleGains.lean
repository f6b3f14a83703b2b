import CommandBot.Proofs.Access

/-!
# Gaining roles

The level of a user is the highest that a role grants, so a further role never makes it lower, even one
that is configured to grant less than a plain role. Levels play no part in routing, and are only
compared with from below. So a member with more roles is led to the same leaf with the same rest of
the message, and still has all levels on the way.
-/

namespace CommandBot

namespace Level

lemma foldl_max_le_iff {levels : List Level} {start bound : Level} :
    levels.foldl max start ≤ bound ↔ start ≤ bound ∧ ∀ level ∈ levels, level ≤ bound := by
  induction levels generalizing start with
  | nil => simp
  | cons level levels ih => rw [List.foldl_cons, ih, Int.max_le, List.forall_mem_cons, and_assoc]

variable {admins : List (Snowflake × Level)}

lemma ofRoles_le_iff {roles : List Snowflake} {bound : Level} :
    ofRoles admins (some roles) ≤ bound ↔ base ≤ bound ∧ ∀ role ∈ roles, ofRole admins role ≤ bound := by
  rw [ofRoles, foldl_max_le_iff, List.forall_mem_map]

/-- A list that is not known counts as an empty one. -/
theorem ofRoles_le_of_subset {roles more : Option (List Snowflake)}
    (h : roles.getD [] ⊆ more.getD []) : ofRoles admins roles ≤ ofRoles admins more := by
  have hknown : ∀ known, ofRoles admins known = ofRoles admins (some (known.getD [])) := by
    intro known
    cases known <;> rfl
  rw [hknown roles, hknown more]
  obtain ⟨hbase, hmore⟩ := ofRoles_le_iff.mp (Int.le_refl (ofRoles admins (some (more.getD []))))
  exact ofRoles_le_iff.mpr ⟨hbase, fun role hrole => hmore role (h hrole)⟩

end Level

/-- The invocation by a user of another level. -/
def Invocation.withLevel (i : Invocation) (level : Level) : Invocation := { i with level := level }

lemma Route.admit?_withLevel {r : Route} {i j : Invocation} {l : Leaf} {level : Level}
    (h : r.admit? i = some (l, j)) (hlevel : i.level ≤ level) :
    r.admit? (i.withLevel level) = some (l, j.withLevel level) := by
  obtain ⟨hadmitted, rfl, rfl⟩ := Route.admit?_eq_some_iff.mp h
  refine Route.admit?_eq_some_iff.mpr ⟨fun asked hasked => ?_, rfl, rfl⟩
  exact Int.le_trans (hadmitted asked hasked) hlevel

theorem Command.reach?_withLevel {c : Command} {i j : Invocation} {l : Leaf} {level : Level}
    (h : c.reach? i = some (l, j)) (hlevel : i.level ≤ level) :
    c.reach? (i.withLevel level) = some (l, j.withLevel level) := by
  obtain ⟨r, hroute, hadmitted⟩ := Option.bind_eq_some_iff.mp h
  exact Option.bind_eq_some_iff.mpr ⟨r, hroute, Route.admit?_withLevel hadmitted hlevel⟩

namespace Bot

/-- The roles of the author that the message tells, or else those that are found by looking the author
up. -/
def rolesIn (world : World) (e : MessageEvent) : Option (List Snowflake) :=
  e.roles.or (world.member? e.author)

/-- Two messages that differ in the roles of the author alone, and the second author has all the roles
of the first one. -/
structure GainsRoles (world world' : World) (e e' : MessageEvent) : Prop where
  same : e' = { e with roles := e'.roles }
  gained : (rolesIn world e).getD [] ⊆ (rolesIn world' e').getD []

lemma authorRoles_eq (settings : Settings) (world : World) (e : MessageEvent) :
    (authorRoles settings world e).2 = e.guild.bind fun _ => rolesIn world e := by
  unfold authorRoles rolesIn
  cases e.guild <;> cases e.roles <;> rfl

namespace GainsRoles

variable {bot : Bot} {world world' : World} {e e' : MessageEvent}

lemma addressed?_eq (h : GainsRoles world world' e e') : bot.addressed? e' = bot.addressed? e := by
  rw [h.same]
  rfl

lemma authorLevel_le (h : GainsRoles world world' e e') :
    bot.authorLevel world e ≤ bot.authorLevel world' e' := by
  have hguild : e'.guild = e.guild := by rw [h.same]
  unfold authorLevel
  rw [authorRoles_eq, authorRoles_eq, hguild]
  cases e.guild with
  | none => exact Int.le_refl _
  | some guild => exact Level.ofRoles_le_of_subset h.gained

lemma invocation_eq (h : GainsRoles world world' e e') (trigger : Text) (message : Option Text) :
    bot.invocation e' trigger message (authorRoles bot.settings world' e').2 =
      (bot.invocation e trigger message (authorRoles bot.settings world e).2).withLevel
        (bot.authorLevel world' e') := by
  obtain ⟨author, isBot, guild, channel, roles, content⟩ := e
  obtain ⟨author', isBot', guild', channel', roles', content'⟩ := e'
  obtain ⟨rfl, rfl, rfl, rfl, -, rfl⟩ := MessageEvent.mk.inj h.same
  rfl

end GainsRoles

/-- More roles never lose access. If handling a message runs a leaf, then handling the same message by
a member who has these roles and perhaps others runs the same leaf with the same rest of the message;
nothing but the level of the invocation differs, and it is no lower. -/
theorem more_roles_keep_access {bot : Bot} {world world' : World} {e e' : MessageEvent}
    (h : GainsRoles world world' e e') {leaf : Leaf} {i : Invocation}
    (hreach : bot.reach? world e = some (leaf, i)) :
    ∃ j, bot.reach? world' e' = some (leaf, j) ∧ j.message = i.message ∧ j = i.withLevel j.level ∧
      i.level ≤ j.level ∧
      bot.handle world e = ⟨bot.lookUps world e ++
          (leaf.run (Platform.host bot.filters) i).events.flatMap
            (Platform.perform bot.settings world bot.filters),
        (leaf.run (Platform.host bot.filters) i).result.map fun _ => ()⟩ ∧
      bot.handle world' e' = ⟨bot.lookUps world' e' ++
          (leaf.run (Platform.host bot.filters) j).events.flatMap
            (Platform.perform bot.settings world' bot.filters),
        (leaf.run (Platform.host bot.filters) j).result.map fun _ => ()⟩ := by
  obtain ⟨⟨command, trigger, message⟩, haddressed, hcommand⟩ := Option.bind_eq_some_iff.mp hreach
  have hlevel : i.level = bot.authorLevel world e := by
    obtain ⟨r, -, -, -, rfl⟩ := Command.reach?_eq_some_iff.mp hcommand
    rfl
  have hreach' : bot.reach? world' e' = some (leaf, i.withLevel (bot.authorLevel world' e')) := by
    rw [reach?, h.addressed?_eq, haddressed, Option.bind_some]
    simp only [h.invocation_eq]
    exact Command.reach?_withLevel hcommand h.authorLevel_le
  refine ⟨i.withLevel (bot.authorLevel world' e'), hreach', rfl, rfl, ?_, ?_, ?_⟩
  · rw [hlevel]
    exact h.authorLevel_le
  · rw [handle_eq, run, hreach]
    rfl
  · rw [handle_eq, run, hreach']
    rfl

def two : Snowflake := ⟨2, by decide, by decide⟩

/-- A bot with the greeting alone, where a second role is configured to grant less than none. -/
def strictGreeter : Bot where
  settings := { talker.settings with adminRoles := [(one, 200), (two, -5)] }
  filters := .empty
  commands := ⟨[greetings], Registry.empty.insert "greet".toList 0⟩

/-- A message to that bot by a member with some roles. -/
def greetWith (roles : List Snowflake) : MessageEvent :=
  { greet with roles := some roles, content := "!greet".toList }

/-- A member who has the second role as well is still greeted. -/
theorem strictGreeter_reaches_hi :
    GainsRoles silence silence (greetWith [one]) (greetWith [two, one, two]) ∧
      ∃ i j, strictGreeter.reach? silence (greetWith [one]) = some (hi, i) ∧
        strictGreeter.reach? silence (greetWith [two, one, two]) = some (hi, j) ∧
        j.message = i.message := by
  have hgains : GainsRoles silence silence (greetWith [one]) (greetWith [two, one, two]) :=
    ⟨rfl, by simp [rolesIn, greetWith]⟩
  have hadd : CommandTable.empty.add "greet".toList greetings = .ok strictGreeter.commands := rfl
  have hplaced : strictGreeter.commands.Placed := (CommandTable.Reachable.add .empty hadd).placed
  have hleads : greetings.action.Leads none ⟨[100], hi, none⟩ := by
    refine .menu (c := hello) (r := ⟨[], hi, none⟩) ?_ (.leaf hi none)
    exact .default rfl rfl rfl
  have hreach : strictGreeter.reach? silence (greetWith [one]) =
      some (hi, ⟨one, one, none, false, "greet".toList, 200⟩) := by
    refine (reach?_eq_some_iff hplaced).mpr
      ⟨"greet".toList, none, greetings, _, ?_, rfl, hleads, ?_, rfl, ?_⟩
    · exact ⟨rfl, by decide, by decide +kernel, by decide +kernel⟩
    · decide
    · decide +kernel
  obtain ⟨j, hj, hmessage, -⟩ := more_roles_keep_access hgains hreach
  exact ⟨hgains, _, j, hreach, hj, hmessage⟩

end Bot

end CommandBot
