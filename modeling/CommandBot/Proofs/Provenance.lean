import CommandBot.Proofs.Access
import CommandBot.Proofs.Merging

/-!
# Whose level guards a leaf

A leaf that a message reaches was defined by the row that owns the trigger, or by a menu that was
merged into the menu of that row. It is guarded by the level of the owner and by the levels of the
children on the way, wherever these come from. The level of a row that was merged in guards nothing
under the owner's triggers.
-/

namespace CommandBot

mutual

/-- The leaves of an action, at any depth. -/
def Action.leaves : Action → List Leaf
  | .leaf l => [l]
  | .menu ⟨⟨live⟩, _, _, _⟩ => childLeaves live

/-- The leaves of the children of a menu. -/
def childLeaves : List (Text × Command) → List Leaf
  | [] => []
  | (_, ⟨_, action, _⟩) :: r => action.leaves ++ childLeaves r

end

lemma mem_childLeaves_iff {entries : List (Text × Command)} {l : Leaf} :
    l ∈ childLeaves entries ↔ ∃ name c, (name, c) ∈ entries ∧ l ∈ c.action.leaves := by
  induction entries with
  | nil => simp [childLeaves]
  | cons entry entries ih =>
    obtain ⟨other, level, action, description⟩ := entry
    rw [childLeaves, List.mem_append, ih]
    constructor
    · rintro (hl | ⟨name, c, hc, hl⟩)
      · exact ⟨other, _, List.mem_cons_self, hl⟩
      · exact ⟨name, c, List.mem_cons_of_mem _ hc, hl⟩
    · rintro ⟨name, c, hc, hl⟩
      cases hc with
      | head => exact .inl hl
      | tail _ hc => exact .inr ⟨name, c, hc, hl⟩

lemma Menu.leaves_subset {m : Menu Command} {name : Text} {c : Command} {l : Leaf}
    (hc : m.live.get? name = some c) (hl : l ∈ c.action.leaves) : l ∈ (Action.menu m).leaves := by
  obtain ⟨⟨live⟩, initial, default, fallback⟩ := m
  rw [Action.leaves]
  exact mem_childLeaves_iff.mpr ⟨name, c, Registry.mem_of_lookUp hc, hl⟩

lemma Menu.selects_iff {m : Menu Command} {message rest : Option Text} {c : Command} :
    m.Selects message c rest ↔
      ∃ name, m.select? message = some (name, rest) ∧ m.live.get? name = some c := by
  rw [← selected?_eq_some_iff, selected?, Option.bind_eq_some_iff]
  constructor
  · rintro ⟨⟨name, left⟩, hselect, hchild⟩
    obtain ⟨d, hget, hpair⟩ := Option.map_eq_some_iff.mp hchild
    obtain ⟨rfl, rfl⟩ := Prod.mk.inj hpair
    exact ⟨name, hselect, hget⟩
  · rintro ⟨name, hselect, hget⟩
    exact ⟨(name, rest), hselect, Option.map_eq_some_iff.mpr ⟨c, hget, rfl⟩⟩

/-- Routing leads to a leaf of the action. -/
lemma Action.Leads.leaf_mem {a : Action} {message : Option Text} {r : Route}
    (h : a.Leads message r) : r.leaf ∈ a.leaves := by
  induction h with
  | leaf l message => simp [Action.leaves]
  | menu hselects _ ih =>
    obtain ⟨name, -, hget⟩ := Menu.selects_iff.mp hselects
    exact Menu.leaves_subset hget ih

lemma Menu.Agrees.selects {m n : Menu Command} (h : m.Agrees n) {message rest : Option Text}
    {c : Command} (hselects : m.Selects message c rest) : n.Selects message c rest := by
  cases hselects with
  | word hfirst hget => exact .word hfirst ((h.live _).symm.trans hget)
  | fallback hfirst hunknown hfallback hget =>
    exact .fallback hfirst ((h.live _).symm.trans hunknown) (h.fallback.symm.trans hfallback)
      ((h.live _).symm.trans hget)
  | default hblank hdefault hget =>
    exact .default hblank (h.default.symm.trans hdefault) ((h.live _).symm.trans hget)

lemma Action.Agrees.leads {a b : Action} (h : a.Agrees b) {message : Option Text} {r : Route}
    (hleads : a.Leads message r) : b.Leads message r := by
  cases h with
  | leaf l => exact hleads
  | menu hmenu =>
    cases hleads with
    | menu hselects hchild => exact .menu (hmenu.selects hselects) hchild

/-- Where a message is led under a trigger of `owner`, and which row defined the leaf there: `owner`
itself if its command is a leaf, and otherwise the last of `owner` and the rows merged into it that
has the selected child. -/
inductive Supplies (owner : Row) (merged : List Row) : Row → Option Text → Route → Prop
  | own {l : Leaf} (message : Option Text) :
      owner.2.action = .leaf l → Supplies owner merged owner message ⟨[], l, message⟩
  | child {m : Menu Command} {name : Text} {message rest : Option Text} {source : Row} {c : Command}
      {r : Route} : (owner.2.extend merged).action = .menu m →
      m.select? message = some (name, rest) → provider? (owner :: merged) name = some (source, c) →
      c.action.Leads rest r → Supplies owner merged source message (r.through c.level)

namespace Supplies

variable {owner source : Row} {merged : List Row} {message : Option Text} {route : Route}

/-- The leaf is one of the source, which is the owner or, where both are menus, one of the rows that
were merged into it. -/
lemma source_cases (h : Supplies owner merged source message route) :
    route.leaf ∈ source.2.action.leaves ∧
      (source = owner ∨ source ∈ merged ∧ owner.2.IsMenu ∧ source.2.IsMenu) := by
  cases h with
  | own message haction => exact ⟨by simp [haction, Action.leaves], .inl rfl⟩
  | @child m name message rest source c r haction _ hprovider hleads =>
    obtain ⟨hmem, hchild⟩ := mem_of_provider? hprovider
    have howner : owner.2.IsMenu := by
      cases howner : owner.2.action with
      | menu n => exact ⟨n, howner⟩
      | leaf l =>
        rw [Command.extend_of_leaf howner, howner] at haction
        cases haction
    rw [Command.child?] at hchild
    cases hsource : source.2.action with
    | leaf l => simp [hsource] at hchild
    | menu n =>
      have hget : n.live.get? name = some c := by simpa [hsource] using hchild
      refine ⟨Menu.leaves_subset hget hleads.leaf_mem, ?_⟩
      exact (List.mem_cons.mp hmem).imp_right fun hmerged => ⟨hmerged, howner, n, hsource⟩

/-- A message is led through the merged command exactly if some row supplies the route. -/
theorem leads_iff :
    (owner.2.extend merged).action.Leads message route ↔
      ∃ source, Supplies owner merged source message route := by
  -- A leaf takes nothing in, and a menu has each child from the last row that has one.
  cases howner : owner.2.action with
  | leaf l =>
    have haction : (owner.2.extend merged).action = .leaf l := by
      rw [Command.extend_of_leaf howner, howner]
    constructor
    · intro h
      rw [haction] at h
      cases h
      exact ⟨owner, .own message howner⟩
    · rintro ⟨source, h⟩
      cases h with
      | own message hleaf =>
        obtain rfl := Action.leaf.inj (howner.symm.trans hleaf)
        rw [haction]
        exact .leaf l message
      | child hmenu => cases haction.symm.trans hmenu
  | menu m =>
    have hmenu : owner.2.IsMenu := ⟨m, howner⟩
    obtain ⟨n, haction⟩ := hmenu.extend merged
    have hlive : ∀ name, n.live.get? name = (provider? (owner :: merged) name).map Prod.snd := by
      intro name
      rw [← hmenu.child?_extend, Command.child?, haction]
    constructor
    · intro h
      rw [haction] at h
      cases h with
      | menu hselects hleads =>
        obtain ⟨name, hselect, hget⟩ := Menu.selects_iff.mp hselects
        rw [hlive, Option.map_eq_some_iff] at hget
        obtain ⟨⟨source, c⟩, hprovider, rfl⟩ := hget
        exact ⟨source, .child haction hselect hprovider hleads⟩
    · rintro ⟨source, h⟩
      cases h with
      | own message hleaf => cases howner.symm.trans hleaf
      | child hmenu' hselect hprovider hleads =>
        obtain rfl := Action.menu.inj (haction.symm.trans hmenu')
        rw [haction]
        refine .menu (Menu.selects_iff.mpr ⟨_, hselect, ?_⟩) hleads
        rw [hlive, hprovider]
        rfl

end Supplies

namespace Bot

open CommandTable

/-- A message is granted a leaf by the rows of a table: it calls a trigger that one of them owns,
the owner or a row merged into it supplies the leaf, and the author has the levels of the owner and
of all children on the way. -/
def GrantedBy (bot : Bot) (rows : List Row) (world : World) (e : MessageEvent) (leaf : Leaf)
    (i : Invocation) : Prop :=
  ∃ trigger message earlier owner later source route, bot.Calls e trigger message ∧
    rows = earlier ++ owner :: later ∧ Owns earlier owner trigger.lower ∧
    Supplies owner (extensions earlier owner later) source message route ∧
    (∀ level ∈ owner.2.level :: route.levels, level ≤ bot.authorLevel world e) ∧
    leaf = route.leaf ∧
    i = bot.invocation e trigger route.message (authorRoles bot.settings world e).2

variable {bot : Bot} {rows : List Row}

lemma get?_owned (h : Loaded rows bot.commands) {trigger : Text} {earlier later : List Row}
    {owner : Row} (hrows : rows = earlier ++ owner :: later) (howns : Owns earlier owner trigger.lower) :
    ∃ c, bot.commands.get? trigger = some c ∧
      c.Agrees (owner.2.extend (extensions earlier owner later)) := by
  obtain ⟨i, c, hplace, hc, hagrees⟩ := h.owners earlier owner later hrows ⟨_, howns⟩
  exact ⟨c, by simp [CommandTable.get?, (hplace _).mpr howns, hc], hagrees⟩

/-- On a loaded table, access is granted by the rows. -/
theorem grants_iff_grantedBy (h : Loaded rows bot.commands) {world : World} {e : MessageEvent}
    {leaf : Leaf} {i : Invocation} :
    bot.Grants world e leaf i ↔ bot.GrantedBy rows world e leaf i := by
  constructor
  · rintro ⟨trigger, message, command, route, hcalls, hget, hleads, hlevels, hleaf, hi⟩
    obtain ⟨earlier, owner, later, hrows, howns⟩ := exists_owner ((h.bound _).mp hcalls.bound)
    obtain ⟨c, hc, hagrees⟩ := get?_owned h hrows howns
    obtain rfl : command = c := Option.some.inj (hget.symm.trans hc)
    obtain ⟨source, hsource⟩ := Supplies.leads_iff.mp (hagrees.action.leads hleads)
    rw [hagrees.level, Command.level_extend] at hlevels
    exact ⟨trigger, message, earlier, owner, later, source, route, hcalls, hrows, howns, hsource,
      hlevels, hleaf, hi⟩
  · rintro ⟨trigger, message, earlier, owner, later, source, route, hcalls, hrows, howns, hsource,
      hlevels, hleaf, hi⟩
    obtain ⟨c, hc, hagrees⟩ := get?_owned h hrows howns
    have hleads := hagrees.action.symm.leads (Supplies.leads_iff.mpr ⟨source, hsource⟩)
    rw [← Command.level_extend owner.2 (extensions earlier owner later), ← hagrees.level] at hlevels
    exact ⟨trigger, message, c, route, hcalls, hc, hleads, hlevels, hleaf, hi⟩

/-- Whatever a message reaches on a loaded table is a leaf of one of its rows. -/
lemma exists_row_of_reach? (h : Loaded rows bot.commands) (hplaced : bot.commands.Placed)
    {world : World} {e : MessageEvent} {leaf : Leaf} {i : Invocation}
    (hreach : bot.reach? world e = some (leaf, i)) : ∃ row ∈ rows, leaf ∈ row.2.action.leaves := by
  have hgranted := (grants_iff_grantedBy h).mp ((reach?_eq_some_iff hplaced).mp hreach)
  obtain ⟨_, _, earlier, owner, later, source, _, -, hrows, -, hsource, -, rfl, -⟩ := hgranted
  obtain ⟨hmem, hwhich⟩ := hsource.source_cases
  refine ⟨source, ?_, hmem⟩
  rw [hrows, List.mem_append, List.mem_cons]
  exact .inr (hwhich.imp_right fun hmerged => List.mem_of_mem_filter hmerged.1)

/-- On a loaded table a message reaches exactly the leaves that it is granted by the rows, so that
nobody runs one without the level of the row that owns the trigger and the levels of the children on
the way. The leaf is one of the owner, or of a later menu that was merged into the owner's. -/
theorem reaches_iff_grantedBy {v : Vocabulary} {stored : List StoredCommand}
    (hload : load v stored = .ok bot.commands) (world : World) (e : MessageEvent) :
    bot.handle world e = ⟨bot.lookUps world e ++
        (runReached (Platform.host bot.filters) (bot.reach? world e)).events.flatMap
          (Platform.perform bot.settings world bot.filters),
        (runReached (Platform.host bot.filters) (bot.reach? world e)).result.map fun _ => ()⟩ ∧
      (∀ leaf i, bot.reach? world e = some (leaf, i) ↔
        bot.GrantedBy (rowsToAdd v stored) world e leaf i) ∧
      ∀ owner merged source message route, Supplies owner merged source message route →
        route.leaf ∈ source.2.action.leaves ∧
          (source = owner ∨ source ∈ merged ∧ owner.2.IsMenu ∧ source.2.IsMenu) := by
  obtain ⟨hloaded, hplaced⟩ := loaded_of_load hload
  refine ⟨bot.handle_eq world e, fun leaf i => ?_, fun _ _ _ _ _ h => h.source_cases⟩
  rw [reach?_eq_some_iff hplaced, grants_iff_grantedBy hloaded]

def standardVocabulary : Vocabulary := ⟨Family.standard, Callback.standard⟩

/-- A menu for everybody. -/
def openRow : StoredCommand where
  aliasList := "m".toList
  action := ("\x7b\"type\":\"multi\",\"args\":[\x7b\"command\":\"a\",\"action\":" ++
    "\x7b\"type\":\"channelmessage\",\"message\":\"hello\"\x7d\x7d]\x7d").toList
  level := 100
  description := none

/-- A menu for a few, under the same trigger. -/
def secretRow : StoredCommand where
  aliasList := "m".toList
  action := ("\x7b\"type\":\"multi\",\"args\":[\x7b\"command\":\"secret\",\"action\":" ++
    "\x7b\"type\":\"channelmessage\",\"message\":\"top secret\"\x7d\x7d]\x7d").toList
  level := 500
  description := none

/-- A bot that has loaded both menus. -/
def merger : Bot where
  settings := talker.settings
  filters := .empty
  commands := (load standardVocabulary [openRow, secretRow]).toOption.getD .empty

/-- A message of a user of the level 200. -/
def tell (content : Text) : MessageEvent := { greet with content := content }

/-- The text that a leaf responds with, before it is filled in. -/
def responseText? : Leaf → Option Text
  | .say t => some t.text
  | .whisper t => some t.text
  | _ => none

/-- Loading goes through, a user of the level 200 is told both texts, and only rows of higher levels
have the second. These are computed together, since each needs the rows to be read. -/
lemma computed_merger :
    (load standardVocabulary [openRow, secretRow]).isOk = true ∧
      (merger.reach? silence (tell "!m a".toList)).any (fun reached =>
        responseText? reached.1 == some "hello".toList) = true ∧
      (merger.reach? silence (tell "!m secret".toList)).any (fun reached =>
        responseText? reached.1 == some "top secret".toList && reached.2.level == 200) = true ∧
      ∀ row ∈ rowsToAdd standardVocabulary [openRow, secretRow],
        row.2.action.leaves.any (responseText? · == some "top secret".toList) = true →
          200 < row.2.level := by
  decide +kernel

lemma load_merger : load standardVocabulary [openRow, secretRow] = .ok merger.commands := by
  obtain ⟨t, hload⟩ := exists_ok computed_merger.1
  rw [merger, hload]
  rfl

/-- The child of the open menu is reached with the levels of that menu and of the child. -/
theorem merger_says_hello :
    load standardVocabulary [openRow, secretRow] = .ok merger.commands ∧
      ∃ leaf i, responseText? leaf = some "hello".toList ∧
        merger.reach? silence (tell "!m a".toList) = some (leaf, i) ∧
        merger.GrantedBy (rowsToAdd standardVocabulary [openRow, secretRow]) silence
          (tell "!m a".toList) leaf i := by
  obtain ⟨-, hreach, -⟩ := computed_merger
  obtain ⟨⟨leaf, i⟩, hsome, htext⟩ := (Option.any_eq_true _ _).mp hreach
  have hiff := (reaches_iff_grantedBy load_merger silence (tell "!m a".toList)).2.1 leaf i
  exact ⟨load_merger, leaf, i, eq_of_beq htext, hsome, hiff.mp hsome⟩

/-- The child of a menu that was merged in is reached without the level of its row. -/
theorem merged_level_not_asked :
    load standardVocabulary [openRow, secretRow] = .ok merger.commands ∧
      ∃ leaf i, merger.reach? silence (tell "!m secret".toList) = some (leaf, i) ∧
        (∃ row ∈ rowsToAdd standardVocabulary [openRow, secretRow], leaf ∈ row.2.action.leaves) ∧
        ∀ row ∈ rowsToAdd standardVocabulary [openRow, secretRow],
          leaf ∈ row.2.action.leaves → i.level < row.2.level := by
  obtain ⟨-, -, hreach, hlevels⟩ := computed_merger
  obtain ⟨⟨leaf, i⟩, hsome, hleaf⟩ := (Option.any_eq_true _ _).mp hreach
  obtain ⟨htext, hi⟩ := Bool.and_eq_true_iff.mp hleaf
  obtain ⟨hloaded, hplaced⟩ := loaded_of_load load_merger
  have hgranted := (grants_iff_grantedBy hloaded).mp ((reach?_eq_some_iff hplaced).mp hsome)
  obtain ⟨trigger, message, earlier, owner, later, source, route, -, hrows, -, hsource, -, rfl, -⟩ :=
    hgranted
  obtain ⟨hmem, hwhich⟩ := hsource.source_cases
  refine ⟨load_merger, route.leaf, i, hsome, ⟨source, ?_, hmem⟩, fun row hrow hrowleaf => ?_⟩
  · rw [hrows, List.mem_append, List.mem_cons]
    exact .inr (hwhich.imp_right fun hmerged => List.mem_of_mem_filter hmerged.1)
  · rw [eq_of_beq hi]
    exact hlevels row hrow (List.any_eq_true.mpr ⟨route.leaf, hrowleaf, htext⟩)

end Bot

end CommandBot
