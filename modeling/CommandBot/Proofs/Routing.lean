import CommandBot.Action.Run
import Mathlib.Tactic.Lemma

/-!
# Routing through menus

A menu selects a child in one of three ways: by the first word of the message, by its fallback, or
by its default. A run follows these selections to a leaf. It asks for the level of every command on
the way before it goes on, so it is enough to compare the user's level with all of them at the end.
-/

namespace CommandBot

lemma Registry.mem_of_lookUp {α : Type} {name : Text} {entries : List (Text × α)} {a : α}
    (h : lookUp name entries = some a) : (name, a) ∈ entries := by
  induction entries with
  | nil => cases h
  | cons entry entries ih =>
    obtain ⟨other, b⟩ := entry
    rw [lookUp] at h
    split at h
    · rename_i hsame
      obtain rfl := Option.some.inj h
      exact hsame ▸ List.mem_cons_self
    · exact List.mem_cons_of_mem _ (ih h)

/-- The ways in which a menu selects a child for a message, and what it leaves of the message. -/
inductive Menu.Selects (m : Menu Command) : Option Text → Command → Option Text → Prop
  | word {t word : Text} {rest : Option Text} {c : Command} :
      t.firstWord? = some (word, rest) → m.live.get? word.lower = some c →
        Selects m (some t) c rest
  | fallback {t word name : Text} {rest : Option Text} {c : Command} :
      t.firstWord? = some (word, rest) → m.live.get? word.lower = none →
        m.fallback = some name → m.live.get? name = some c → Selects m (some t) c (some t)
  | default {message : Option Text} {name : Text} {c : Command} :
      message.bind Text.firstWord? = none → m.default = some name → m.live.get? name = some c →
        Selects m message c none

/-- Routing leads an action with a message to the end of a route. -/
inductive Action.Leads : Action → Option Text → Route → Prop
  | leaf (l : Leaf) (message : Option Text) : Leads (.leaf l) message ⟨[], l, message⟩
  | menu {m : Menu Command} {message rest : Option Text} {c : Command} {r : Route} :
      m.Selects message c rest → Leads c.action rest r → Leads (.menu m) message (r.through c.level)

namespace Menu

/-- The child that a menu selects for a message, and what it leaves of the message. -/
def selected? (m : Menu Command) (message : Option Text) : Option (Command × Option Text) :=
  (m.select? message).bind fun (name, rest) => (m.live.get? name).map (·, rest)

lemma select?_of_blank {m : Menu Command} {message : Option Text}
    (h : message.bind Text.firstWord? = none) : m.select? message = m.default.map (·, none) := by
  cases message with
  | none => rfl
  | some t =>
    have hblank : t.firstWord? = none := h
    simp [select?, hblank]

lemma select?_of_word {m : Menu Command} {t word : Text} {rest : Option Text}
    (h : t.firstWord? = some (word, rest)) :
    m.select? (some t) =
      if m.live.contains word.lower then some (word.lower, rest)
      else m.fallback.map (·, some t) := by
  simp [select?, h]

lemma Selects.mem_live {m : Menu Command} {message rest : Option Text} {c : Command}
    (h : m.Selects message c rest) : ∃ name, (name, c) ∈ m.live.entries := by
  cases h with
  | word _ hget => exact ⟨_, Registry.mem_of_lookUp hget⟩
  | fallback _ _ _ hget => exact ⟨_, Registry.mem_of_lookUp hget⟩
  | default _ _ hget => exact ⟨_, Registry.mem_of_lookUp hget⟩

theorem selected?_eq_some_iff {m : Menu Command} {message rest : Option Text} {c : Command} :
    m.selected? message = some (c, rest) ↔ m.Selects message c rest := by
  constructor
  · intro h
    obtain ⟨⟨name, left⟩, hselect, hchild⟩ := Option.bind_eq_some_iff.mp h
    obtain ⟨d, hget, hpair⟩ := Option.map_eq_some_iff.mp hchild
    obtain ⟨rfl, rfl⟩ := Prod.mk.inj hpair
    cases hword : message.bind Text.firstWord? with
    | none =>
      rw [select?_of_blank hword] at hselect
      obtain ⟨other, hdefault, hname⟩ := Option.map_eq_some_iff.mp hselect
      obtain ⟨rfl, rfl⟩ := Prod.mk.inj hname
      exact .default hword hdefault hget
    | some pair =>
      obtain ⟨t, rfl, hfirst⟩ := Option.bind_eq_some_iff.mp hword
      obtain ⟨word, tail⟩ := pair
      rw [select?_of_word hfirst] at hselect
      split at hselect
      · obtain ⟨rfl, rfl⟩ := Prod.mk.inj (Option.some.inj hselect)
        exact .word hfirst hget
      · rename_i hunknown
        obtain ⟨other, hfallback, hname⟩ := Option.map_eq_some_iff.mp hselect
        obtain ⟨rfl, rfl⟩ := Prod.mk.inj hname
        exact .fallback hfirst (by simpa [Registry.contains] using hunknown) hfallback hget
  · intro h
    cases h with
    | word hfirst hget => simp [selected?, select?_of_word hfirst, Registry.contains, hget]
    | fallback hfirst hunknown hfallback hget =>
      simp [selected?, select?_of_word hfirst, Registry.contains, hunknown, hfallback, hget]
    | default hblank hdefault hget => simp [selected?, select?_of_blank hblank, hdefault, hget]

end Menu

lemma routeChild?_eq (name : Text) (message : Option Text) (entries : List (Text × Command)) :
    routeChild? name message entries =
      (Registry.lookUp name entries).bind (Command.route? · message) := by
  induction entries with
  | nil => rfl
  | cons entry entries ih =>
    obtain ⟨other, level, action, description⟩ := entry
    rw [routeChild?, Registry.lookUp]
    split
    · rfl
    · exact ih

lemma Action.route?_leaf (l : Leaf) (message : Option Text) :
    (Action.leaf l).route? message = some ⟨[], l, message⟩ := by
  rw [Action.route?]

lemma Action.route?_menu (m : Menu Command) (message : Option Text) :
    (Action.menu m).route? message = (m.selected? message).bind fun (c, rest) => c.route? rest := by
  obtain ⟨⟨live⟩, initial, default, fallback⟩ := m
  rw [Action.route?, Menu.selected?]
  cases (Menu.mk ⟨live⟩ initial default fallback).select? message with
  | none => rfl
  | some pair =>
    obtain ⟨name, rest⟩ := pair
    simp only [routeChild?_eq, Option.bind_some, Registry.get?]
    cases Registry.lookUp name live <;> rfl

lemma Command.route?_eq_some_iff {c : Command} {message : Option Text} {r : Route} :
    c.route? message = some r ↔ ∃ s, c.action.route? message = some s ∧ s.through c.level = r :=
  Option.map_eq_some_iff

mutual

theorem Action.leads_of_route? : (a : Action) → ∀ {message : Option Text} {r : Route},
    a.route? message = some r → a.Leads message r
  | .leaf l, message, r, h => by
    rw [Action.route?_leaf] at h
    obtain rfl := Option.some.inj h
    exact .leaf l message
  | .menu ⟨⟨live⟩, initial, default, fallback⟩, message, r, h => by
    rw [Action.route?_menu] at h
    obtain ⟨⟨c, rest⟩, hselected, hroute⟩ := Option.bind_eq_some_iff.mp h
    obtain ⟨s, hs, rfl⟩ := Command.route?_eq_some_iff.mp hroute
    have hselects := Menu.selected?_eq_some_iff.mp hselected
    exact .menu hselects (children_lead live hselects.mem_live hs)

theorem children_lead : (entries : List (Text × Command)) → ∀ {c : Command}
    {message : Option Text} {r : Route}, (∃ name, (name, c) ∈ entries) →
    c.action.route? message = some r → c.action.Leads message r
  | [], c, message, r, hc, h => by
    obtain ⟨name, hmem⟩ := hc
    cases hmem
  | (first, ⟨level, action, description⟩) :: entries, c, message, r, hc, h => by
    obtain ⟨name, hmem⟩ := hc
    cases hmem with
    | head => exact Action.leads_of_route? action h
    | tail _ hmem => exact children_lead entries ⟨name, hmem⟩ h

end

/-- Routing finds a route exactly if it leads there. -/
theorem Action.route?_eq_some_iff {a : Action} {message : Option Text} {r : Route} :
    a.route? message = some r ↔ a.Leads message r := by
  constructor
  · exact a.leads_of_route?
  · intro h
    induction h with
    | leaf l message => exact Action.route?_leaf l message
    | menu hselects _ ih =>
      rw [Action.route?_menu, Menu.selected?_eq_some_iff.mpr hselects]
      exact Command.route?_eq_some_iff.mpr ⟨_, ih, rfl⟩

lemma Route.admit?_eq_some_iff {i j : Invocation} {r : Route} {l : Leaf} :
    r.admit? i = some (l, j) ↔
      (∀ level ∈ r.levels, level ≤ i.level) ∧ l = r.leaf ∧ j = { i with message := r.message } := by
  have hall : r.levels.all (· ≤ i.level) = true ↔ ∀ level ∈ r.levels, level ≤ i.level := by
    simp only [List.all_eq_true, decide_eq_true_eq]
  rw [Route.admit?, ← hall]
  split
  · rename_i h
    rw [and_iff_right h]
    simp [eq_comm]
  · rename_i h
    exact iff_of_false (by simp) (fun hadmitted => h hadmitted.1)

/-- An invocation reaches a leaf through an action exactly if routing leads there and the user has the
levels of all commands on the way. -/
theorem Action.reach?_eq_some_iff {a : Action} {i j : Invocation} {l : Leaf} :
    a.reach? i = some (l, j) ↔
      ∃ r, a.Leads i.message r ∧ (∀ level ∈ r.levels, level ≤ i.level) ∧
        l = r.leaf ∧ j = { i with message := r.message } := by
  simp only [Action.reach?, Option.bind_eq_some_iff, Action.route?_eq_some_iff,
    Route.admit?_eq_some_iff]

/-- An invocation reaches a leaf through a command exactly if routing leads there and the user has
the levels of the command and of all commands on the way. -/
theorem Command.reach?_eq_some_iff {c : Command} {i j : Invocation} {l : Leaf} :
    c.reach? i = some (l, j) ↔
      ∃ r, c.action.Leads i.message r ∧ (∀ level ∈ c.level :: r.levels, level ≤ i.level) ∧
        l = r.leaf ∧ j = { i with message := r.message } := by
  rw [Command.reach?, Option.bind_eq_some_iff]
  constructor
  · rintro ⟨_, hroute, hadmitted⟩
    obtain ⟨r, hr, rfl⟩ := Command.route?_eq_some_iff.mp hroute
    exact ⟨r, Action.route?_eq_some_iff.mp hr, Route.admit?_eq_some_iff.mp hadmitted⟩
  · rintro ⟨r, hleads, hadmitted⟩
    have hr := Action.route?_eq_some_iff.mpr hleads
    exact ⟨_, Command.route?_eq_some_iff.mpr ⟨r, hr, rfl⟩, Route.admit?_eq_some_iff.mpr hadmitted⟩

/-- A command checks its own level before it runs its action. -/
theorem Command.run_eq (host : Host) (c : Command) (i : Invocation) :
    c.run host i = if c.level ≤ i.level then c.action.run host i else .nothing := by
  have hreach : c.reach? i = if c.level ≤ i.level then c.action.reach? i else none := by
    rw [Command.reach?, Command.route?, Action.reach?]
    cases c.action.route? i.message with
    | none => simp
    | some r =>
      by_cases hlevel : c.level ≤ i.level <;> simp [Route.admit?, Route.through, hlevel]
  rw [Command.run, Action.run, hreach]
  split <;> rfl

theorem Action.run_leaf (host : Host) (l : Leaf) (i : Invocation) :
    (Action.leaf l).run host i = l.run host i := by
  rw [Action.run, Action.reach?, Action.route?_leaf]
  rfl

/-- A menu runs the child that it selects, which checks its own level, and does nothing where it
selects none. -/
theorem Action.run_menu (host : Host) (m : Menu Command) (i : Invocation) :
    (Action.menu m).run host i =
      match m.selected? i.message with
      | none => .nothing
      | some (c, rest) => c.run host { i with message := rest } := by
  rw [Action.run, Action.reach?, Action.route?_menu]
  cases m.selected? i.message with
  | none => rfl
  | some pair => rfl

end CommandBot
