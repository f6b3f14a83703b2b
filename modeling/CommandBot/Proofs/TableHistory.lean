import CommandBot.Proofs.Merging

/-!
# What a table shows of its history

After any history of additions and resets, a trigger shows the command of the first row that lists
it. Nothing that comes later changes it, but that a menu has its children overlaid by those of the
menus that were added, since the last reset, under one of the triggers it owns.
-/

namespace CommandBot.CommandTable

/-- What is shown of the command of a row into which other rows were merged. -/
structure Shows (owner : Row) (merged : List Row) (c : Command) : Prop where
  level : c.level = owner.2.level
  description : c.description = owner.2.description
  leaf : ∀ l, owner.2.action = .leaf l → c.action = .leaf l
  menu : ∀ m, owner.2.action = .menu m → ∃ n, c.action = .menu n ∧ n.default = m.default ∧
    n.fallback = m.fallback ∧ n.initial.Agrees m.initial ∧
    ∀ name, n.live.get? name = (provider? (owner :: merged) name).map Prod.snd

lemma shows_extend (owner : Row) (merged : List Row) :
    Shows owner merged (owner.2.extend merged) := by
  -- A reset undoes what was merged and keeps the rest, so it tells that the rest is unchanged.
  have hreset : (owner.2.extend merged).reset = owner.2.reset := owner.2.reset_extend merged
  have hparts : (owner.2.extend merged).level = owner.2.level ∧
      (owner.2.extend merged).action.reset = owner.2.action.reset ∧
      (owner.2.extend merged).description = owner.2.description := by
    simpa only [Command.reset, Command.mk.injEq] using hreset
  obtain ⟨hlevel, haction, hdescription⟩ := hparts
  refine ⟨hlevel, hdescription, ?_, ?_⟩
  · intro l hl
    rw [Command.extend_of_leaf hl, hl]
  · intro m hm
    have hmenu : owner.2.IsMenu := ⟨m, hm⟩
    obtain ⟨n, hn⟩ := hmenu.extend merged
    have hbuilt : n.initial = m.initial ∧ n.default = m.default ∧ n.fallback = m.fallback := by
      simpa [hn, hm, Action.reset, Menu.reset] using haction
    obtain ⟨hinitial, hdefault, hfallback⟩ := hbuilt
    refine ⟨n, hn, hdefault, hfallback, ?_, ?_⟩
    · intro name
      rw [hinitial]
    · intro name
      rw [← hmenu.child?_extend, Command.child?, hn]

lemma Shows.of_agrees {owner : Row} {merged : List Row} {c d : Command} (h : Shows owner merged d)
    (hagrees : c.Agrees d) : Shows owner merged c := by
  obtain ⟨level, action, description⟩ := c
  obtain ⟨level', action', description'⟩ := d
  obtain ⟨rfl, haction, rfl⟩ := hagrees
  cases haction with
  | leaf l => exact h
  | menu hmenu =>
    refine ⟨h.level, h.description, ?_, ?_⟩
    · intro l hl
      cases h.leaf l hl
    · intro m hm
      obtain ⟨n, hn, hdefault, hfallback, hinitial, hlive⟩ := h.menu m hm
      obtain rfl := Action.menu.inj hn
      refine ⟨_, rfl, hmenu.default.trans hdefault, hmenu.fallback.trans hfallback, ?_, ?_⟩
      · intro name
        rw [hmenu.initial name, hinitial name]
      · intro name
        rw [hmenu.live name, hlive name]

namespace Recorded

variable {history : List Change} {t : CommandTable}

lemma exists_get?_iff (h : Recorded history t) (trigger : Text) :
    (∃ c, t.get? trigger = some c) ↔ trigger.lower ∈ listed (added history) := by
  rw [← h.bound, Registry.contains_iff]
  constructor
  · rintro ⟨c, hc⟩
    obtain ⟨i, hi, -⟩ := Option.bind_eq_some_iff.mp hc
    exact ⟨i, hi⟩
  · rintro ⟨i, hi⟩
    have hlt : i < t.commands.length := h.placed _ i hi
    exact ⟨t.commands[i], by simp [CommandTable.get?, hi, hlt]⟩

lemma get?_eq_none (h : Recorded history t) {trigger : Text}
    (hfree : trigger.lower ∉ listed (added history)) : t.get? trigger = none := by
  by_contra hne
  exact hfree ((h.exists_get?_iff trigger).mp (Option.ne_none_iff_exists'.mp hne))

lemma get?_of_owns (h : Recorded history t) {before after : List Change} {row : Row} {trigger : Text}
    (hhistory : history = before ++ .add row :: after) (howns : Owns (added before) row trigger.lower) :
    ∃ c, t.get? trigger = some c ∧
      c.Agrees (row.2.extend (extensions (added before) row (sinceReset after))) := by
  obtain ⟨i, c, hplace, hc, hagrees⟩ := h.owners before row after hhistory ⟨_, howns⟩
  exact ⟨c, by simp [CommandTable.get?, (hplace _).mpr howns, hc], hagrees⟩

end Recorded

/-- A trigger is bound exactly if a row of the history lists it, and the first row that does so is
what the trigger shows, with the children of what was merged into it since the last reset. -/
theorem replay_shows_owner {history : List Change} {t : CommandTable}
    (hrun : empty.replay history = .ok t) (hfresh : ∀ row ∈ added history, row.2.IsFresh)
    (trigger : Text) :
    ((∃ c, t.get? trigger = some c) ↔ trigger.lower ∈ listed (added history)) ∧
      ∀ before row after, history = before ++ .add row :: after →
        Owns (added before) row trigger.lower →
        ∃ c, t.get? trigger = some c ∧
          Shows row (extensions (added before) row (sinceReset after)) c := by
  have howners : FreshOwners history := by
    intro before row after hhistory _
    exact hfresh row (by simp [hhistory, added, Change.row?])
  have hrecorded : Recorded history t := Recorded.empty.replay (fun _ => howners) hrun
  refine ⟨hrecorded.exists_get?_iff trigger, ?_⟩
  intro before row after hhistory howns
  obtain ⟨c, hc, hagrees⟩ := hrecorded.get?_of_owns hhistory howns
  exact ⟨c, hc, (shows_extend row _).of_agrees hagrees⟩

def note (text : String) : Command :=
  ⟨Command.defaultLevel, .leaf (.say ⟨text.toList, .empty⟩), none⟩

def menuOf (children : List (Text × Command)) : Command :=
  ⟨Command.defaultLevel, .menu (.ofChildren children none none), none⟩

/-- A menu with two triggers. -/
def quotes : Row :=
  ("quote|Q".toList, menuOf [("a".toList, note "one"), ("b".toList, note "one")])

/-- A menu that goes into the first one and has a trigger of its own. -/
def moreQuotes : Row := ("say|q".toList, menuOf [("b".toList, note "two")])

def lateQuotes : Row := (" QUOTE ".toList, menuOf [("c".toList, note "three")])

def plainQuote : Row := ("q".toList, note "four")

def quoteHistory : List Change :=
  [.add quotes, .add moreQuotes, .reset, .add lateQuotes, .add plainQuote]

/-- The child that came before the reset is gone, the one that came after it is there, and the plain
command under the same trigger changes nothing. -/
theorem quotes_shown :
    (∀ row ∈ added quoteHistory, row.2.IsFresh) ∧
      ∃ t c n, empty.replay quoteHistory = .ok t ∧ t.get? "Q".toList = some c ∧
        c.action = .menu n ∧ n.live.get? "a".toList = some (note "one") ∧
        n.live.get? "b".toList = some (note "one") ∧
        n.live.get? "c".toList = some (note "three") := by
  have hfresh : ∀ row ∈ added quoteHistory, row.2.IsFresh := by
    have hadded : added quoteHistory = [quotes, moreQuotes, lateQuotes, plainQuote] := rfl
    simp only [hadded, List.forall_mem_cons, List.not_mem_nil, false_imp_iff, implies_true, and_true]
    exact ⟨rfl, rfl, rfl, rfl⟩
  obtain ⟨t, hrun⟩ : ∃ t, empty.replay quoteHistory = .ok t := ⟨_, rfl⟩
  obtain ⟨c, hc, hshows⟩ := (replay_shows_owner hrun hfresh "Q".toList).2 [] quotes
    [.add moreQuotes, .reset, .add lateQuotes, .add plainQuote] rfl (by decide)
  obtain ⟨n, hn, -, -, -, hlive⟩ := hshows.menu _ rfl
  exact ⟨hfresh, t, c, n, hrun, hc, hn, hlive _, hlive _, hlive _⟩

end CommandBot.CommandTable
