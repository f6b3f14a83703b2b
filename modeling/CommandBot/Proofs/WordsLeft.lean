import CommandBot.Proofs.Routing
import CommandBot.Proofs.Words

/-!
# The words that routing leaves

A menu takes the first word off a message if that word names a child. Its fallback gets the message
as it is, and its default gets none. So a leaf is told the words of the message without the first
ones, as many as there were steps of the first kind.
-/

namespace CommandBot

open Template (argumentValue argumentValue_of_drop messageWords)

/-- The ways in which a menu comes to a child. -/
inductive Menu.Step where
  | word
  | fallback
  | default
  deriving Repr, DecidableEq

/-- The way in which a menu comes to a child, if it has one for a message. -/
def Menu.step (m : Menu Command) (message : Option Text) : Menu.Step :=
  match message.bind Text.firstWord? with
  | none => .default
  | some (word, _) => if m.live.contains word.lower then .word else .fallback

/-- Routing leads an action with a message to the end of a route, by these steps. -/
inductive Action.LeadsBy : Action → Option Text → List Menu.Step → Route → Prop
  | leaf (l : Leaf) (message : Option Text) : LeadsBy (.leaf l) message [] ⟨[], l, message⟩
  | menu {m : Menu Command} {message rest : Option Text} {c : Command} {steps : List Menu.Step}
      {r : Route} : m.selected? message = some (c, rest) → LeadsBy c.action rest steps r →
        LeadsBy (.menu m) message (m.step message :: steps) (r.through c.level)

lemma Action.leads_iff_leadsBy {a : Action} {message : Option Text} {r : Route} :
    a.Leads message r ↔ ∃ steps, a.LeadsBy message steps r := by
  constructor
  · intro h
    induction h with
    | leaf l message => exact ⟨[], .leaf l message⟩
    | menu hselects _ ih =>
      obtain ⟨steps, hsteps⟩ := ih
      exact ⟨_, .menu (Menu.selected?_eq_some_iff.mpr hselects) hsteps⟩
  · rintro ⟨steps, h⟩
    induction h with
    | leaf l message => exact .leaf l message
    | menu hselected _ ih => exact .menu (Menu.selected?_eq_some_iff.mp hselected) ih

namespace Menu

variable {m : Menu Command} {message rest : Option Text} {c : Command}

/-- What a step leaves of a message. -/
lemma rest_of_selected? (h : m.selected? message = some (c, rest)) :
    match m.step message with
    | .word => ∃ word, messageWords message = word :: messageWords rest
    | .fallback => rest = message
    | .default => messageWords message = [] ∧ rest = none := by
  cases selected?_eq_some_iff.mp h with
  | @word t word rest c hfirst hget =>
    have hstep : m.step (some t) = .word := by simp [step, hfirst, Registry.contains, hget]
    rw [hstep]
    exact ⟨word, Text.words_of_firstWord? hfirst⟩
  | @fallback t word name rest c hfirst hunknown hfallback hget =>
    have hstep : m.step (some t) = .fallback := by
      simp [step, hfirst, Registry.contains, hunknown]
    rw [hstep]
  | @default message name c hblank hdefault hget =>
    have hstep : m.step message = .default := by simp [step, hblank]
    rw [hstep]
    cases message with
    | none => exact ⟨rfl, rfl⟩
    | some t => exact ⟨(Text.firstWord?_eq_none_iff.mp hblank).words_eq_nil, rfl⟩

lemma messageWords_of_selected? (h : m.selected? message = some (c, rest)) :
    messageWords rest = (messageWords message).drop ([m.step message].count .word) := by
  have hrest := rest_of_selected? h
  cases hstep : m.step message with
  | word =>
    rw [hstep] at hrest
    obtain ⟨word, hwords⟩ := hrest
    rw [hwords]
    rfl
  | fallback =>
    rw [hstep] at hrest
    obtain rfl : rest = message := hrest
    rfl
  | default =>
    rw [hstep] at hrest
    obtain ⟨hwords, rfl⟩ := hrest
    rw [hwords]
    rfl

lemma selected?_of_blanks {t : Text} (h : t.Blanks) : m.selected? (some t) = m.selected? none := by
  have hblank : (some t).bind Text.firstWord? = none := Text.firstWord?_eq_none_iff.mpr h
  rw [selected?, selected?, select?_of_blank hblank, select?_of_blank rfl]

lemma eq_none_of_selected? (h : m.selected? none = some (c, rest)) : rest = none :=
  (rest_of_selected? h).2

end Menu

lemma Action.LeadsBy.messageWords_eq {a : Action} {message : Option Text} {steps : List Menu.Step}
    {r : Route} (h : a.LeadsBy message steps r) :
    messageWords r.message = (messageWords message).drop (steps.count .word) := by
  induction h with
  | leaf l message => rfl
  | @menu m message rest c steps r hselected _ ih =>
    calc messageWords (r.through c.level).message
        = (messageWords rest).drop (steps.count .word) := ih
      _ = (messageWords message).drop ([m.step message].count .word + steps.count .word) := by
          rw [Menu.messageWords_of_selected? hselected, List.drop_drop]
      _ = (messageWords message).drop ((m.step message :: steps).count .word) := by
          rw [← List.count_append]
          rfl

/-- Routing goes by steps, and a leaf is told the words of the message without the first ones, one for
each step by a word: its positions are shifted by their number. A blank message goes where no message
goes, which is to the default without a message, and a fallback gets the message as it is. -/
theorem routing_takes_words (a : Action) :
    (∀ message r, a.route? message = some r ↔ ∃ steps, a.LeadsBy message steps r) ∧
    (∀ message steps r, a.LeadsBy message steps r →
      messageWords r.message = (messageWords message).drop (steps.count .word) ∧
      ∀ n, 1 ≤ n → argumentValue r.message n = argumentValue message (n + steps.count .word)) ∧
    ∀ m, a = .menu m →
      (∀ t : Text, t.Blanks →
        m.selected? (some t) = m.selected? none ∧ a.route? (some t) = a.route? none) ∧
      (∀ c rest, m.selected? none = some (c, rest) → rest = none) ∧
      ∀ message c rest, m.step message = .fallback → m.selected? message = some (c, rest) →
        rest = message := by
  refine ⟨fun message r => Action.route?_eq_some_iff.trans Action.leads_iff_leadsBy,
    fun message steps r h => ⟨h.messageWords_eq, fun n => argumentValue_of_drop h.messageWords_eq⟩,
    ?_⟩
  rintro m rfl
  refine ⟨fun t ht => ?_, fun c rest => Menu.eq_none_of_selected?, fun message c rest hstep h => ?_⟩
  · have hselected := Menu.selected?_of_blanks (m := m) ht
    exact ⟨hselected, by rw [Action.route?_menu, Action.route?_menu, hselected]⟩
  · have hrest := Menu.rest_of_selected? h
    rwa [hstep] at hrest

def echo : Command := ⟨100, .leaf (.say ⟨"$(1)".toList, .empty⟩), none⟩

def birds : Menu Command := .ofChildren [("say".toList, echo)] none none

/-- A menu that hands messages with an unknown first word to another menu. -/
def parrot : Menu Command :=
  .ofChildren [("birds".toList, ⟨100, .menu birds, none⟩)] none (some "birds".toList)

/-- The first word is taken by the inner menu alone, so one word is gone. -/
theorem parrot_takes_one :
    (Action.menu parrot).LeadsBy (some " Say\u3000a b".toList) [.fallback, .word]
        ⟨[100, 100], .say ⟨"$(1)".toList, .empty⟩, some "a b".toList⟩ ∧
      messageWords (some "a b".toList) = (messageWords (some " Say\u3000a b".toList)).drop 1 ∧
      argumentValue (some "a b".toList) 1 = argumentValue (some " Say\u3000a b".toList) (1 + 1) := by
  have hfirst : Text.firstWord? " Say\u3000a b".toList = some ("Say".toList, some "a b".toList) := by
    decide +kernel
  have hsay : Text.lower "Say".toList = "say".toList := by decide +kernel
  have hinner : (Action.menu birds).LeadsBy (some " Say\u3000a b".toList) [.word]
      ⟨[100], .say ⟨"$(1)".toList, .empty⟩, some "a b".toList⟩ := by
    refine .menu (c := echo) (Menu.selected?_eq_some_iff.mpr (.word hfirst ?_)) (.leaf _ _)
    rw [hsay]
    rfl
  have hleads : (Action.menu parrot).LeadsBy (some " Say\u3000a b".toList) [.fallback, .word]
      ⟨[100, 100], .say ⟨"$(1)".toList, .empty⟩, some "a b".toList⟩ := by
    refine .menu (c := ⟨100, .menu birds, none⟩)
      (Menu.selected?_eq_some_iff.mpr (.fallback hfirst ?_ rfl rfl)) hinner
    rw [hsay]
    rfl
  obtain ⟨hwords, hvalues⟩ := (routing_takes_words (.menu parrot)).2.1 _ _ _ hleads
  exact ⟨hleads, hwords, hvalues 1 le_rfl⟩

end CommandBot
