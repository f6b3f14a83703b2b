import CommandBot.Proofs.Executing
import CommandBot.Proofs.Replying

/-!
# Responses that wait for their fetches

A response of a template without fetch placeholders is sent at once, and any other one waits. The
guard that let it through is the one that its execution meets again, with the same count and the same
ceiling, so no waiting response is refused. But only the guard is asked a second time: whether there
is any text left once the bodies are in place is not.
-/

namespace CommandBot

/-- The text that an event sends at once. -/
def Event.text? : Event → Option Text
  | .say _ t | .whisper _ t => some t
  | .schedule _ | .ban _ _ | .unban _ _ => none

lemma Destination.text?_event (d : Destination) (t : Text) : (d.event t).text? = some t := by
  cases d <;> rfl

lemma Template.mem_events_deliver_iff {t : Template} {host : Host} {i : Invocation}
    {d : Destination} {event : Event} :
    event ∈ (t.deliver host i d).events ↔ ∃ response, t.admitted? host i = some response ∧
      (t.fetchCeiling = 0 ∧ event = d.event response ∨
        t.fetchCeiling ≠ 0 ∧ event = .schedule ⟨d, response, t.fetchCeiling⟩) := by
  rw [deliver_eq]
  cases t.admitted? host i with
  | none => simp [Outcome.nothing]
  | some response =>
    by_cases hnone : t.fetchCeiling = 0
    · simp [hnone, Destination.send]
    · simp [hnone]

lemma Leaf.run_of_template? {l : Leaf} {t : Template} (h : l.template? = some t) (host : Host)
    (i : Invocation) : l.run host i = t.deliver host i (l.destination i) := by
  cases l with
  | say u =>
    obtain rfl := Option.some.inj h
    rfl
  | whisper u =>
    obtain rfl := Option.some.inj h
    rfl
  | func name callback => cases h
  | rawFunc name callback => cases h

lemma Leaf.events_of_callback? {l : Leaf} {callback : Callback} (h : l.callback? = some callback)
    (host : Host) (i : Invocation) : (l.run host i).events = (callback host i).events := by
  cases l with
  | say t => cases h
  | whisper t => cases h
  | func name other =>
    obtain rfl := Option.some.inj h
    rfl
  | rawFunc name other =>
    obtain rfl := Option.some.inj h
    rfl

/-- What is known of a message that a template leaves waiting. -/
structure Template.Defers (t : Template) (host : Host) (i : Invocation) (m : PendingMessage) :
    Prop where
  admitted : t.admitted? host i = some m.text
  ceiling : m.ceiling = Fetch.count t.text
  fetches : Fetch.count t.text ≠ 0

lemma Leaf.defers_of_schedule_mem {l : Leaf} {t : Template} (ht : l.template? = some t)
    {host : Host} {i : Invocation} {m : PendingMessage}
    (hm : .schedule m ∈ (l.run host i).events) : t.Defers host i m := by
  rw [run_of_template? ht, Template.mem_events_deliver_iff] at hm
  obtain ⟨response, hadmitted, ⟨-, he⟩ | ⟨hfetches, he⟩⟩ := hm
  · exact absurd he.symm (Destination.event_ne_schedule _ _ _)
  · cases he
    exact ⟨hadmitted, rfl, hfetches⟩

namespace Template.Defers

variable {t : Template} {host : Host} {i : Invocation} {m : PendingMessage}

lemma ne_nil (h : t.Defers host i m) : m.text ≠ [] := (admitted?_eq_some_iff.mp h.admitted).2.1

lemma count_le (h : t.Defers host i m) : Fetch.count m.text ≤ m.ceiling := by
  rw [h.ceiling]
  exact (admitted?_eq_some_iff.mp h.admitted).2.2

lemma not_hijack (h : t.Defers host i m) (web : Web) (found ceiling : Nat) :
    (Fetch.resolve web m.text m.ceiling).2 ≠ .error (.hijack found ceiling) := fun hhijack =>
  absurd (Fetch.resolve_eq_hijack_iff.mp hhijack).1 (Nat.not_lt.mpr h.count_le)

end Template.Defers

lemma Action.run_of_reach? {a : Action} {i j : Invocation} {l : Leaf}
    (h : a.reach? i = some (l, j)) (host : Host) : a.run host i = l.run host j := by
  rw [Action.run, h]
  rfl

lemma Action.exists_reach?_of_mem {a : Action} {host : Host} {i : Invocation} {event : Event}
    (h : event ∈ (a.run host i).events) :
    ∃ l j, a.reach? i = some (l, j) ∧ event ∈ (l.run host j).events := by
  rw [Action.run] at h
  cases hreach : a.reach? i with
  | none => simp [hreach, runReached, Outcome.nothing] at h
  | some reached => exact ⟨reached.1, reached.2, rfl, by rwa [hreach] at h⟩

lemma Leaf.template?_or_callback? (l : Leaf) :
    (∃ t, l.template? = some t) ∨ ∃ callback, l.callback? = some callback := by
  cases l with
  | say t => exact .inl ⟨t, rfl⟩
  | whisper t => exact .inl ⟨t, rfl⟩
  | func name callback => exact .inr ⟨callback, rfl⟩
  | rawFunc name callback => exact .inr ⟨callback, rfl⟩

/-- The two guards agree. Every message that a run leaves waiting has the number of fetch placeholders
of the template that was reached for its ceiling, and its execution never refuses it, unless a callback
other than the standard ones made it up. A template without fetch placeholders leaves none waiting, and
detection reads nothing in any text that it sends. -/
theorem guards_agree (a : Action) (host : Host) (i : Invocation) :
    (∀ m, .schedule m ∈ (a.run host i).events → ∃ l j, a.reach? i = some (l, j) ∧
      ((∃ t, l.template? = some t ∧ m.ceiling = Fetch.count t.text ∧
          ∀ web found ceiling,
            (Fetch.resolve web m.text m.ceiling).2 ≠ .error (.hijack found ceiling)) ∨
        ∃ callback, l.callback? = some callback ∧ ¬callback.IsOrdinary ∧
          .schedule m ∈ (callback host j).events)) ∧
    (∀ l j t, a.reach? i = some (l, j) → l.template? = some t → Fetch.count t.text = 0 →
      ∀ event ∈ (a.run host i).events, (∀ m, event ≠ .schedule m) ∧
        ∀ text, event.text? = some text → ∀ s, s <:+ text → Fetch.detect s = none) := by
  constructor
  · intro m hm
    obtain ⟨l, j, hreach, hm⟩ := Action.exists_reach?_of_mem hm
    refine ⟨l, j, hreach, ?_⟩
    rcases l.template?_or_callback? with ⟨t, ht⟩ | ⟨callback, hcallback⟩
    · have hdefers := Leaf.defers_of_schedule_mem ht hm
      exact .inl ⟨t, ht, hdefers.ceiling, hdefers.not_hijack⟩
    · rw [Leaf.events_of_callback? hcallback] at hm
      exact .inr ⟨callback, hcallback, fun h => (h.does host j).schedule_not_mem m hm, hm⟩
  · intro l j t hreach ht hnone event hevent
    rw [Action.run_of_reach? hreach, Leaf.run_of_template? ht,
      Template.mem_events_deliver_iff] at hevent
    obtain ⟨response, hadmitted, ⟨-, rfl⟩ | ⟨hfetches, -⟩⟩ := hevent
    · refine ⟨Destination.event_ne_schedule _ _, fun text htext => ?_⟩
      rw [Destination.text?_event] at htext
      obtain rfl := Option.some.inj htext
      have hcount := (Template.admitted?_eq_some_iff.mp hadmitted).2.2
      rw [Template.fetchCeiling, hnone, Nat.le_zero] at hcount
      exact Fetch.count_eq_zero_iff.mp hcount
    · exact absurd hnone hfetches

def skyReport : Template := ⟨"sky: $(urlfetch http://a.example/x)".toList, .empty⟩

def asking : Invocation := ⟨Bot.one, Bot.one, none, false, "sky".toList, 100⟩

/-- The response of a template with one fetch placeholder waits, and is not refused later. -/
theorem skyReport_waits :
    .schedule ⟨.channel Bot.one, skyReport.text, 1⟩ ∈
        ((Action.leaf (.say skyReport)).run (Platform.host .empty) asking).events ∧
      ∀ web found ceiling,
        (Fetch.resolve web skyReport.text 1).2 ≠ .error (.hijack found ceiling) := by
  have hwaits : .schedule ⟨.channel Bot.one, skyReport.text, 1⟩ ∈
      ((Action.leaf (.say skyReport)).run (Platform.host .empty) asking).events := by
    decide +kernel
  refine ⟨hwaits, ?_⟩
  obtain ⟨l, j, hreach, hcases⟩ :=
    (guards_agree (.leaf (.say skyReport)) (Platform.host .empty) asking).1 _ hwaits
  have hself : (Action.leaf (.say skyReport)).reach? asking = some (.say skyReport, asking) := rfl
  obtain ⟨rfl, rfl⟩ := Prod.mk.inj (Option.some.inj (hself.symm.trans hreach))
  rcases hcases with ⟨t, -, -, hpasses⟩ | ⟨callback, hcallback, -⟩
  · exact hpasses
  · cases hcallback

end CommandBot
