import CommandBot.Proofs.WaitingResponses

/-!
# Empty messages

An empty response is not sent, but a response that waits is not looked at again once its bodies are in
place. It is empty then if at some turn nothing but placeholders for one and the same empty page was
left. That cannot happen to a text that goes on outside its placeholders at one of its ends.
-/

namespace CommandBot

namespace Template

/-- A text with a character at one of its ends that is in no placeholder. -/
def HasMargin (t : Text) : Prop :=
  (∃ c r, t = c :: r ∧ c ≠ '$') ∨ ∃ r c, t = r ++ [c] ∧ c ≠ ')'

variable {needle t : Text}

lemma HasMargin.ne_nil (h : HasMargin t) : t ≠ [] := by
  rcases h with ⟨c, r, rfl, -⟩ | ⟨r, c, rfl, -⟩ <;> simp

/-- No occurrence of a placeholder reaches into a character that closes none. -/
lemma Enclosed.apart (h : Enclosed needle) {c : Char} (hc : c ≠ ')') (r : Text) :
    Text.Apart needle r [c] := by
  intro u _ _ hstart
  obtain ⟨inside, rfl⟩ := h
  rcases List.prefix_concat_iff.mp hstart with hwhole | hinside
  · -- The needle would end with the character, but it ends with a parenthesis.
    exact absurd (List.append_inj_right' hwhole rfl) (by simpa using hc.symm)
  · exact hinside

lemma HasMargin.replaceAll (h : HasMargin t) (hneedle : Enclosed needle) (value : Text) :
    HasMargin (t.replaceAll needle value) := by
  rcases h with ⟨c, r, rfl, hc⟩ | ⟨r, c, rfl, hc⟩
  · have hstart : ¬needle <+: c :: r := by
      obtain ⟨inside, rfl⟩ := hneedle
      intro hprefix
      exact hc (List.cons_prefix_cons.mp hprefix).1.symm
    rw [Text.replaceAll_cons_of_not_isPrefix value hstart]
    exact .inl ⟨c, _, rfl, hc⟩
  · have hnone : ¬needle <:+: [c] := by
      obtain ⟨inside, rfl⟩ := hneedle
      intro hinfix
      have hlen := hinfix.length_le
      simp at hlen
    rw [Text.replaceAll_append_of_apart hneedle.ne_nil value (hneedle.apart hc r),
      Text.replaceAll_of_not_infix hneedle.ne_nil value hnone]
    exact .inr ⟨_, c, rfl, hc⟩

/-- The response of a template has a margin if the template has one. -/
lemma HasMargin.admitted {t : Template} (h : HasMargin t.text) {host : Host} {i : Invocation}
    {response : Text} (hadmitted : t.admitted? host i = some response) : HasMargin response := by
  obtain ⟨hrender, -, -⟩ := admitted?_eq_some_iff.mp hadmitted
  refine render_preserves (P := HasMargin) ?_ ?_ h (Prod.ext hrender rfl)
  · intro s hs u value hu
    exact hu.replaceAll (enclosed_of_mem_substitutions hs) value
  · intro p _ u value hu
    exact hu.replaceAll p.enclosed_print value

end Template

namespace Fetch

variable {web : Web} {t : Text}

lemma enclosed_placeholder (url : Text) : Template.Enclosed (placeholder url) :=
  ⟨"urlfetch ".toList ++ url, rfl⟩

lemma needle_of_mem_table {r : Text × Text} (h : r ∈ table web (targets t)) :
    Template.Enclosed r.1 := by
  obtain ⟨target, htarget, rfl⟩ := List.mem_map.mp h
  rw [(of_mem_targets htarget).2]
  exact enclosed_placeholder target.url

/-- Fetching leaves nothing of a text: when the turn of some placeholder comes, there is nothing but
this placeholder, once or several times in a row, and its body is empty. -/
def Vanishes (web : Web) (t : Text) : Prop :=
  ∃ before target later, targets t = before ++ target :: later ∧ bodyAt web target.url = [] ∧
    ∃ n, Text.replaceInTurn (table web before) t = (List.replicate (n + 1) target.needle).flatten

theorem filled_eq_nil_iff (ht : t ≠ []) : filled web t = [] ↔ Vanishes web t := by
  have hne : ∀ r ∈ table web (targets t), r.1 ≠ [] := fun r hr => (needle_of_mem_table hr).ne_nil
  rw [filled, Text.replaceInTurn_eq_nil_iff hne ht]
  constructor
  · rintro ⟨before, needle, later, hsplit, n, hn⟩
    rw [table, List.map_eq_append_iff] at hsplit
    obtain ⟨first, rest, htargets, rfl, hrest⟩ := hsplit
    obtain ⟨target, last, rfl, htarget, rfl⟩ := List.map_eq_cons_iff.mp hrest
    obtain ⟨rfl, hbody⟩ := Prod.mk.inj htarget
    exact ⟨first, target, last, htargets, hbody, n, hn⟩
  · rintro ⟨first, target, last, htargets, hbody, n, hn⟩
    refine ⟨table web first, target.needle, table web last, ?_, n, hn⟩
    rw [htargets, ← hbody]
    simp [table]

lemma hasMargin_filled (h : Template.HasMargin t) (web : Web) : Template.HasMargin (filled web t) :=
  List.foldlRecOn (motive := Template.HasMargin) (table web (targets t)) _ h
    fun _ hu _ hr => hu.replaceAll (needle_of_mem_table hr) _

end Fetch

lemma PendingMessage.sends_empty_iff {m : PendingMessage} (hm : m.text ≠ [])
    (hcount : Fetch.count m.text ≤ m.ceiling) (web : Web) (host : Host) :
    (∃ event ∈ (m.execute web host).2.events, event.text? = some []) ↔
      (∀ url ∈ Fetch.urls m.text, Fetch.Succeeds web url) ∧ Fetch.Vanishes web m.text := by
  rw [← Fetch.filled_eq_nil_iff hm]
  by_cases hall : ∀ url ∈ Fetch.urls m.text, Fetch.Succeeds web url
  · rw [(execute_of_resolves ⟨hcount, hall⟩ host).2, and_iff_right hall]
    simp [Destination.send, Destination.text?_event]
  · rw [execute_of_not_resolves (fun h => hall h.2)]
    simp [Outcome.nothing, hall]

/-- What a response or a private response sends at once is never empty. What it leaves waiting is sent
empty exactly if all its fetches succeed and nothing of it is left in the end. That never happens to a
template with a margin. -/
theorem sends_empty_iff_vanishes {t : Template} {l : Leaf} (ht : l.template? = some t) (host : Host)
    (i : Invocation) :
    (∀ event ∈ (l.run host i).events, event.text? ≠ some []) ∧
    (∀ m, .schedule m ∈ (l.run host i).events → ∀ web,
      ((∃ event ∈ (m.execute web host).2.events, event.text? = some []) ↔
        (∀ url ∈ Fetch.urls m.text, Fetch.Succeeds web url) ∧ Fetch.Vanishes web m.text)) ∧
    (Template.HasMargin t.text → ∀ m, .schedule m ∈ (l.run host i).events → ∀ web,
      ∀ event ∈ (m.execute web host).2.events, event.text? ≠ some []) := by
  have hiff : ∀ m, .schedule m ∈ (l.run host i).events → ∀ web,
      ((∃ event ∈ (m.execute web host).2.events, event.text? = some []) ↔
        (∀ url ∈ Fetch.urls m.text, Fetch.Succeeds web url) ∧ Fetch.Vanishes web m.text) := by
    intro m hm web
    have hdefers := Leaf.defers_of_schedule_mem ht hm
    exact PendingMessage.sends_empty_iff hdefers.ne_nil hdefers.count_le web host
  refine ⟨fun event hevent => ?_, hiff, fun hmargin m hm web event hevent hempty => ?_⟩
  · rw [Leaf.run_of_template? ht, Template.mem_events_deliver_iff] at hevent
    obtain ⟨response, hadmitted, ⟨-, rfl⟩ | ⟨-, rfl⟩⟩ := hevent
    · rw [Destination.text?_event]
      exact fun he => (Template.admitted?_eq_some_iff.mp hadmitted).2.1 (Option.some.inj he)
    · simp [Event.text?]
  · have hdefers := Leaf.defers_of_schedule_mem ht hm
    have hvanishes := ((hiff m hm web).mp ⟨event, hevent, hempty⟩).2
    rw [← Fetch.filled_eq_nil_iff hdefers.ne_nil] at hvanishes
    exact (Fetch.hasMargin_filled (hmargin.admitted hdefers.admitted) web).ne_nil hvanishes

/-- A template with a margin is sent with what stands outside its placeholder, though the page is
empty. -/
theorem skyReport_not_empty :
    (Leaf.say skyReport).template? = some skyReport ∧ Template.HasMargin skyReport.text ∧
      .schedule ⟨.channel Bot.one, skyReport.text, 1⟩ ∈
        ((Leaf.say skyReport).run (Platform.host .empty) asking).events ∧
      ∀ event ∈ (PendingMessage.execute ⟨.channel Bot.one, skyReport.text, 1⟩ Fetch.blankWeb
        (Platform.host .empty)).2.events, event.text? ≠ some [] := by
  have hmargin : Template.HasMargin skyReport.text := .inl ⟨_, _, rfl, by decide⟩
  have hscheduled : .schedule ⟨.channel Bot.one, skyReport.text, 1⟩ ∈
      ((Leaf.say skyReport).run (Platform.host .empty) asking).events := by decide +kernel
  exact ⟨rfl, hmargin, hscheduled,
    (sends_empty_iff_vanishes rfl (Platform.host .empty) asking).2.2 hmargin _ hscheduled _⟩

def bareReport : Template := ⟨"$(urlfetch http://a.example/x)".toList, .empty⟩

/-- A template that is nothing but a placeholder is sent as an empty message if the page is empty. -/
theorem bareReport_sent_empty :
    .schedule ⟨.channel Bot.one, bareReport.text, 1⟩ ∈
        ((Leaf.say bareReport).run (Platform.host .empty) asking).events ∧
      (PendingMessage.execute ⟨.channel Bot.one, bareReport.text, 1⟩ Fetch.blankWeb
        (Platform.host .empty)).2.events = [.say Bot.one []] := by
  decide +kernel

end CommandBot
