import CommandBot.Platform
import CommandBot.Proofs.FetchFilling

/-!
# Executing waiting messages

A waiting message is sent as a whole or not at all. Its URLs are fetched in the order in which they
first appear, each once, up to the first failure. Only if none of them fails is the text sent, and
then once; a text with too many placeholders is not even fetched for.
-/

namespace CommandBot

namespace Fetch

variable {web : Web} {t : Text}

/-- The URLs that resolution reads in a text, each once, in the order of their first appearance. -/
def urls (t : Text) : List Text := ((Text.occurrences resolvable t).map (·.2)).eraseDups

lemma map_url_targets (t : Text) : (targets t).map Target.url = urls t := by
  rw [targets, map_eraseDups, List.map_map]
  · rfl
  · intro target h other h'
    exact eq_of_url_eq (List.mem_eraseDups.mpr h) (List.mem_eraseDups.mpr h')

def Succeeds (web : Web) (url : Text) : Prop := ∃ body, (fetch web url).2 = .ok body

/-- The text in which every placeholder has given way to the body at its URL, one placeholder after
the other. -/
def filled (web : Web) (t : Text) : Text := Text.replaceInTurn (table web (targets t)) t

lemma resolveTargets_cons_of_fails {target : Target} (h : ¬Succeeds web target.url)
    (later : List Target) (t : Text) :
    ∃ e, resolveTargets web (target :: later) t = ([(fetch web target.url).1], .error e) := by
  cases hfetch : (fetch web target.url).2 with
  | ok body => exact absurd ⟨body, hfetch⟩ h
  | error e =>
    have hpair : fetch web target.url = ((fetch web target.url).1, .error e) := Prod.ext rfl hfetch
    rw [resolveTargets, hpair]
    exact ⟨e, rfl⟩

lemma resolve_of_succeeds {ceiling : Nat} (hcount : count t ≤ ceiling)
    (h : ∀ url ∈ urls t, Succeeds web url) :
    (resolve web t ceiling).1.map Attempt.url = urls t ∧
      (resolve web t ceiling).2 = .ok (filled web t) := by
  rw [← map_url_targets, List.forall_mem_map] at h
  rw [resolve_of_count_le hcount, resolveTargets_eq h, ← map_url_targets, List.map_map]
  exact ⟨rfl, rfl⟩

lemma resolve_of_fails {ceiling : Nat} (hcount : count t ≤ ceiling) {before later : List Text}
    {url : Text} (hurls : urls t = before ++ url :: later)
    (hbefore : ∀ u ∈ before, Succeeds web u) (hfails : ¬Succeeds web url) :
    (resolve web t ceiling).1.map Attempt.url = before ++ [url] ∧
      ∃ e, (resolve web t ceiling).2 = .error e := by
  rw [← map_url_targets, List.map_eq_append_iff] at hurls
  obtain ⟨first, rest, htargets, rfl, hrest⟩ := hurls
  obtain ⟨target, last, rfl, rfl, rfl⟩ := List.map_eq_cons_iff.mp hrest
  obtain ⟨e, hstop⟩ := resolveTargets_cons_of_fails hfails last
    (Text.replaceInTurn (table web first) t)
  rw [List.forall_mem_map] at hbefore
  rw [resolve_of_count_le hcount, htargets, resolveTargets_append hbefore, hstop]
  exact ⟨by simp [url_fetch], e, rfl⟩

/-- Of some URLs either all fetches succeed, or one is the first to fail. -/
lemma succeeds_or_first_failure (web : Web) (us : List Text) :
    (∀ url ∈ us, Succeeds web url) ∨ ∃ before url later, us = before ++ url :: later ∧
      (∀ u ∈ before, Succeeds web u) ∧ ¬Succeeds web url := by
  induction us with
  | nil => exact .inl (by simp)
  | cons url us ih =>
    by_cases hurl : Succeeds web url
    · rcases ih with hall | ⟨before, v, later, rfl, hbefore, hfails⟩
      · exact .inl (List.forall_mem_cons.mpr ⟨hurl, hall⟩)
      · exact .inr ⟨url :: before, v, later, rfl, List.forall_mem_cons.mpr ⟨hurl, hbefore⟩, hfails⟩
    · exact .inr ⟨[], url, us, rfl, by simp, hurl⟩

end Fetch

namespace PendingMessage

variable {m : PendingMessage} {web : Web}

/-- What it takes for a waiting message to be sent. -/
def Resolves (m : PendingMessage) (web : Web) : Prop :=
  Fetch.count m.text ≤ m.ceiling ∧ ∀ url ∈ Fetch.urls m.text, Fetch.Succeeds web url

lemma execute_of_excess (h : m.ceiling < Fetch.count m.text) (web : Web) (host : Host) :
    m.execute web host = ([], .nothing) := by
  rw [execute, Fetch.resolve, if_pos h]

lemma execute_of_resolves (h : m.Resolves web) (host : Host) :
    (m.execute web host).1.map Attempt.url = Fetch.urls m.text ∧
      (m.execute web host).2 = m.destination.send host (Fetch.filled web m.text) := by
  obtain ⟨hattempts, hfilled⟩ := Fetch.resolve_of_succeeds h.1 h.2
  refine ⟨hattempts, ?_⟩
  rw [execute]
  simp only [hfilled]

lemma execute_of_fails (hcount : Fetch.count m.text ≤ m.ceiling) {before later : List Text}
    {url : Text} (hurls : Fetch.urls m.text = before ++ url :: later)
    (hbefore : ∀ u ∈ before, Fetch.Succeeds web u) (hfails : ¬Fetch.Succeeds web url)
    (host : Host) :
    (m.execute web host).1.map Attempt.url = before ++ [url] ∧
      (m.execute web host).2 = .nothing := by
  obtain ⟨hattempts, e, herror⟩ := Fetch.resolve_of_fails hcount hurls hbefore hfails
  refine ⟨hattempts, ?_⟩
  rw [execute]
  simp only [herror]

lemma execute_of_not_resolves (h : ¬m.Resolves web) (host : Host) :
    (m.execute web host).2 = .nothing := by
  by_cases hcount : Fetch.count m.text ≤ m.ceiling
  · rcases Fetch.succeeds_or_first_failure web (Fetch.urls m.text) with
      hall | ⟨before, url, later, hurls, hbefore, hfails⟩
    · exact absurd ⟨hcount, hall⟩ h
    · exact (execute_of_fails hcount hurls hbefore hfails host).2
  · rw [execute_of_excess (Nat.lt_of_not_le hcount)]

/-- All or nothing. A waiting message with too many placeholders makes no request. Any other one
fetches its distinct URLs in order, all of them or up to the first that fails. The host is asked to
send the resolved text to the destination of the message, once, exactly if none fails. -/
theorem execute_all_or_nothing (m : PendingMessage) (web : Web) (host : Host) :
    (Fetch.urls m.text).Nodup ∧
      (m.ceiling < Fetch.count m.text → (m.execute web host).1 = []) ∧
      (Fetch.count m.text ≤ m.ceiling →
        (m.execute web host).1.map Attempt.url <+: Fetch.urls m.text ∧
        ((∀ url ∈ Fetch.urls m.text, Fetch.Succeeds web url) →
          (m.execute web host).1.map Attempt.url = Fetch.urls m.text) ∧
        ∀ before url later, Fetch.urls m.text = before ++ url :: later →
          (∀ u ∈ before, Fetch.Succeeds web u) → ¬Fetch.Succeeds web url →
          (m.execute web host).1.map Attempt.url = before ++ [url]) ∧
      (m.Resolves web →
        (m.execute web host).2.events = [m.destination.event (Fetch.filled web m.text)]) ∧
      (¬m.Resolves web → (m.execute web host).2.events = []) := by
  refine ⟨Fetch.nodup_eraseDups _, fun h => ?_, fun hcount => ⟨?_, fun hall => ?_, ?_⟩,
    fun h => ?_, fun h => ?_⟩
  · rw [execute_of_excess h]
  · rw [execute, Fetch.resolve_of_count_le hcount, ← Fetch.map_url_targets]
    exact Fetch.urls_resolveTargets_isPrefix web _ _
  · exact (execute_of_resolves ⟨hcount, hall⟩ host).1
  · intro before url later hurls hbefore hfails
    exact (execute_of_fails hcount hurls hbefore hfails host).1
  · rw [(execute_of_resolves h host).2]
    rfl
  · rw [execute_of_not_resolves h]
    rfl

def waitingForecast : PendingMessage := ⟨.channel ⟨5, by decide, by decide⟩, Fetch.forecast, 2⟩

/-- A web in which only the first of the two URLs can be reached. -/
def outage : Web := fun url =>
  if url = "http://a.example/x".toList then some ⟨[], some ⟨200, some "sunny".toList⟩⟩ else none

/-- The second fetch fails, and the body of the first one is not sent either. -/
theorem forecast_dropped :
    Fetch.count waitingForecast.text ≤ waitingForecast.ceiling ∧
      Fetch.urls waitingForecast.text =
        ["http://a.example/x".toList] ++ "http://b.example/y".toList :: [] ∧
      (waitingForecast.execute outage (Platform.host .empty)).1.map Attempt.url =
        ["http://a.example/x".toList] ++ ["http://b.example/y".toList] ∧
      (waitingForecast.execute outage (Platform.host .empty)).2.events = [] := by
  obtain ⟨-, -, hstarted, -, hdropped⟩ :=
    execute_all_or_nothing waitingForecast outage (Platform.host .empty)
  have hcount : Fetch.count waitingForecast.text ≤ waitingForecast.ceiling := by decide +kernel
  have hurls : Fetch.urls waitingForecast.text =
      ["http://a.example/x".toList] ++ "http://b.example/y".toList :: [] := by decide +kernel
  have hfirst : Fetch.Succeeds outage "http://a.example/x".toList :=
    ⟨"sunny".toList, by decide +kernel⟩
  have hsecond : ¬Fetch.Succeeds outage "http://b.example/y".toList := by
    rintro ⟨body, hbody⟩
    cases hbody
  refine ⟨hcount, hurls, (hstarted hcount).2.2 _ _ _ hurls (by simpa using hfirst) hsecond, ?_⟩
  exact hdropped fun h => hsecond (h.2 _ (by rw [hurls]; simp))

end PendingMessage

end CommandBot
