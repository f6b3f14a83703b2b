import CommandBot.Action.Run
import CommandBot.Proofs.FetchKeeping

/-!
# Where fetched URLs come from

A template with fetch placeholders leaves its response waiting, and the waiting message fetches what
resolution reads in the response. The guard compares numbers only. So a URL that the template does
not have is fetched in two cases: a URL of the response runs past its first closing parenthesis, or
a placeholder of the response is none of the template's own while one of those is missing. These are
the only cases, and neither arises if the fetch placeholders of the template are sealed off from what
is filled in.
-/

namespace CommandBot

/-- The URLs whose fetches are started for the messages that an outcome leaves waiting. -/
def Outcome.fetched (o : Outcome) (web : Web) (host : Host) : List Text :=
  o.events.flatMap fun
    | .schedule m => (m.execute web host).1.map (·.url)
    | _ => []

namespace Fetch

/-- A web in which every URL has an empty page. -/
def blankWeb : Web := fun _ => some ⟨[], some ⟨200, some []⟩⟩

lemma fetch_blankWeb (url : Text) : fetch blankWeb url = (⟨url, [url]⟩, .ok []) := rfl

lemma urls_resolveTargets_blankWeb (ts : List Target) (t : Text) :
    (resolveTargets blankWeb ts t).1.map Attempt.url = ts.map Target.url := by
  induction ts generalizing t with
  | nil => rfl
  | cons target ts ih => simp [resolveTargets, fetch_blankWeb, ih]

/-- The fetches of a text stay among some URLs on every web if and only if all its targets do. -/
lemma forall_fetched_iff {t : Text} {ceiling : Nat} (h : count t ≤ ceiling) (allowed : List Text) :
    (∀ web, ∀ url ∈ (resolve web t ceiling).1.map Attempt.url, url ∈ allowed) ↔
      ∀ target ∈ targets t, target.url ∈ allowed := by
  simp only [resolve_of_count_le h]
  constructor
  · intro hall target htarget
    apply hall blankWeb
    rw [urls_resolveTargets_blankWeb]
    exact List.mem_map_of_mem htarget
  · intro hall web url hurl
    obtain ⟨target, htarget, rfl⟩ :=
      List.mem_map.mp ((urls_resolveTargets_isPrefix web (targets t) t).subset hurl)
    exact hall target htarget

end Fetch

namespace Template

/-- The response of a template if it has one that the guard lets through: it is not empty and has no
more fetch placeholders than the template. -/
def admitted? (t : Template) (host : Host) (i : Invocation) : Option Text :=
  (t.render host.filter (.ofInvocation i)).1.filter fun response =>
    !(response.isEmpty || decide (t.fetchCeiling < Fetch.count response))

lemma admitted?_eq_some_iff {t : Template} {host : Host} {i : Invocation} {response : Text} :
    t.admitted? host i = some response ↔
      (t.render host.filter (.ofInvocation i)).1 = some response ∧ response ≠ [] ∧
        Fetch.count response ≤ t.fetchCeiling := by
  simp [admitted?, Option.filter_eq_some_iff]

lemma deliver_eq (t : Template) (host : Host) (i : Invocation) (d : Destination) :
    t.deliver host i d =
      match t.admitted? host i with
      | none => .nothing
      | some response =>
        if t.fetchCeiling = 0 then d.send host response
        else ⟨[.schedule ⟨d, response, t.fetchCeiling⟩], .ok true⟩ := by
  rw [deliver, admitted?]
  cases (t.render host.filter (.ofInvocation i)).1 with
  | none => rfl
  | some response =>
    by_cases hrefused : (response.isEmpty || decide (t.fetchCeiling < Fetch.count response)) = true
    · simp only [hrefused, if_true, Option.filter_some, Bool.not_true, Bool.false_eq_true, if_false]
    · simp only [hrefused, Option.filter_some, Bool.not_false, if_true]
      rfl

lemma fetched_deliver (t : Template) (host : Host) (i : Invocation) (d : Destination) (web : Web) :
    (t.deliver host i d).fetched web host =
      match t.admitted? host i with
      | none => []
      | some response => (Fetch.resolve web response t.fetchCeiling).1.map Attempt.url := by
  rw [deliver_eq]
  cases t.admitted? host i with
  | none => rfl
  | some response =>
    by_cases hnone : t.fetchCeiling = 0
    · have hle := Fetch.length_resolve_le web response 0
      have hnil := List.length_eq_zero_iff.mp (Nat.le_zero.mp hle)
      simp only [hnone, if_true, hnil]
      cases d <;> rfl
    · simp [hnone, Outcome.fetched, PendingMessage.execute]

/-- Every placeholder that resolution reads in a response is one of the template's: its URL does not
run past the parenthesis at which detection closes it, and what detection sees there is a body of
the template. -/
structure FetchesOwn (t : Template) (response : Text) : Prop where
  closed : ∀ target ∈ Fetch.targets response, ')' ∉ target.url.tail
  own : ∀ target ∈ Fetch.targets response, ∀ body rest,
    Fetch.detect target.needle = some (body, rest) → body ∈ Fetch.bodies t.text

lemma fetchesOwn_iff {t : Template} {response : Text} :
    t.FetchesOwn response ↔
      ∀ target ∈ Fetch.targets response, target.url ∈ Fetch.bodies t.text := by
  constructor
  · intro h target htarget
    obtain ⟨hurl, hneedle⟩ := Fetch.of_mem_targets htarget
    have hread := Fetch.detect_placeholder (hurl.isBody (h.closed target htarget)) []
    rw [List.append_nil, ← hneedle] at hread
    exact h.own target htarget _ _ hread
  · intro h
    refine ⟨fun target htarget => (Fetch.isBody_of_mem_bodies (h target htarget)).open_, ?_⟩
    intro target htarget body rest hread
    obtain ⟨-, hneedle⟩ := Fetch.of_mem_targets htarget
    have hown := Fetch.detect_placeholder (Fetch.isBody_of_mem_bodies (h target htarget)) []
    rw [List.append_nil, ← hneedle, hread] at hown
    obtain ⟨rfl, -⟩ := Prod.mk.inj (Option.some.inj hown)
    exact h target htarget

lemma forall_fetched_deliver_iff (t : Template) (host : Host) (i : Invocation) (d : Destination) :
    (∀ web, ∀ url ∈ (t.deliver host i d).fetched web host, url ∈ Fetch.bodies t.text) ↔
      ∀ response, t.admitted? host i = some response → t.FetchesOwn response := by
  simp only [fetched_deliver, fetchesOwn_iff]
  cases hadmitted : t.admitted? host i with
  | none => simp
  | some response =>
    have hcount := (admitted?_eq_some_iff.mp hadmitted).2.2
    simpa using Fetch.forall_fetched_iff hcount (Fetch.bodies t.text)

/-- The fetch placeholders of a template are sealed off: nothing opens in them, no URL character
follows them, and none stands in a placeholder that is filled in. -/
structure Sealed (t : Template) : Prop where
  literal : ∀ body ∈ Fetch.bodies t.text, Fetch.IsLiteral body
  ended : ∀ s body rest, s <:+ t.text → Fetch.detect s = some (body, rest) → Fetch.Ends rest
  outside : ∀ s ∈ substitutions t.families t.text, ¬Fetch.opening <:+: s.slot.needle

lemma Positional.isNeedle {t : Text} {p : Positional} (h : p ∈ positionals t) :
    Fetch.IsNeedle p.print := by
  refine ⟨p.enclosed_print, fun hinfix => ?_⟩
  have hletter : 'u' ∈ p.print := hinfix.subset (by decide)
  have hdigit : 'u' ∈ p.digits := by simpa [Positional.print] using hletter
  exact absurd (isDigit_of_mem_positionals h _ hdigit) (by decide)

/-- Whatever the message, the values and the filters are, the response of a sealed template keeps
the fetch placeholders of the template. -/
theorem Sealed.keeps_bodies {t : Template} (h : t.Sealed) {host : Host} {i : Invocation}
    {response : Text} (hadmitted : t.admitted? host i = some response) :
    Fetch.Keeps (Fetch.bodies t.text) response := by
  obtain ⟨hrender, -, -⟩ := admitted?_eq_some_iff.mp hadmitted
  refine render_preserves (P := Fetch.Keeps (Fetch.bodies t.text)) ?_ ?_
    (Fetch.keeps_bodies h.ended) (Prod.ext hrender rfl)
  · intro s hs u value hu
    exact hu.replaceAll ⟨enclosed_of_mem_substitutions hs, h.outside s hs⟩ h.literal value
  · intro p hp u value hu
    exact hu.replaceAll (Positional.isNeedle hp) h.literal value

theorem Sealed.fetchesOwn {t : Template} (h : t.Sealed) {host : Host} {i : Invocation}
    {response : Text} (hadmitted : t.admitted? host i = some response) : t.FetchesOwn response := by
  obtain ⟨-, -, hcount⟩ := admitted?_eq_some_iff.mp hadmitted
  have hlength : (Fetch.bodies t.text).length = t.fetchCeiling := List.length_map _
  rw [← hlength] at hcount
  rw [fetchesOwn_iff]
  intro target htarget
  exact (h.keeps_bodies hadmitted).url_mem
    (fun body hbody => ⟨Fetch.isBody_of_mem_bodies hbody, h.literal body hbody⟩) hcount htarget

/-- What a response or a private response starts to fetch, on every web, is the template's own
exactly if the admitted response has the template's fetch placeholders alone. Where the template is
sealed that is so for every message, all values and all filters. -/
theorem fetches_own_iff (t : Template) :
    (∀ host i, ∀ leaf ∈ [Leaf.say t, Leaf.whisper t],
      ((∀ web, ∀ url ∈ (leaf.run host i).fetched web host, url ∈ Fetch.bodies t.text) ↔
        ∀ response, t.admitted? host i = some response → t.FetchesOwn response)) ∧
      (t.Sealed → ∀ host i, ∀ leaf ∈ [Leaf.say t, Leaf.whisper t],
        ∀ web, ∀ url ∈ (leaf.run host i).fetched web host, url ∈ Fetch.bodies t.text) := by
  have hiff : ∀ host i, ∀ leaf ∈ [Leaf.say t, Leaf.whisper t],
      ((∀ web, ∀ url ∈ (leaf.run host i).fetched web host, url ∈ Fetch.bodies t.text) ↔
        ∀ response, t.admitted? host i = some response → t.FetchesOwn response) := by
    intro host i leaf hleaf
    obtain rfl | rfl : leaf = .say t ∨ leaf = .whisper t := by simpa using hleaf
    · exact forall_fetched_deliver_iff t host i (.channel i.channel)
    · exact forall_fetched_deliver_iff t host i (.privately i.user)
  refine ⟨hiff, fun hsealed host i leaf hleaf => ?_⟩
  exact (hiff host i leaf hleaf).mpr fun response hadmitted => hsealed.fetchesOwn hadmitted

def openHost : Host := ⟨fun _ v => .ok (some v), fun _ _ => true⟩

/-- An invocation with a fetch placeholder for its first word. -/
def smuggling : Invocation where
  user := ⟨7, by decide, by decide⟩
  channel := ⟨99, by decide, by decide⟩
  message := some "$(urlfetch http://evil.example/) b".toList
  whisper := false
  trigger := "cmd".toList
  level := 100

def sealedTemplate : Template :=
  ⟨"$(urlfetch http://good.example/) $(message:text)".toList, Family.standard⟩

lemma sealed_sealedTemplate : sealedTemplate.Sealed := by
  refine ⟨by decide +kernel, fun s body rest hs hread => ?_, by decide +kernel⟩
  have hall : ∀ s ∈ sealedTemplate.text.tails,
      (Fetch.detect s).all (fun read => !read.2.head?.any Fetch.isUrlChar) = true := by
    decide +kernel
  simpa [hread, Fetch.Ends] using hall s ((List.mem_tails s _).mpr hs)

/-- An invocation with the end of a fetch placeholder for its message. -/
def extending : Invocation := { smuggling with message := some "http://evil.example/)".toList }

/-- A sealed template fetches, but not what the message brings in. -/
theorem sealedTemplate_fetches_own :
    sealedTemplate.Sealed ∧
      (Leaf.run openHost extending (.say sealedTemplate)).fetched Fetch.blankWeb openHost ≠ [] ∧
      ∀ url ∈ (Leaf.run openHost extending (.say sealedTemplate)).fetched Fetch.blankWeb openHost,
        url ∈ Fetch.bodies sealedTemplate.text :=
  ⟨sealed_sealedTemplate, by decide +kernel, (fetches_own_iff sealedTemplate).2
    sealed_sealedTemplate openHost extending _ List.mem_cons_self Fetch.blankWeb⟩

def branchTemplate : Template :=
  ⟨"$(if:$(2),'a','$(urlfetch x)') $(message:text)".toList, Family.standard⟩

/-- Where the other branch is taken, a fetch placeholder in the message has room. -/
theorem branchTemplate_fetches_foreign :
    (∀ body ∈ Fetch.bodies branchTemplate.text, Fetch.IsLiteral body) ∧
      ∃ url ∈ (Leaf.run openHost smuggling (.say branchTemplate)).fetched Fetch.blankWeb openHost,
        url ∉ Fetch.bodies branchTemplate.text := by
  decide +kernel

end Template

end CommandBot
