import CommandBot.Fetch.Web
import CommandBot.Proofs.FetchReading
import CommandBot.Proofs.Results

/-!
# The guard on fetches

A text is refused if detection counts more fetch placeholders in it than allowed. The guard is
sound, although resolution reads placeholders differently: it never reads more of them than
detection counts, so no text starts more fetches than its ceiling.
-/

namespace CommandBot.Fetch

section EraseDups

variable {α : Type} [BEq α]

/-- Induction along the removal of duplicates, which keeps an element and goes on without its equals. -/
theorem eraseDups_induction {P : List α → Prop} (nil : P [])
    (cons : ∀ a l, P (l.filter fun b => !b == a) → P (a :: l)) (l : List α) : P l := by
  induction hn : l.length using Nat.strong_induction_on generalizing l with
  | _ n ih =>
    subst hn
    cases l with
    | nil => exact nil
    | cons a l => exact cons a l (ih _ (Nat.lt_succ_of_le List.filter_sublist.length_le) _ rfl)

lemma eraseDups_sublist (l : List α) : l.eraseDups.Sublist l := by
  induction l using eraseDups_induction with
  | nil => simp
  | cons a l ih =>
    rw [List.eraseDups_cons]
    exact (ih.trans List.filter_sublist).cons_cons a

lemma nodup_eraseDups [LawfulBEq α] (l : List α) : l.eraseDups.Nodup := by
  induction l using eraseDups_induction with
  | nil => simp
  | cons a l ih =>
    rw [List.eraseDups_cons, List.nodup_cons, List.mem_eraseDups]
    exact ⟨by simp, ih⟩

lemma map_eraseDups {β : Type} [BEq β] [LawfulBEq α] [LawfulBEq β] {f : α → β} {l : List α}
    (hf : ∀ a ∈ l, ∀ b ∈ l, f a = f b → a = b) : l.eraseDups.map f = (l.map f).eraseDups := by
  induction l using eraseDups_induction with
  | nil => simp
  | cons a l ih =>
    have hmem : ∀ b ∈ l.filter (fun b => !b == a), b ∈ a :: l := fun b hb =>
      List.mem_cons_of_mem a (List.filter_sublist.subset hb)
    have hsame : (l.map f).filter (fun b => !b == f a) = (l.filter fun b => !b == a).map f := by
      rw [List.filter_map]
      congr 1
      refine List.filter_congr fun b hb => ?_
      have hab : f b = f a ↔ b = a :=
        ⟨hf b (List.mem_cons_of_mem a hb) a List.mem_cons_self, congrArg f⟩
      simp [hab]
    rw [List.eraseDups_cons, List.map_cons, List.map_cons, List.eraseDups_cons, hsame,
      ih fun b hb c hc => hf b (hmem b hb) c (hmem c hc)]

end EraseDups

lemma mem_targets {t : Text} {target : Target} :
    target ∈ targets t ↔ (target.needle, target.url) ∈ Text.occurrences resolvable t := by
  rw [targets, List.mem_eraseDups, List.mem_map]
  constructor
  · rintro ⟨⟨needle, url⟩, hmem, rfl⟩
    exact hmem
  · intro hmem
    exact ⟨_, hmem, rfl⟩

lemma of_mem_targets {t : Text} {target : Target} (h : target ∈ targets t) :
    IsUrl target.url ∧ target.needle = placeholder target.url := by
  obtain ⟨rest, -, hread⟩ :=
    Text.exists_suffix_of_mem_occurrences resolvable_consumes (mem_targets.mp h)
  obtain ⟨hurl, -, he⟩ := resolvable_eq_some_iff.mp hread
  exact ⟨hurl, List.append_cancel_right he⟩

lemma length_targets_le (t : Text) :
    (targets t).length ≤ (Text.occurrences resolvable t).length := by
  rw [targets]
  refine (eraseDups_sublist _).length_le.trans ?_
  rw [List.length_map]

/-- Resolution reads at most as many placeholders as detection counts. -/
theorem length_occurrences_resolvable_le_count (t : Text) :
    (Text.occurrences resolvable t).length ≤ count t :=
  Text.length_occurrences_le_of_refines resolvable_consumes detect_consumes detect_endsInOrder
    resolvable_refines_detect t

/-- Detection counts nothing exactly if it reads no placeholder anywhere in a text. -/
theorem count_eq_zero_iff {t : Text} : count t = 0 ↔ ∀ s, s <:+ t → detect s = none := by
  rw [count, List.length_eq_zero_iff]
  constructor
  · intro hnone s hs
    cases hread : detect s with
    | none => rfl
    | some found =>
      obtain ⟨body, rest⟩ := found
      have hone : Text.Selection detect t 1 := (Text.Selection.next [] hread (.zero rest)).of_suffix hs
      have hle := hone.le_length_occurrences detect_consumes detect_endsInOrder
      simp [hnone] at hle
  · intro hnone
    rw [List.eq_nil_iff_forall_not_mem]
    rintro ⟨needle, body⟩ hmem
    obtain ⟨rest, hs, hread⟩ := Text.exists_suffix_of_mem_occurrences detect_consumes hmem
    simp [hnone _ hs] at hread

lemma url_fetch (web : Web) (url : Text) : (fetch web url).1.url = url := rfl

lemma read_eq_ok_iff {response : WebResponse} {text : Text} :
    read response = .ok text ↔ isFailure response.status = false ∧ response.text? = some text := by
  obtain ⟨status, text?⟩ := response
  rw [read]
  cases isFailure status <;> cases text? <;> simp

/-- A fetch succeeds exactly if the client arrives at an answer that can be read and is no failure. -/
theorem fetch_eq_ok_iff {web : Web} {url body : Text} :
    (fetch web url).2 = .ok body ↔ ∃ visit response text, web url = some visit ∧
      visit.response? = some response ∧ isFailure response.status = false ∧
        response.text? = some text ∧ cleanBody text = body := by
  have helim : ∀ response? : Option WebResponse, ∀ text,
      response?.elim (.error .request) read = .ok text ↔
        ∃ response, response? = some response ∧ read response = .ok text := by
    intro response? text
    cases response? <;> simp
  simp only [fetch, map_eq_ok_iff, helim, Option.bind_eq_some_iff, read_eq_ok_iff]
  constructor
  · rintro ⟨text, ⟨response, ⟨visit, hvisit, hresponse⟩, hstatus, htext⟩, hbody⟩
    exact ⟨visit, response, text, hvisit, hresponse, hstatus, htext, hbody⟩
  · rintro ⟨visit, response, text, hvisit, hresponse, hstatus, htext, hbody⟩
    exact ⟨text, ⟨response, ⟨visit, hvisit, hresponse⟩, hstatus, htext⟩, hbody⟩

/-- Fetches are started in the order of the targets, and none is left out before the last one. -/
theorem attempts_resolveTargets_isPrefix (web : Web) (ts : List Target) (t : Text) :
    (resolveTargets web ts t).1 <+: ts.map fun target => (fetch web target.url).1 := by
  induction ts generalizing t with
  | nil => simp [resolveTargets]
  | cons target ts ih =>
    rw [resolveTargets]
    split <;> rename_i attempt _ hfetch <;> rw [List.map_cons, hfetch]
    · simp
    · simpa [List.cons_prefix_cons] using ih _

lemma urls_resolveTargets_isPrefix (web : Web) (ts : List Target) (t : Text) :
    (resolveTargets web ts t).1.map Attempt.url <+: ts.map Target.url := by
  simpa [Function.comp_def, url_fetch] using
    (attempts_resolveTargets_isPrefix web ts t).map Attempt.url

lemma length_resolveTargets_le (web : Web) (ts : List Target) (t : Text) :
    (resolveTargets web ts t).1.length ≤ ts.length := by
  simpa using (urls_resolveTargets_isPrefix web ts t).length_le

lemma resolve_of_count_le {web : Web} {t : Text} {ceiling : Nat} (h : count t ≤ ceiling) :
    resolve web t ceiling = resolveTargets web (targets t) t := by
  rw [resolve, if_neg (Nat.not_lt.mpr h)]

lemma eq_request_of_read {response : WebResponse} {e : FetchError}
    (h : read response = .error e) : e = .request := by
  obtain ⟨status, text?⟩ := response
  rw [read] at h
  split at h
  · exact (Except.error.inj h).symm
  · cases text? with
    | none => exact (Except.error.inj h).symm
    | some text => cases h

lemma eq_request_of_fetch {web : Web} {url : Text} {e : FetchError}
    (h : (fetch web url).2 = .error e) : e = .request := by
  rw [fetch] at h
  cases hresponse : (web url).bind Visit.response? with
  | none =>
    rw [hresponse] at h
    exact (Except.error.inj h).symm
  | some response =>
    rw [hresponse, Option.elim_some] at h
    cases hread : read response with
    | ok text => rw [hread] at h; cases h
    | error e' =>
      rw [hread] at h
      obtain rfl := Except.error.inj h
      exact eq_request_of_read hread

lemma eq_request_of_resolveTargets {web : Web} {ts : List Target} {t : Text} {e : FetchError}
    (h : (resolveTargets web ts t).2 = .error e) : e = .request := by
  fun_induction resolveTargets web ts t with
  | case1 t => cases h
  | case2 t target ts attempt e' hfetch =>
    obtain rfl := Except.error.inj h
    exact eq_request_of_fetch (by rw [hfetch])
  | case3 t target ts attempt body hfetch attempts result hrest ih =>
    rw [hrest] at ih
    exact ih h

/-- The guard refuses exactly the texts with more fetch placeholders than allowed. -/
theorem resolve_eq_hijack_iff {web : Web} {t : Text} {ceiling found bound : Nat} :
    (resolve web t ceiling).2 = .error (.hijack found bound) ↔
      ceiling < count t ∧ found = count t ∧ bound = ceiling := by
  by_cases h : ceiling < count t
  · rw [resolve, if_pos h]
    simp [h, eq_comm]
  · rw [resolve, if_neg h]
    refine iff_of_false (fun hhijack => ?_) (fun hcount => h hcount.1)
    cases eq_request_of_resolveTargets hhijack

lemma length_resolve_le (web : Web) (t : Text) (ceiling : Nat) :
    (resolve web t ceiling).1.length ≤ ceiling := by
  rw [resolve]
  split
  case isTrue => exact Nat.zero_le _
  case isFalse hguard =>
    calc (resolveTargets web (targets t) t).1.length
        ≤ (targets t).length := length_resolveTargets_le web _ t
      _ ≤ (Text.occurrences resolvable t).length := length_targets_le t
      _ ≤ count t := length_occurrences_resolvable_le_count t
      _ ≤ ceiling := Nat.le_of_not_lt hguard

/-- No text starts more fetches than its ceiling, whatever the web answers. Of the placeholders that
resolution reads, and so of the distinct ones to fetch, there are at most as many as detection
counts. -/
theorem fetches_le_ceiling (web : Web) (t : Text) (ceiling : Nat) :
    (resolve web t ceiling).1.length ≤ ceiling ∧
      (targets t).length ≤ (Text.occurrences resolvable t).length ∧
        (Text.occurrences resolvable t).length ≤ count t :=
  ⟨length_resolve_le web t ceiling, length_targets_le t, length_occurrences_resolvable_le_count t⟩

end CommandBot.Fetch
