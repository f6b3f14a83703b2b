import CommandBot.Fetch.Pattern
import CommandBot.Proofs.Scanning
import CommandBot.Proofs.Spans

/-!
# What the two readings of fetch placeholders accept

Detection and resolution read the same written form, but differ in where it ends: detection stops
at the first closing parenthesis it can, resolution at the last one in a run of URL characters. This
file states exactly what each of them reads. Every placeholder that resolution reads is detected,
and detection never ends later.
-/

namespace CommandBot

namespace Fetch

def placeholder (body : Text) : Text := opening ++ body ++ [')']

/-- What may stand in a placeholder for detection: at least one character, no line break, and no
closing parenthesis after the first character. -/
structure IsBody (body : Text) : Prop where
  ne_nil : body ≠ []
  oneLine : '\n' ∉ body
  open_ : ')' ∉ body.tail

/-- What may stand in a placeholder for resolution: URL characters, at least one. -/
def IsUrl (url : Text) : Prop := url ≠ [] ∧ ∀ c ∈ url, isUrlChar c = true

/-- A closing parenthesis can be reached from the head of a text through URL characters alone. -/
def RunsOn (t : Text) : Prop := ')' ∈ t.takeWhile isUrlChar

lemma placeholder_ne_nil (body : Text) : placeholder body ≠ [] := by
  simp [placeholder]

lemma placeholder_append (body rest : Text) :
    placeholder body ++ rest = opening ++ (body ++ ')' :: rest) := by
  simp [placeholder]

lemma length_opening : opening.length = 11 := by decide

lemma detect_placeholder {body : Text} (hb : IsBody body) (rest : Text) :
    detect (placeholder body ++ rest) = some (body, rest) := by
  obtain ⟨first, r, rfl⟩ := List.exists_cons_of_ne_nil hb.ne_nil
  obtain ⟨hfirst, hline⟩ := not_or.mp (mt List.mem_cons.mpr hb.oneLine)
  have hinside : ∀ d ∈ r, (d != ')' && d != '\n') = true := by
    intro d hd
    have hparen : d ≠ ')' := fun he => hb.open_ (he ▸ hd)
    have hbreak : d ≠ '\n' := fun he => hline (he ▸ hd)
    simp [hparen, hbreak]
  have hclose : (')' != ')' && ')' != '\n') = false := by decide
  rw [placeholder_append, detect, Text.after?_eq_some_iff.mpr rfl]
  simp only [List.cons_append, beq_iff_eq, Ne.symm hfirst, if_false,
    Text.dropWhile_append_cons (p := fun c => c != ')' && c != '\n') hinside hclose,
    Text.takeWhile_append_cons (p := fun c => c != ')' && c != '\n') hinside hclose]

lemma of_detect_eq_some {t body rest : Text} (h : detect t = some (body, rest)) :
    IsBody body ∧ t = placeholder body ++ rest := by
  rw [detect] at h
  cases hafter : t.after? opening with
  | none => simp [hafter] at h
  | some r =>
    rw [hafter] at h
    cases r with
    | nil => simp at h
    | cons first r =>
      by_cases hfirst : first = '\n'
      · simp [hfirst] at h
      · simp only [beq_iff_eq, hfirst, if_false] at h
        split at h
        · rename_i rest' hdrop
          obtain ⟨rfl, rfl⟩ := Prod.mk.inj (Option.some.inj h)
          have hinside : ∀ c ∈ r.takeWhile (fun c => c != ')' && c != '\n'), c ≠ ')' ∧ c ≠ '\n' := by
            intro c hc
            simpa using Text.of_mem_takeWhile hc
          refine ⟨⟨List.cons_ne_nil _ _, ?_, fun hc => (hinside _ hc).1 rfl⟩, ?_⟩
          · exact mt List.mem_cons.mp (not_or.mpr ⟨Ne.symm hfirst, fun hc => (hinside _ hc).2 rfl⟩)
          · rw [placeholder_append, Text.after?_eq_some_iff.mp hafter, List.cons_append,
              ← Text.eq_takeWhile_append_of_dropWhile hdrop]
        · simp at h

/-- Detection reads a placeholder around any body, whatever follows. -/
theorem detect_eq_some_iff {t body rest : Text} :
    detect t = some (body, rest) ↔ IsBody body ∧ t = placeholder body ++ rest := by
  constructor
  · exact of_detect_eq_some
  · rintro ⟨hb, rfl⟩
    exact detect_placeholder hb rest

theorem detect_consumes : Text.Matcher.Consumes detect := by
  intro t body rest h
  obtain ⟨-, he⟩ := detect_eq_some_iff.mp h
  exact ⟨placeholder body, placeholder_ne_nil body, he⟩

/-- A detected placeholder that starts later does not end sooner. -/
theorem detect_endsInOrder : Text.Matcher.EndsInOrder detect := by
  intro s t body body' rest later hs ht hlater
  obtain ⟨hb, rfl⟩ := detect_eq_some_iff.mp ht
  obtain ⟨hb', rfl⟩ := detect_eq_some_iff.mp hlater
  obtain ⟨first, r, rfl⟩ := List.exists_cons_of_ne_nil hb.ne_nil
  obtain ⟨first', r', rfl⟩ := List.exists_cons_of_ne_nil hb'.ne_nil
  have hlen := hs.length_le
  simp only [placeholder_append, List.cons_append] at hs hlen
  -- Both closing parentheses stand behind the first body character of the earlier placeholder.
  have hearlier : r ++ ')' :: rest <:+ opening ++ first :: (r ++ ')' :: rest) :=
    List.suffix_append_of_suffix (List.suffix_cons _ _)
  have hlater : r' ++ ')' :: later <:+ opening ++ first :: (r ++ ')' :: rest) :=
    (List.suffix_append_of_suffix (List.suffix_cons _ _)).trans hs
  have hbehind : r' ++ ')' :: later <:+ r ++ ')' :: rest := by
    apply List.suffix_of_suffix_length_le hlater hearlier
    simpa [length_opening] using hlen
  exact Text.suffix_of_cons_suffix hb.open_ ((List.suffix_append r' _).trans hbehind)

/-- The bodies of the fetch placeholders in a text, as detection sees them. -/
def bodies (t : Text) : List Text := (Text.occurrences detect t).map (·.2)

lemma isBody_of_mem_bodies {t body : Text} (h : body ∈ bodies t) : IsBody body := by
  obtain ⟨⟨needle, _⟩, hmem, rfl⟩ := List.mem_map.mp h
  obtain ⟨rest, -, hread⟩ := Text.exists_suffix_of_mem_occurrences detect_consumes hmem
  exact (detect_eq_some_iff.mp hread).1

lemma upToLastParenthesis?_append {url tail : Text} (hurl : url ≠ []) (htail : ')' ∉ tail) :
    upToLastParenthesis? (url ++ ')' :: tail) = some url := by
  have hpass : ∀ d ∈ tail.reverse, (d != ')') = true := by
    intro d hd
    simpa using fun he : d = ')' => htail (he ▸ List.mem_reverse.mp hd)
  have hreverse : (url ++ ')' :: tail).reverse = tail.reverse ++ ')' :: url.reverse := by
    simp
  rw [upToLastParenthesis?, hreverse,
    Text.dropWhile_append_cons (p := fun c => c != ')') hpass (by decide)]
  simp [Text.nonEmpty?, hurl]

lemma of_upToLastParenthesis?_eq_some {run url : Text} (h : upToLastParenthesis? run = some url) :
    url ≠ [] ∧ ∃ tail, ')' ∉ tail ∧ run = url ++ ')' :: tail := by
  rw [upToLastParenthesis?] at h
  cases hdrop : run.reverse.dropWhile (· != ')') with
  | nil => simp [hdrop] at h
  | cons c r =>
    have hc : c = ')' := by simpa using Text.not_of_dropWhile_eq_cons hdrop
    subst hc
    have hsplit := congrArg List.reverse (Text.eq_takeWhile_append_of_dropWhile hdrop)
    rw [hdrop] at h
    simp only [Text.nonEmpty?] at h
    split at h
    · simp at h
    · rename_i hne
      obtain rfl := Option.some.inj h
      refine ⟨by simpa using hne, (run.reverse.takeWhile (· != ')')).reverse, fun hm => ?_, ?_⟩
      · simpa using Text.of_mem_takeWhile (List.mem_reverse.mp hm)
      · simpa using hsplit

lemma IsUrl.takeWhile_append {url : Text} (h : IsUrl url) (rest : Text) :
    (url ++ ')' :: rest).takeWhile isUrlChar = url ++ ')' :: rest.takeWhile isUrlChar := by
  rw [List.takeWhile_append_of_pos h.2, List.takeWhile_cons_of_pos (by decide)]

lemma resolvable_placeholder {url rest : Text} (hurl : IsUrl url) (hrest : ¬RunsOn rest) :
    resolvable (placeholder url ++ rest) = some (url, rest) := by
  rw [placeholder_append, resolvable, Text.after?_eq_some_iff.mpr rfl]
  simp [hurl.takeWhile_append, upToLastParenthesis?_append hurl.1 hrest]

lemma of_resolvable_eq_some {t url rest : Text} (h : resolvable t = some (url, rest)) :
    IsUrl url ∧ ¬RunsOn rest ∧ t = placeholder url ++ rest := by
  rw [resolvable] at h
  cases hafter : t.after? opening with
  | none => simp [hafter] at h
  | some r =>
    rw [hafter] at h
    obtain ⟨url', hread, hpair⟩ := Option.map_eq_some_iff.mp h
    obtain ⟨rfl, rfl⟩ := Prod.mk.inj hpair
    obtain ⟨hne, tail, htail, hrun⟩ := of_upToLastParenthesis?_eq_some hread
    have hchars : ∀ c ∈ url' ++ ')' :: tail, isUrlChar c = true := by
      intro c hc
      exact Text.of_mem_takeWhile (hrun ▸ hc)
    have hr : r = url' ++ ')' :: (tail ++ r.dropWhile isUrlChar) := by
      conv_lhs => rw [← List.takeWhile_append_dropWhile (p := isUrlChar) (l := r), hrun]
      simp
    have hdrop : r.drop (url'.length + 1) = tail ++ r.dropWhile isUrlChar := by
      conv_lhs => rw [hr]
      simp
    refine ⟨⟨hne, fun c hc => hchars c (by simp [hc])⟩, ?_, ?_⟩
    · rw [RunsOn, hdrop, Text.takeWhile_append_dropWhile_of_pos fun c hc => hchars c (by simp [hc])]
      exact htail
    · rw [placeholder_append, hdrop, ← hr]
      exact Text.after?_eq_some_iff.mp hafter

/-- Resolution reads a placeholder around a URL that does not run on to a later parenthesis. -/
theorem resolvable_eq_some_iff {t url rest : Text} :
    resolvable t = some (url, rest) ↔
      IsUrl url ∧ ¬RunsOn rest ∧ t = placeholder url ++ rest := by
  constructor
  · exact of_resolvable_eq_some
  · rintro ⟨hurl, hrest, rfl⟩
    exact resolvable_placeholder hurl hrest

/-- Where a placeholder with a URL starts resolution reads one, perhaps a longer one. -/
lemma exists_resolvable_placeholder {url : Text} (hurl : IsUrl url) (rest : Text) :
    ∃ read after, resolvable (placeholder url ++ rest) = some (read, after) := by
  obtain ⟨tail, more, hlast, htail⟩ : ∃ tail more,
      ')' :: rest.takeWhile isUrlChar = more ++ ')' :: tail ∧ ')' ∉ tail := by
    have hclosed : ')' ∈ (')' :: rest.takeWhile isUrlChar).reverse := by simp
    obtain ⟨tail, more, hsplit, htail⟩ := List.eq_append_cons_of_mem hclosed
    refine ⟨tail.reverse, more.reverse, ?_, by simpa using htail⟩
    simpa using congrArg List.reverse hsplit
  have hread : upToLastParenthesis? (url ++ ')' :: rest.takeWhile isUrlChar) = some (url ++ more) := by
    rw [hlast, ← List.append_assoc]
    exact upToLastParenthesis?_append (by simp [hurl.1]) htail
  rw [placeholder_append, resolvable, Text.after?_eq_some_iff.mpr rfl]
  simp only [hurl.takeWhile_append, hread, Option.map_some]
  exact ⟨_, _, rfl⟩

theorem resolvable_consumes : Text.Matcher.Consumes resolvable := by
  intro t url rest h
  obtain ⟨-, -, he⟩ := resolvable_eq_some_iff.mp h
  exact ⟨placeholder url, placeholder_ne_nil url, he⟩

lemma IsUrl.oneLine {url : Text} (h : IsUrl url) : '\n' ∉ url := by
  intro hm
  exact absurd (h.2 _ hm) (by decide)

lemma IsUrl.isBody {url : Text} (h : IsUrl url) (hopen : ')' ∉ url.tail) : IsBody url :=
  ⟨h.1, h.oneLine, hopen⟩

/-- Of a URL that is no body, detection sees the part up to its first closing parenthesis. -/
lemma IsUrl.exists_isBody {url : Text} (h : IsUrl url) (hclosed : ')' ∈ url.tail) :
    ∃ body more, IsBody body ∧ url = body ++ ')' :: more := by
  obtain ⟨first, u, rfl⟩ := List.exists_cons_of_ne_nil h.1
  obtain ⟨before, more, rfl, hbefore⟩ := List.eq_append_cons_of_mem hclosed
  have hline : '\n' ∉ first :: before := fun hm => h.oneLine (by
    rw [← List.cons_append]
    exact List.mem_append_left _ hm)
  exact ⟨first :: before, more, ⟨List.cons_ne_nil _ _, hline, hbefore⟩, rfl⟩

/-- Every placeholder that resolution reads is detected, and detection ends no later. -/
theorem resolvable_refines_detect : Text.Matcher.Refines resolvable detect := by
  intro t url rest h
  obtain ⟨hurl, -, rfl⟩ := resolvable_eq_some_iff.mp h
  by_cases hclosed : ')' ∈ url.tail
  · obtain ⟨body, more, hbody, rfl⟩ := hurl.exists_isBody hclosed
    refine ⟨body, more ++ ')' :: rest, ?_, ?_⟩
    · have hshift : placeholder (body ++ ')' :: more) ++ rest =
          placeholder body ++ (more ++ ')' :: rest) := by
        simp [placeholder]
      rw [hshift]
      exact detect_placeholder hbody _
    · exact List.suffix_append_of_suffix (List.suffix_cons _ _)
  · exact ⟨url, rest, detect_placeholder (hurl.isBody hclosed) rest, List.suffix_refl _⟩

end Fetch

end CommandBot
