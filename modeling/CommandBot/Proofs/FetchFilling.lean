import CommandBot.Proofs.FetchKeeping
import CommandBot.Proofs.Staging
import CommandBot.Proofs.Trimming
import Mathlib.Data.List.Nodup

/-!
# Putting fetched bodies in place

Resolution replaces its targets one after the other, each everywhere in the text that the ones before
it left. A body that is in place already is searched again, and a placeholder may start another one.
So the outcome is that of replacing all placeholders at once if every placeholder is met in its own
places alone when its turn comes. That may depend on the bodies, and for two targets or more there
are bodies with which it fails.
-/

namespace CommandBot

namespace Fetch

variable {web : Web} {t : Text} {done : List Text} {ps : List (Text.Piece Text)}

/-- The body that a URL yields; no text where the fetch fails. -/
def bodyAt (web : Web) (url : Text) : Text := (fetch web url).2.toOption.getD []

/-- Every fetch that a text asks for succeeds. -/
def Answers (web : Web) (t : Text) : Prop :=
  ∀ target ∈ targets t, ∃ body, (fetch web target.url).2 = .ok body

/-- The text with each of its fetch placeholders replaced by its own body, all at once. -/
def fillAtOnce (web : Web) (t : Text) : Text :=
  (Text.pieces resolvable t).flatMap fun
    | .plain c => [c]
    | .found _ url => bodyAt web url

/-- The needles of some targets with the bodies that they get. -/
def table (web : Web) (ts : List Target) : List (Text × Text) :=
  ts.map fun target => (target.needle, bodyAt web target.url)

/-- After fetches that all succeed, resolution goes on with the text that their bodies leave. -/
theorem resolveTargets_append {before : List Target}
    (h : ∀ target ∈ before, ∃ body, (fetch web target.url).2 = .ok body) (later : List Target)
    (t : Text) :
    resolveTargets web (before ++ later) t =
      let after := resolveTargets web later (Text.replaceInTurn (table web before) t)
      (before.map (fun target => (fetch web target.url).1) ++ after.1, after.2) := by
  induction before generalizing t with
  | nil => rfl
  | cons target before ih =>
    obtain ⟨⟨body, hbody⟩, hrest⟩ := List.forall_mem_cons.mp h
    have hfetch : fetch web target.url = ((fetch web target.url).1, .ok body) := Prod.ext rfl hbody
    have hat : bodyAt web target.url = body := by rw [bodyAt, hbody]; rfl
    rw [List.cons_append, resolveTargets, hfetch]
    simp only [ih hrest, List.map_cons, table, hat, Text.replaceInTurn, List.foldl_cons,
      List.cons_append]

/-- If all its fetches succeed, resolution works off the table of its targets. -/
theorem resolveTargets_eq {ts : List Target}
    (h : ∀ target ∈ ts, ∃ body, (fetch web target.url).2 = .ok body) (t : Text) :
    resolveTargets web ts t =
      (ts.map fun target => (fetch web target.url).1, .ok (Text.replaceInTurn (table web ts) t)) := by
  have hall := resolveTargets_append h [] t
  rw [List.append_nil] at hall
  simpa [resolveTargets] using hall

/-- What stands for a piece once the bodies of some URLs are in place. -/
def stage (web : Web) (done : List Text) : Text.Piece Text → Text
  | .plain c => [c]
  | .found needle url => if done.contains url then bodyAt web url else needle

lemma stage_eq (web : Web) : stage web = Text.stage (bodyAt web) := by
  funext done p
  cases p with
  | plain c => rfl
  | found needle url => simp [stage, Text.stage]

/-- Where the placeholder of a URL starts in a partly filled text, it is one of the text's own
pieces. -/
def StartsAtOwn (web : Web) (done : List Text) (url : Text) (ps : List (Text.Piece Text)) : Prop :=
  ∀ before p after, ps = before ++ p :: after → ∀ u, u <:+ stage web done p → u ≠ [] →
    placeholder url <+: u ++ after.flatMap (stage web done) → p = .found (placeholder url) url

/-- Every placeholder is met in its own places alone when its turn comes. -/
def Undisturbed (web : Web) (t : Text) : Prop :=
  ∀ done url, done ++ [url] <+: (targets t).map Target.url →
    StartsAtOwn web done url (Text.pieces resolvable t)

lemma startsAtOwn_iff {url : Text} :
    StartsAtOwn web done url ps ↔ Text.StartsAtOwn placeholder (bodyAt web) done url ps := by
  rw [StartsAtOwn, Text.StartsAtOwn, stage_eq]

lemma needle_of_found_mem {needle url : Text} (h : .found needle url ∈ Text.pieces resolvable t) :
    needle = placeholder url ∧ IsUrl url ∧ url ∈ (targets t).map Target.url := by
  have hmem : ⟨needle, url⟩ ∈ targets t := mem_targets.mpr (Text.found_mem_pieces_iff.mp h)
  obtain ⟨hurl, hneedle⟩ := of_mem_targets hmem
  exact ⟨hneedle, hurl, List.mem_map_of_mem hmem⟩

lemma flatMap_stage_targets (web : Web) (t : Text) :
    (Text.pieces resolvable t).flatMap (Text.stage (bodyAt web) ((targets t).map Target.url)) =
      fillAtOnce web t := by
  refine List.flatMap_congr fun p hp => ?_
  cases p with
  | plain c => rfl
  | found needle url =>
    obtain ⟨-, -, hmem⟩ := needle_of_found_mem hp
    exact Text.stage_found_of_mem hmem (bodyAt web) needle

lemma eq_of_url_eq {target other : Target} (h : target ∈ targets t) (h' : other ∈ targets t)
    (hurl : target.url = other.url) : target = other := by
  obtain ⟨needle, url⟩ := target
  obtain ⟨needle', url'⟩ := other
  obtain rfl : url = url' := hurl
  obtain rfl : needle = placeholder url := (of_mem_targets h).2
  obtain rfl : needle' = placeholder url := (of_mem_targets h').2
  rfl

lemma nodup_urls (t : Text) : ((targets t).map Target.url).Nodup :=
  List.Nodup.map_on (fun _ h _ h' => eq_of_url_eq h h') (nodup_eraseDups _)

lemma table_targets (web : Web) (t : Text) : table web (targets t) =
    ((targets t).map Target.url).map fun url => (placeholder url, bodyAt web url) := by
  rw [table, List.map_map]
  exact List.map_congr_left fun target htarget => by rw [(of_mem_targets htarget).2]; rfl

theorem replaceInTurn_of_undisturbed (h : Undisturbed web t) :
    Text.replaceInTurn (table web (targets t)) t = fillAtOnce web t := by
  rw [table_targets, ← flatMap_stage_targets]
  exact Text.replaceInTurn_pieces resolvable_consumes (fun url _ => placeholder_ne_nil url)
    (fun needle v hmem => (needle_of_found_mem hmem).1) (nodup_urls t)
    fun more url hmore => startsAtOwn_iff.mp (h more url hmore)

lemma dollar_isPrefix_placeholder (url : Text) : ['$', '('] <+: placeholder url :=
  ⟨"urlfetch ".toList ++ url ++ [')'], rfl⟩

lemma IsUrl.not_placeholder_isPrefix {url v u : Text} (hv : IsUrl v) (hu : u <:+ placeholder v)
    (hne : u ≠ []) (hproper : u ≠ placeholder v) (rest : Text) : ¬placeholder url <+: u ++ rest := by
  intro hstart
  have hopening : opening <+: placeholder url := ⟨url ++ [')'], (List.append_assoc _ _ _).symm⟩
  exact hv.not_opening_isPrefix hu hne hproper rest (hopening.trans hstart)

/-- A text with a single target is filled in one step. -/
theorem undisturbed_of_length_le_one (h : (targets t).length ≤ 1) (web : Web) :
    Undisturbed web t := by
  intro done url hdone before p after hps u hu hne hstart
  obtain ⟨rfl, honly⟩ : done = [] ∧ ∀ v ∈ (targets t).map Target.url, v = url := by
    rcases hurls : (targets t).map Target.url with _ | ⟨only, _ | ⟨second, more⟩⟩
    · simp [hurls] at hdone
    · rw [hurls] at hdone
      cases done with
      | nil => exact ⟨rfl, by simpa [eq_comm] using hdone⟩
      | cons d done => simp at hdone
    · have hlen := congrArg List.length hurls
      simp only [List.length_map, List.length_cons] at hlen
      omega
  have hstage : stage web [] = Text.Piece.text :=
    (congrFun (stage_eq web) []).trans (funext (Text.stage_nil (bodyAt web)))
  rw [hstage] at hu hstart
  cases p with
  | plain c =>
    -- Resolution would have read a placeholder here.
    obtain ⟨target, htarget, rfl⟩ := List.mem_map.mp (hdone.subset List.mem_cons_self)
    obtain rfl : u = [c] := hu.eq_of_length_le (List.length_pos_iff.mpr hne)
    obtain ⟨rest, he⟩ := hstart
    obtain ⟨read, later, hread⟩ := exists_resolvable_placeholder (of_mem_targets htarget).1 rest
    obtain ⟨-, -, hsplit⟩ := resolvable_eq_some_iff.mp hread
    have hpieces := Text.pieces_of_pieces_eq_append resolvable_consumes hps
    rw [List.flatMap_cons, Text.Piece.text, ← he,
      Text.pieces_of_some hread hsplit (placeholder_ne_nil read)] at hpieces
    simp at hpieces
  | found needle v =>
    have hmem : .found needle v ∈ Text.pieces resolvable t := by rw [hps]; simp
    obtain ⟨rfl, hv, hvmem⟩ := needle_of_found_mem hmem
    by_cases hproper : u = placeholder v
    · rw [honly v hvmem]
    · exact absurd hstart (hv.not_placeholder_isPrefix hu hne hproper _)

/-- The placeholders of a text keep clear of each other, of the rest of the text and of the bodies. A
dollar sign outside them is followed by no parenthesis and no placeholder, no body has or may begin a
placeholder, and none of them begins another. -/
structure Separate (web : Web) (t : Text) : Prop where
  outside : ∀ p, [.plain '$', p] <:+: Text.pieces resolvable t → ∃ c, c ≠ '(' ∧ p = .plain c
  bodies : ∀ target ∈ targets t,
    IsLiteral (bodyAt web target.url) ∧ ¬['$'] <:+ bodyAt web target.url
  needles : ∀ target ∈ targets t, ∀ other ∈ targets t, target.needle <+: other.needle → target = other

lemma IsLiteral.not_opened {body u : Text} (h : IsLiteral body) (hend : ¬['$'] <:+ body)
    (hu : u <:+ body) (hne : u ≠ []) (rest : Text) : ¬['$', '('] <+: u ++ rest := by
  intro hopened
  obtain ⟨c, u, rfl⟩ := List.exists_cons_of_ne_nil hne
  obtain ⟨rfl, hnext⟩ := List.cons_prefix_cons.mp hopened
  cases u with
  | nil => exact hend hu
  | cons d u =>
    obtain ⟨rfl, -⟩ := List.cons_prefix_cons.mp hnext
    exact h ((List.prefix_append ['$', '('] u).isInfix.trans hu.isInfix)

theorem Separate.undisturbed (h : Separate web t) : Undisturbed web t := by
  intro done url hdone before p after hps u hu hne hstart
  have hopened := (dollar_isPrefix_placeholder url).trans hstart
  cases p with
  | plain c =>
    obtain rfl : u = [c] := hu.eq_of_length_le (List.length_pos_iff.mpr hne)
    obtain ⟨rfl, hnext⟩ := List.cons_prefix_cons.mp hopened
    cases after with
    | nil => simp at hnext
    | cons q after =>
      obtain ⟨d, hd, rfl⟩ := h.outside q ⟨before, after, by simpa using hps.symm⟩
      exact absurd (List.cons_prefix_cons.mp hnext).1.symm hd
  | found needle v =>
    have hmem : .found needle v ∈ Text.pieces resolvable t := by rw [hps]; simp
    obtain ⟨rfl, hv, hvmem⟩ := needle_of_found_mem hmem
    obtain ⟨other, hother, rfl⟩ := List.mem_map.mp hvmem
    by_cases hdoneOther : other.url ∈ done
    · rw [stage_eq, Text.stage_found_of_mem hdoneOther] at hu
      obtain ⟨hliteral, hend⟩ := h.bodies other hother
      exact absurd hopened (hliteral.not_opened hend hu hne _)
    · rw [stage_eq, Text.stage_found_of_not_mem hdoneOther] at hu
      by_cases hproper : u = placeholder other.url
      · -- Both placeholders start here, so one begins the other.
        subst hproper
        have hurlmem : url ∈ (targets t).map Target.url := hdone.subset (by simp)
        obtain ⟨target, htarget, rfl⟩ := List.mem_map.mp hurlmem
        rw [← (of_mem_targets htarget).2, ← (of_mem_targets hother).2] at hstart
        obtain rfl : target = other := by
          rcases List.prefix_or_prefix_of_prefix hstart (List.prefix_append _ _) with hle | hle
          · exact h.needles target htarget other hother hle
          · exact (h.needles other hother target htarget hle).symm
        rfl
      · exact absurd hstart (hv.not_placeholder_isPrefix hu hne hproper _)

lemma IsUrl.of_mem_placeholder {url : Text} (h : IsUrl url) {c : Char} (hc : c ∈ placeholder url) :
    isUrlChar c = true ∨ c = ' ' := by
  simp only [placeholder, List.mem_append, List.mem_singleton] at hc
  rcases hc with (hc | hc) | rfl
  · have hall : opening.all (fun d => isUrlChar d || d == ' ') = true := by decide
    simpa using List.all_eq_true.mp hall c hc
  · exact .inl (h.2 c hc)
  · exact .inl (by decide)

lemma cleanBody_placeholder {url : Text} (h : IsUrl url)
    (hlen : (placeholder url).length ≤ maxBodyLength) :
    cleanBody (placeholder url) = placeholder url := by
  have hstart : Text.trimStart (placeholder url) = placeholder url := rfl
  have hend : Text.trimEnd (placeholder url) = placeholder url :=
    Text.trimEnd_append_singleton (by decide) (opening ++ url)
  have hline : (placeholder url).filter (fun c => c != '\n' && c != '\r') = placeholder url := by
    refine List.filter_eq_self.mpr fun c hc => ?_
    have hn : c ≠ '\n' := fun he => absurd (h.of_mem_placeholder (he ▸ hc)) (by decide)
    have hr : c ≠ '\r' := fun he => absurd (h.of_mem_placeholder (he ▸ hc)) (by decide)
    simp [hn, hr]
  rw [cleanBody, Text.trim, hstart, hend, hline, List.take_of_length_le hlen]

/-- A web in which every URL has a page. -/
def serving (pages : Text → Text) : Web := fun url => some ⟨[], some ⟨200, some (pages url)⟩⟩

lemma fetch_serving (pages : Text → Text) (url : Text) :
    (fetch (serving pages) url).2 = .ok (cleanBody (pages url)) := rfl

lemma answers_serving (pages : Text → Text) (t : Text) : Answers (serving pages) t :=
  fun target _ => ⟨_, fetch_serving pages target.url⟩

/-- Pages of which one is a placeholder, and every other one a character that no placeholder has. -/
def smuggled (first url : Text) : Text → Text := fun requested =>
  if requested = first then placeholder url else ['<']

lemma bodyAt_smuggled_first {first url : Text} (hurl : IsUrl url)
    (hlen : (placeholder url).length ≤ maxBodyLength) :
    bodyAt (serving (smuggled first url)) first = placeholder url := by
  rw [bodyAt, fetch_serving, smuggled, if_pos rfl, cleanBody_placeholder hurl hlen]
  rfl

lemma bodyAt_smuggled_of_ne {first other : Text} (hne : other ≠ first) (url : Text) :
    bodyAt (serving (smuggled first url)) other = ['<'] := by
  rw [bodyAt, fetch_serving, smuggled, if_neg hne]
  rfl

lemma exists_first_last (h : 2 ≤ (targets t).length) :
    ∃ first middle last, targets t = first :: middle ++ [last] ∧ last.url ≠ first.url := by
  have hnodup := nodup_urls t
  rcases hts : targets t with _ | ⟨first, rest⟩
  · simp [hts] at h
  · have hrest : rest ≠ [] := by
      rintro rfl
      simp [hts] at h
    have hsplit : rest = rest.dropLast ++ [rest.getLast hrest] :=
      (List.dropLast_append_getLast hrest).symm
    refine ⟨first, rest.dropLast, rest.getLast hrest, by rw [List.cons_append, ← hsplit], ?_⟩
    intro he
    rw [hts, List.map_cons, List.nodup_cons] at hnodup
    exact hnodup.1 (he ▸ List.mem_map_of_mem (List.getLast_mem hrest))

/-- A text with two targets or more is not filled in at once if the first one yields the last one's
placeholder. -/
theorem exists_disturbing_web (h : 2 ≤ (targets t).length)
    (hshort : ∀ target ∈ targets t, target.needle.length ≤ maxBodyLength) :
    ∃ web, Answers web t ∧ Text.replaceInTurn (table web (targets t)) t ≠ fillAtOnce web t := by
  obtain ⟨first, middle, last, hts, hurls⟩ := exists_first_last h
  have hfirst : first ∈ targets t := by simp [hts]
  have hlast : last ∈ targets t := by simp [hts]
  obtain ⟨hurl, hneedle⟩ := of_mem_targets hlast
  have hlen := hshort last hlast
  rw [hneedle] at hlen
  refine ⟨serving (smuggled first.url last.url), answers_serving _ t, ?_⟩
  -- In turn, no placeholder of the last target is left; at once, the first one brings it in.
  have hgone : ¬placeholder last.url <:+:
      Text.replaceInTurn (table (serving (smuggled first.url last.url)) (targets t)) t := by
    rw [hts, table, List.map_append, List.map_singleton, bodyAt_smuggled_of_ne hurls, hneedle,
      Text.replaceInTurn, List.foldl_append]
    refine Text.not_infix_replaceAll (placeholder_ne_nil last.url) (fun hc => ?_) _
    exact absurd (hurl.of_mem_placeholder hc) (by decide)
  have hbrought : placeholder last.url <:+: fillAtOnce (serving (smuggled first.url last.url)) t := by
    have hfound : .found first.needle first.url ∈ Text.pieces resolvable t :=
      Text.found_mem_pieces_iff.mpr (mem_targets.mp hfirst)
    rw [fillAtOnce, List.flatMap_def]
    exact List.infix_of_mem_flatten
      (List.mem_map.mpr ⟨_, hfound, bodyAt_smuggled_first hurl hlen⟩)
  intro hsame
  exact hgone (hsame ▸ hbrought)

/-! ### The outcome of resolution -/

/-- If all fetches of a text succeed, every target is fetched once, in order, and there is an
outcome. It is the text filled in at once if every placeholder is met in its own places alone when its
turn comes, as with placeholders that keep clear of each other. That is so on every web if and only if
there is at most one target, as far as bodies can hold a placeholder. -/
theorem resolve_fills_at_once {ceiling : Nat} (h : count t ≤ ceiling) :
    (∀ web, Answers web t →
      (resolve web t ceiling).1.map Attempt.url = (targets t).map Target.url ∧
      (∃ filled, (resolve web t ceiling).2 = .ok filled) ∧
      (Undisturbed web t → (resolve web t ceiling).2 = .ok (fillAtOnce web t)) ∧
      (Separate web t → Undisturbed web t)) ∧
    ((targets t).length ≤ 1 → ∀ web, Undisturbed web t) ∧
    ((∀ target ∈ targets t, target.needle.length ≤ maxBodyLength) →
      ((∀ web, Answers web t → (resolve web t ceiling).2 = .ok (fillAtOnce web t)) ↔
        (targets t).length ≤ 1)) := by
  have hresolve : ∀ web, Answers web t → resolve web t ceiling =
      ((targets t).map fun target => (fetch web target.url).1,
        .ok (Text.replaceInTurn (table web (targets t)) t)) := by
    intro web hanswers
    rw [resolve_of_count_le h, resolveTargets_eq hanswers]
  have hfill : ∀ web, Answers web t → Undisturbed web t →
      (resolve web t ceiling).2 = .ok (fillAtOnce web t) := by
    intro web hanswers hundisturbed
    rw [hresolve web hanswers, replaceInTurn_of_undisturbed hundisturbed]
  refine ⟨fun web hanswers => ⟨?_, ?_, hfill web hanswers, Separate.undisturbed⟩,
    undisturbed_of_length_le_one, fun hshort => ⟨fun hall => ?_, fun hone web hanswers => ?_⟩⟩
  · rw [hresolve web hanswers, List.map_map]
    rfl
  · rw [hresolve web hanswers]
    exact ⟨_, rfl⟩
  · by_contra hmany
    obtain ⟨web, hanswers, hdiffers⟩ := exists_disturbing_web (by omega) hshort
    have hsame := hall web hanswers
    rw [hresolve web hanswers] at hsame
    exact hdiffers (Except.ok.inj hsame)
  · exact hfill web hanswers (undisturbed_of_length_le_one hone web)

def forecast : Text := "$(urlfetch http://a.example/x) $(urlfetch http://b.example/y)".toList

def weather : Text → Text := fun url =>
  if url = "http://a.example/x".toList then "sunny\n".toList else "cold".toList

lemma separate_weather : Separate (serving weather) forecast := by
  refine ⟨fun p hp => ?_, by decide +kernel, by decide +kernel⟩
  exact absurd (hp.subset List.mem_cons_self) (by decide +kernel)

/-- Two placeholders next to each other get one body each. -/
theorem forecast_filled :
    count forecast ≤ 2 ∧ Answers (serving weather) forecast ∧ Separate (serving weather) forecast ∧
      (resolve (serving weather) forecast 2).2 = .ok "sunny cold".toList := by
  have hcount : count forecast ≤ 2 := by decide +kernel
  have hanswers : Answers (serving weather) forecast := answers_serving _ _
  obtain ⟨-, -, hfilled, hseparate⟩ := (resolve_fills_at_once hcount).1 (serving weather) hanswers
  rw [hfilled (hseparate separate_weather)]
  exact ⟨hcount, hanswers, separate_weather, by decide +kernel⟩

/-- Pages of which one is the placeholder of another. -/
def misleading : Text → Text := fun url =>
  if url = "http://a.example/x".toList then "$(urlfetch http://b.example/y)".toList
  else "sunny".toList

/-- A body that is a placeholder of the text gives way to a body in its turn. -/
theorem forecast_overwritten :
    count forecast ≤ 2 ∧ Answers (serving misleading) forecast ∧
      fillAtOnce (serving misleading) forecast = "$(urlfetch http://b.example/y) sunny".toList ∧
      (resolve (serving misleading) forecast 2).2 = .ok "sunny sunny".toList :=
  ⟨by decide +kernel, answers_serving _ _, by decide +kernel, by decide +kernel⟩

end Fetch

end CommandBot
