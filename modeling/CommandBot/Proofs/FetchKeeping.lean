import CommandBot.Proofs.FetchGuard
import CommandBot.Proofs.Filling
import CommandBot.Proofs.Replacing

/-!
# Fetch placeholders that nothing reaches

Some fetch placeholders outlast the filling in of the text around them: those that no URL character
follows and no needle covers. A text that keeps as many of them as it may have at most, and in which
detection counts no more, has no others for resolution to read.
-/

namespace CommandBot.Fetch

/-- No URL character stands at the head of a text. -/
def Ends (t : Text) : Prop := t.head?.any isUrlChar = false

/-- Placeholders with some bodies stand in a text in this order, disjoint, with no URL character
right after any of them. -/
inductive Keeps : List Text → Text → Prop
  | nil (t : Text) : Keeps [] t
  | cons (before : Text) {body rest : Text} {bodies : List Text} :
      Ends rest → Keeps bodies rest → Keeps (body :: bodies) (before ++ (placeholder body ++ rest))

/-- A body with no opening of any placeholder in it. -/
def IsLiteral (body : Text) : Prop := ¬['$', '('] <:+: body

instance (body : Text) : Decidable (IsLiteral body) := inferInstanceAs (Decidable (¬_))

variable {body rest t u : Text} {bodies : List Text}

lemma Keeps.prepend (h : Keeps bodies t) (u : Text) : Keeps bodies (u ++ t) := by
  cases h with
  | nil => exact .nil _
  | cons before hends hrest =>
    rw [← List.append_assoc]
    exact .cons (u ++ before) hends hrest

/-- A text keeps its own placeholders if none of them is followed by a URL character. -/
theorem keeps_bodies (hends : ∀ s body rest, s <:+ t → detect s = some (body, rest) → Ends rest) :
    Keeps (Fetch.bodies t) t := by
  induction t using detect_consumes.scan_induction with
  | nil => exact .nil []
  | skip c r hnone ih =>
    rw [Fetch.bodies, Text.occurrences_cons_of_none hnone]
    exact (ih fun s body rest hs => hends s body rest (hs.trans (List.suffix_cons c r))).prepend [c]
  | hit read body rest hne hread ih =>
    have hrest := ih fun s body rest' hs => hends s body rest' (hs.trans (List.suffix_append read rest))
    have hread' := (detect_eq_some_iff.mp hread).2
    rw [Fetch.bodies, Text.occurrences_of_some hread rfl hne, List.map_cons, hread']
    exact .cons [] (hends _ body rest (List.suffix_refl _) hread) hrest

lemma singleton_suffix_placeholder (body : Text) : [')'] <:+ placeholder body :=
  List.suffix_append _ _

/-- What starts with a dollar sign and stands in a placeholder after its own dollar sign stands in
the body or at its end. -/
lemma infix_of_infix_tail_placeholder {v : Text} (h : '$' :: v <:+: (placeholder body).tail) :
    '$' :: v <:+: body ++ [')'] := by
  have hne : opening ≠ [] := by decide
  have hfirst : '$' ∉ opening.tail := by decide
  rw [placeholder, List.append_assoc, List.tail_append_of_ne_nil hne] at h
  exact Text.infix_of_infix_append hfirst h

/-- Nothing that a dollar sign and a parenthesis open starts inside a placeholder with a literal
body. -/
lemma not_opened_inside (hbody : IsLiteral body) (hu : u <:+ placeholder body) (hne : u ≠ [])
    (hproper : u ≠ placeholder body) (rest : Text) : ¬['$', '('] <+: u ++ rest := by
  intro hopened
  have hlast := Text.singleton_suffix_of_suffix (singleton_suffix_placeholder body) hu hne
  have hinside : ['$', '('] <+: u := by
    obtain ⟨c, u, rfl⟩ := List.exists_cons_of_ne_nil hne
    obtain ⟨rfl, hopened⟩ := List.cons_prefix_cons.mp hopened
    cases u with
    | nil => exact absurd hlast (by decide)
    | cons d u => simpa using hopened
  have htail := Text.suffix_tail_of_suffix hu hproper
  have hinfix : ['$', '('] <:+: body ++ [')'] :=
    infix_of_infix_tail_placeholder (hinside.isInfix.trans htail.isInfix)
  rcases List.infix_concat_iff.mp hinfix with hsuffix | hinfix
  · have hparen := Text.singleton_suffix_of_suffix (List.suffix_append body [')']) hsuffix
    exact absurd (hparen (List.cons_ne_nil _ _)) (by decide)
  · exact hbody hinfix

/-- A needle that has no opening of a fetch placeholder in it. -/
structure IsNeedle (needle : Text) : Prop where
  enclosed : Template.Enclosed needle
  plain : ¬opening <:+: needle

lemma opening_isPrefix_of_closed {s : Text} (hs : s <+: opening ++ rest) (hclose : [')'] <:+ s) :
    opening <+: s := by
  rcases List.prefix_or_prefix_of_prefix hs (List.prefix_append opening rest) with hinside | hpast
  · exact absurd (hinside.subset (hclose.subset (List.mem_singleton.mpr rfl))) (by decide)
  · exact hpast

namespace IsNeedle

variable {needle : Text}

lemma ne_nil (h : IsNeedle needle) : needle ≠ [] := h.enclosed.ne_nil

lemma opened (h : IsNeedle needle) : ['$', '('] <+: needle := by
  obtain ⟨inside, rfl⟩ := h.enclosed
  rw [List.append_assoc]
  exact List.prefix_append _ _

lemma closed (h : IsNeedle needle) : [')'] <:+ needle := by
  obtain ⟨inside, rfl⟩ := h.enclosed
  exact List.suffix_append _ _

/-- No needle reaches into the opening of a fetch placeholder. -/
lemma prefix_of_prefix_append (h : IsNeedle needle) (hstart : needle <+: u ++ (opening ++ rest)) :
    needle <+: u := by
  rcases List.prefix_or_prefix_of_prefix hstart (List.prefix_append u _) with hinside | ⟨s, rfl⟩
  · exact hinside
  · by_cases hne : s = []
    · simp [hne]
    · have hs : s <+: opening ++ rest := (List.prefix_append_right_inj u).mp hstart
      have hclose := Text.singleton_suffix_of_suffix h.closed (List.suffix_append u s) hne
      have hopening := (opening_isPrefix_of_closed hs hclose).isInfix
      exact absurd (hopening.trans (List.suffix_append u s).isInfix) h.plain

lemma not_prefix_append (h : IsNeedle needle) (hbody : IsLiteral body) (hu : u <:+ placeholder body)
    (hne : u ≠ []) (rest : Text) : ¬needle <+: u ++ rest := by
  intro hstart
  by_cases hproper : u = placeholder body
  · subst hproper
    rw [placeholder_append] at hstart
    exact h.ne_nil (List.prefix_nil.mp (h.prefix_of_prefix_append (u := []) hstart))
  · exact not_opened_inside hbody hu hne hproper rest (h.opened.trans hstart)

lemma replaceAll_around (h : IsNeedle needle) (hbody : IsLiteral body) (value before rest : Text) :
    Text.replaceAll (before ++ (placeholder body ++ rest)) needle value =
      Text.replaceAll before needle value ++
        (placeholder body ++ Text.replaceAll rest needle value) := by
  have hbefore : Text.Apart needle before (placeholder body ++ rest) := by
    intro u _ _ hstart
    rw [placeholder_append] at hstart
    exact h.prefix_of_prefix_append hstart
  have hinside : Text.Apart needle (placeholder body) rest := fun u hu hne hstart =>
    absurd hstart (h.not_prefix_append hbody hu hne rest)
  have hnone : ¬needle <:+: placeholder body := by
    rw [List.infix_iff_prefix_suffix]
    rintro ⟨u, hstart, hu⟩
    have hne : u ≠ [] := fun he => h.ne_nil (List.prefix_nil.mp (he ▸ hstart))
    exact h.not_prefix_append hbody hu hne [] (by simpa using hstart)
  rw [Text.replaceAll_append_of_apart h.ne_nil value hbefore,
    Text.replaceAll_append_of_apart h.ne_nil value hinside,
    Text.replaceAll_of_not_infix h.ne_nil value hnone]

lemma ends_replaceAll (h : IsNeedle needle) (value : Text) (hends : Ends rest) :
    Ends (rest.replaceAll needle value) := by
  cases rest with
  | nil => rfl
  | cons c r =>
    have hskip : ¬needle <+: c :: r := by
      intro hstart
      obtain ⟨rfl, -⟩ := List.cons_prefix_cons.mp (h.opened.trans hstart)
      exact absurd hends (by simp [Ends, isUrlChar])
    rw [Text.replaceAll_cons_of_not_isPrefix value hskip]
    exact hends

end IsNeedle

/-- A text keeps its fetch placeholders when a needle is replaced in it. -/
theorem Keeps.replaceAll {needle : Text} (h : Keeps bodies t) (hneedle : IsNeedle needle)
    (hliteral : ∀ body ∈ bodies, IsLiteral body) (value : Text) :
    Keeps bodies (t.replaceAll needle value) := by
  induction h with
  | nil => exact .nil _
  | @cons before body rest bodies hends _ ih =>
    rw [hneedle.replaceAll_around (hliteral body List.mem_cons_self)]
    exact .cons _ (hneedle.ends_replaceAll value hends)
      (ih fun b hb => hliteral b (List.mem_cons_of_mem body hb))

lemma Keeps.selection (h : Keeps bodies t) (hbody : ∀ body ∈ bodies, IsBody body) :
    Text.Selection detect t bodies.length := by
  induction h with
  | nil t => exact .zero t
  | @cons before body rest bodies _ _ ih =>
    exact .next before (detect_placeholder (hbody body List.mem_cons_self) rest)
      (ih fun b hb => hbody b (List.mem_cons_of_mem body hb))

lemma url_eq_of_resolvable {url after : Text} (hbody : IsBody body) (hends : Ends rest)
    (h : resolvable (placeholder body ++ rest) = some (url, after)) : url = body := by
  obtain ⟨hurl, -, he⟩ := resolvable_eq_some_iff.mp h
  rw [placeholder_append, placeholder_append, List.append_cancel_left_eq] at he
  rcases List.append_eq_append_iff.mp he with ⟨more, rfl, hrest⟩ | ⟨more, rfl, hafter⟩
  · -- The URL runs on, so its character after the parenthesis stands right after the placeholder.
    cases more with
    | nil => exact List.append_nil body
    | cons c more =>
      obtain ⟨-, rfl⟩ := List.cons.inj hrest
      cases more with
      | nil => exact absurd hends (by simp [Ends, isUrlChar])
      | cons d more => exact absurd hends (by simp [Ends, hurl.2 d (by simp)])
  · cases more with
    | nil => exact (List.append_nil url).symm
    | cons c more =>
      obtain ⟨rfl, -⟩ := List.cons.inj hafter
      obtain ⟨first, url, rfl⟩ := List.exists_cons_of_ne_nil hurl.1
      exact absurd (by simp) hbody.open_

/-- No fetch placeholder starts inside one with a URL. -/
lemma IsUrl.not_opening_isPrefix {url x : Text} (hurl : IsUrl url) (hx : x <:+ placeholder url)
    (hne : x ≠ []) (hproper : x ≠ placeholder url) (rest : Text) : ¬opening <+: x ++ rest := by
  rintro ⟨more, he⟩
  have hclose := Text.singleton_suffix_of_suffix (singleton_suffix_placeholder url) hx hne
  have hopening : opening <+: x := opening_isPrefix_of_closed ⟨rest, he.symm⟩ hclose
  have htail := Text.suffix_tail_of_suffix hx hproper
  have hinfix : opening <:+: url ++ [')'] :=
    infix_of_infix_tail_placeholder (hopening.isInfix.trans htail.isInfix)
  have hblank : ' ' ∈ url ++ [')'] := hinfix.subset (by decide)
  have hblank : ' ' ∈ url := by simpa using hblank
  exact absurd (hurl.2 _ hblank) (by decide)

/-- A placeholder that resolution reads before a fetch placeholder ends before it. -/
lemma exists_of_resolvable_before {url after : Text} (hne : u ≠ [])
    (h : resolvable (u ++ (opening ++ rest)) = some (url, after)) :
    ∃ between, u = placeholder url ++ between := by
  obtain ⟨hurl, -, he⟩ := resolvable_eq_some_iff.mp h
  rcases List.append_eq_append_iff.mp he with ⟨x, hplaceholder, hx⟩ | ⟨between, hbetween, -⟩
  · by_cases hempty : x = []
    · exact ⟨[], by simp [hplaceholder, hempty]⟩
    · have hsuffix : x <:+ placeholder url := ⟨u, hplaceholder.symm⟩
      have hproper : x ≠ placeholder url := fun hx => hne (by simpa [hx] using hplaceholder)
      exact absurd ⟨rest, hx⟩ (hurl.not_opening_isPrefix hsuffix hempty hproper after)
  · exact ⟨between, hbetween⟩

/-- What resolution reads in a text is a placeholder that is kept, or else detection counts one more
than are kept. -/
theorem Keeps.mem_or_selection (h : Keeps bodies t)
    (hbody : ∀ body ∈ bodies, IsBody body ∧ IsLiteral body) {s url after : Text} (hs : s <:+ t)
    (hread : resolvable s = some (url, after)) :
    url ∈ bodies ∨ Text.Selection detect t (bodies.length + 1) := by
  induction h with
  | nil t =>
    obtain ⟨before, rfl⟩ := hs
    obtain ⟨_, sooner, hdetect, -⟩ := resolvable_refines_detect hread
    exact .inr (.next before hdetect (.zero sooner))
  | @cons before body rest bodies hends hrest ih =>
    obtain ⟨⟨hthis, hliteral⟩, hbodies⟩ := List.forall_mem_cons.mp hbody
    have hdetect := detect_placeholder hthis rest
    rcases Text.suffix_append_cases hs with hs | ⟨u, hne, hu, rfl⟩
    · rcases Text.suffix_append_cases hs with hs | ⟨u, hne, hu, rfl⟩
      · rcases ih hbodies hs with hmem | hmore
        · exact .inl (List.mem_cons_of_mem body hmem)
        · exact .inr (.next before hdetect hmore)
      · by_cases hproper : u = placeholder body
        · subst hproper
          exact .inl (List.mem_cons.mpr (.inl (url_eq_of_resolvable hthis hends hread)))
        · obtain ⟨-, -, he⟩ := resolvable_eq_some_iff.mp hread
          have hopened : ['$', '('] <+: u ++ rest := by
            rw [he, placeholder_append]
            exact (show ['$', '('] <+: opening by decide).trans (List.prefix_append _ _)
          exact absurd hopened (not_opened_inside hliteral hu hne hproper rest)
    · -- This one ends before the placeholder that is kept, so all those kept come after it.
      have hread' := hread
      rw [placeholder_append] at hread'
      obtain ⟨between, rfl⟩ := exists_of_resolvable_before hne hread'
      obtain ⟨_, sooner, hsooner, hafter⟩ := resolvable_refines_detect hread
      obtain ⟨-, -, he⟩ := resolvable_eq_some_iff.mp hread
      rw [List.append_assoc, List.append_cancel_left_eq] at he
      have hlater : placeholder body ++ rest <:+ sooner :=
        (List.suffix_append between _).trans (he ▸ hafter)
      have hkept := hrest.selection fun b hb => (hbodies b hb).1
      have hselection : Text.Selection detect (placeholder body ++ rest) (bodies.length + 1) :=
        .next [] hdetect hkept
      obtain ⟨passed, hpassed⟩ := hu
      rw [← hpassed, List.append_assoc]
      exact .inr (.next passed hsooner (hselection.of_suffix hlater))

/-- A text in which detection counts no more placeholders than are kept has no other targets. -/
theorem Keeps.url_mem (h : Keeps bodies t) (hbody : ∀ body ∈ bodies, IsBody body ∧ IsLiteral body)
    (hcount : count t ≤ bodies.length) {target : Target} (htarget : target ∈ targets t) :
    target.url ∈ bodies := by
  obtain ⟨after, hs, hread⟩ :=
    Text.exists_suffix_of_mem_occurrences resolvable_consumes (mem_targets.mp htarget)
  rcases h.mem_or_selection hbody hs hread with hmem | hmore
  · exact hmem
  · have hlt := hmore.le_length_occurrences detect_consumes detect_endsInOrder
    exact absurd (hlt.trans hcount) (Nat.not_succ_le_self _)

end CommandBot.Fetch
