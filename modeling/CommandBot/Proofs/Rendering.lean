import CommandBot.Proofs.Resolving
import CommandBot.Proofs.SegmentTables

/-!
# Rendering segment by segment

The response of a template in segments is put together from its segments: literal text and
placeholders without a family stand as they are written, a positional placeholder gives way to its
word, and every other placeholder to the value that it has by itself. One without a value leaves no
response at all.
-/

namespace CommandBot.Template

/-- The value of a placeholder before its filters. Its family gets the key, or else the word that the
placeholder numbers; with both, the word stands in the context. -/
def Placeholder.resolve? (p : Placeholder) (family : Family) (ctx : Context) : Option Json :=
  match p.keyText?, p.number?.map (argumentValue ctx.invocation.message) with
  | some key, some word => family key { ctx with argument := some word }
  | some key, none => family key ctx
  | none, some word => family word ctx
  | none, none => none

/-- The filtered value of a placeholder. -/
def Placeholder.value? (apply : FilterCaller) (p : Placeholder) (family : Family) (ctx : Context) :
    Option Json :=
  (p.resolve? family ctx).bind (pipeline apply p.filters)

/-- A placeholder with both a key and a number, which leaves its word in the context. -/
def Placeholder.HasBoth (p : Placeholder) : Prop :=
  p.keyText?.isSome = true ∧ p.number?.isSome = true

instance (p : Placeholder) : Decidable p.HasBoth := inferInstanceAs (Decidable (_ ∧ _))

variable {families : Registry Family} {apply : FilterCaller} {ctx : Context}

lemma Placeholder.text?_variable (p : Placeholder) (family : Family) (ctx : Context) :
    (Substitution.variable (.ofPlaceholder p) family).text? apply ctx =
      (p.value? apply family ctx).map Json.text := by
  rw [Substitution.text?, value?, resolve?]
  simp only [Substitution.slot, Slot.ofPlaceholder, Slot.parameter]
  cases p.keyText? <;> cases p.number? <;> simp [Substitution.resolve]

lemma after_variable (slot : Slot) (family : Family) (ctx : Context) :
    (Substitution.variable slot family).after apply ctx = (slot.parameter ctx).2 := by
  rw [Substitution.after, Substitution.slot]
  cases slot.parameter ctx with
  | mk parameter after => cases parameter <;> simp [Substitution.resolve]

lemma text?_congr {s : Substitution} {ctx ctx' : Context}
    (h : s.slot.parameter ctx = s.slot.parameter ctx') : s.text? apply ctx = s.text? apply ctx' := by
  rw [Substitution.text?, Substitution.text?, h]

lemma Slot.exists_parameter_eq (slot : Slot) (ctx : Context) :
    ∃ argument, (slot.parameter ctx).2 = { ctx with argument := argument } := by
  rw [parameter]
  split <;> exact ⟨_, rfl⟩

lemma Slot.parameter_of_not_hasBoth {p : Placeholder} (h : ¬p.HasBoth) (ctx : Context) :
    ((ofPlaceholder p).parameter ctx).2 = ctx := by
  rw [Placeholder.HasBoth] at h
  simp only [parameter, ofPlaceholder]
  cases hkey : p.keyText? <;> cases hnumber : p.number? <;> simp_all

lemma Slot.parameter_of_hasBoth {p : Placeholder} (h : p.HasBoth) (ctx : Context)
    (argument : Option Text) :
    (ofPlaceholder p).parameter { ctx with argument := argument } =
      (ofPlaceholder p).parameter ctx := by
  obtain ⟨key, hkey⟩ := Option.isSome_iff_exists.mp h.1
  obtain ⟨number, hnumber⟩ := Option.isSome_iff_exists.mp h.2
  simp only [parameter, ofPlaceholder, hkey, hnumber]

/-- Placeholders of which none has both a key and a number, or all have, do not see each other. -/
lemma steady_of_hasBoth (ps : List Placeholder) {table : List Substitution}
    (htable : ∀ s ∈ table, ∃ p ∈ ps, ∃ family, s = .variable (.ofPlaceholder p) family)
    (hboth : (∀ p ∈ ps, p.HasBoth) ∨ ∀ p ∈ ps, ¬p.HasBoth) : Steady apply table ctx := by
  intro s hs s' hs'
  obtain ⟨p, hp, family, rfl⟩ := htable s hs
  obtain ⟨p', hp', family', rfl⟩ := htable s' hs'
  have hparameter : (Slot.ofPlaceholder p').parameter ((Slot.ofPlaceholder p).parameter ctx).2 =
      (Slot.ofPlaceholder p').parameter ctx := by
    rcases hboth with hall | hnone
    · obtain ⟨argument, he⟩ := (Slot.ofPlaceholder p).exists_parameter_eq ctx
      rw [he, Slot.parameter_of_hasBoth (hall p' hp')]
    · rw [Slot.parameter_of_not_hasBoth (hnone p hp)]
  simp only [after_variable]
  exact ⟨text?_congr hparameter, by rw [hparameter]⟩

namespace Segment

/-- Whether a segment has something to stand for it in a response: a placeholder with a family needs
a value. -/
def resolves (families : Registry Family) (apply : FilterCaller) (ctx : Context) : Segment → Bool
  | .named p => (p.family? families).all fun family => (p.value? apply family ctx).isSome
  | _ => true

/-- The text that is substituted for a segment: the word of a positional placeholder, or the value of
a named one with a family. -/
def substitute? (families : Registry Family) (apply : FilterCaller) (ctx : Context) :
    Segment → Option Text
  | .literal _ => none
  | .positional digits => some (argumentValue ctx.invocation.message (Numeral.ofDigits digits))
  | .named p => (p.family? families).bind fun family => (p.value? apply family ctx).map Json.text

/-- What stands for a segment in a response: its substitute, or else the segment as it is written. -/
def text (families : Registry Family) (apply : FilterCaller) (ctx : Context) (s : Segment) : Text :=
  (s.substitute? families apply ctx).getD s.print

/-- What stands for a segment once the named placeholders are filled in. -/
def filled (families : Registry Family) (apply : FilterCaller) (ctx : Context) (s : Segment) : Text :=
  if s.digits?.isSome then s.print else s.text families apply ctx

variable {s : Segment} {entry : Substitution}

lemma exists_of_substitution? (h : s.substitution? families = some entry) :
    ∃ p family, s = .named p ∧ p.family? families = some family ∧
      entry = .variable (.ofPlaceholder p) family := by
  obtain ⟨p, hp, hentry⟩ := Option.bind_eq_some_iff.mp h
  obtain ⟨family, hfamily, rfl⟩ := Option.map_eq_some_iff.mp hentry
  exact ⟨p, family, placeholder?_eq_some_iff.mp hp, hfamily, rfl⟩

lemma text?_of_substitution? (h : s.substitution? families = some entry) :
    entry.text? apply ctx = s.substitute? families apply ctx := by
  obtain ⟨p, family, rfl, hfamily, rfl⟩ := exists_of_substitution? h
  rw [Placeholder.text?_variable, substitute?, hfamily, Option.bind_some]

lemma needle_of_substitution? (h : s.substitution? families = some entry) :
    entry.slot.needle = s.print := by
  obtain ⟨p, family, rfl, -, rfl⟩ := exists_of_substitution? h
  rfl

lemma not_isLiteral_of_substitution? (h : s.substitution? families = some entry) :
    ¬s.IsLiteral := by
  obtain ⟨p, family, rfl, -, -⟩ := exists_of_substitution? h
  simp [IsLiteral]

lemma resolves_eq (s : Segment) : s.resolves families apply ctx =
    (s.substitution? families).all fun entry => (entry.text? apply ctx).isSome := by
  cases s with
  | literal t => rfl
  | positional digits => rfl
  | named p =>
    rw [resolves, substitution?, placeholder?, Option.bind_some]
    cases p.family? families with
    | none => rfl
    | some family => simp [Placeholder.text?_variable]

lemma filled_of_substitution? (h : s.substitution? families = none) :
    s.filled families apply ctx = s.print := by
  cases s with
  | literal t => rfl
  | positional digits => rfl
  | named p =>
    have hfamily : p.family? families = none := Option.map_eq_none_iff.mp h
    simp [filled, text, substitute?, hfamily]

lemma filled_of_not_positional (h : ∀ digits, s ≠ .positional digits) :
    s.filled families apply ctx = s.text families apply ctx := by
  cases s with
  | literal t => rfl
  | named p => rfl
  | positional digits => exact absurd rfl (h digits)

end Segment

variable {segments : List Segment}

/-- Working off a table of placeholders in a text of segments, some of which have given way to text
without a dollar sign already. -/
lemma replaceInTurn_map (place : Segment → Prop) (value : Segment → Text) {f g : Segment → Text}
    {table : List (Text × Text)} (h : ∀ s ∈ segments, s.WellFormed)
    (hshown : ∀ s ∈ segments, f s = s.print ∨ '$' ∉ f s)
    (hplace : ∀ s, place s → s.WellFormed ∧ ¬s.IsLiteral)
    (htable : ∀ r, r ∈ table ↔ ∃ s, place s ∧ r = (s.print, value s))
    (hvalues : table.Pairwise fun r r' => (∃ s ∈ segments, f s = r.1) → Text.Avoids r'.1 r.2)
    (hhit : ∀ s ∈ segments, place s → f s = s.print ∧ g s = value s)
    (hmiss : ∀ s ∈ segments, ¬place s → g s = f s) :
    Text.replaceInTurn table (segments.map f).flatten = (segments.map g).flatten := by
  have hne : ∀ r ∈ table, r.1 ≠ [] := by
    intro r hr
    obtain ⟨s, hs, rfl⟩ := (htable r).mp hr
    obtain ⟨v, hv, -⟩ := Segment.exists_print_eq (hplace s hs).1 (hplace s hs).2
    simp [hv]
  -- A needle meets what stands for a segment only where that is still the placeholder itself.
  have hmeets : ∀ r ∈ table, ∀ s ∈ segments,
      (place s ∧ r = (s.print, value s) ∧ f s = r.1) ∨ Text.Avoids r.1 (f s) := by
    intro r hr s hs
    obtain ⟨t, ht, rfl⟩ := (htable r).mp hr
    obtain ⟨hformed, hliteral⟩ := hplace t ht
    obtain ⟨v, hv, -⟩ := Segment.exists_print_eq hformed hliteral
    rcases hshown s hs with hprint | hplain
    · rcases Segment.print_eq_or_avoids hformed hliteral (h s hs) with he | havoids
      · obtain rfl := Segment.eq_of_print_eq hformed hliteral (h s hs) he
        exact .inl ⟨ht, rfl, hprint⟩
      · exact .inr (hprint ▸ havoids)
    · exact .inr (by rw [hv]; exact .of_not_mem hplain)
  rw [Text.replaceInTurn_flatten hne, List.map_map]
  · congr 1
    refine List.map_congr_left fun s hs => ?_
    rw [Function.comp_apply]
    by_cases hin : place s
    · obtain ⟨hf, hg⟩ := hhit s hs hin
      rw [hf, hg]
      refine Text.replacement_of_mem ((htable _).mpr ⟨s, hin, rfl⟩) fun r hr he => ?_
      rcases hmeets r hr s hs with ⟨-, rfl, -⟩ | havoids
      · rfl
      · exact absurd (hf.trans he.symm) (havoids.ne_needle (hne r hr))
    · rw [hmiss s hs hin]
      refine Text.replacement_of_avoids fun r hr => ⟨hne r hr, ?_⟩
      exact (hmeets r hr s hs).resolve_left fun hmet => hin hmet.1
  · intro r hr x hx
    obtain ⟨s, hs, rfl⟩ := List.mem_map.mp hx
    exact (hmeets r hr s hs).imp_left fun hmet => hmet.2.2
  · exact hvalues.imp fun hrr' hmem => hrr' (List.mem_map.mp hmem)

/-- No value of a named placeholder brings a dollar sign in. -/
def PlainValues (families : Registry Family) (apply : FilterCaller) (ctx : Context)
    (segments : List Segment) : Prop :=
  ∀ p, .named p ∈ segments → ∀ t ∈ (Segment.named p).substitute? families apply ctx, '$' ∉ t

/-- The named placeholders of a text in segments give way to their values, all at once. -/
lemma replaceInTurn_printAll {table : List Substitution} (h : ∀ s ∈ segments, s.WellFormed)
    (htable : ∀ entry, entry ∈ table ↔ ∃ s ∈ segments, s.substitution? families = some entry)
    (hresolves : ∀ s ∈ segments, s.resolves families apply ctx = true)
    (hvalues : PlainValues families apply ctx segments) :
    Text.replaceInTurn (replacements apply ctx table) (printAll segments) =
      (segments.map (Segment.filled families apply ctx)).flatten := by
  have htext : ∀ s ∈ segments, ∀ entry, s.substitution? families = some entry →
      s.substitute? families apply ctx = some (s.text families apply ctx) := by
    intro s hs entry hsub
    have hsome := hresolves s hs
    rw [Segment.resolves_eq, hsub, Option.all_some, Segment.text?_of_substitution? hsub] at hsome
    obtain ⟨t, ht⟩ := Option.isSome_iff_exists.mp hsome
    rw [Segment.text, ht]
    rfl
  have hentries : ∀ r, r ∈ replacements apply ctx table ↔
      ∃ s, (s ∈ segments ∧ ∃ entry, s.substitution? families = some entry) ∧
        r = (s.print, s.text families apply ctx) := by
    have hreplacement : ∀ s ∈ segments, ∀ entry, s.substitution? families = some entry →
        (entry.slot.needle, (entry.text? apply ctx).getD []) =
          (s.print, s.text families apply ctx) := by
      intro s hs entry hsub
      rw [Segment.text?_of_substitution? hsub, htext s hs entry hsub,
        Segment.needle_of_substitution? hsub]
      rfl
    intro r
    rw [replacements, List.mem_map]
    constructor
    · rintro ⟨entry, hentry, rfl⟩
      obtain ⟨s, hs, hsub⟩ := (htable entry).mp hentry
      exact ⟨s, ⟨hs, entry, hsub⟩, hreplacement s hs entry hsub⟩
    · rintro ⟨s, ⟨hs, entry, hsub⟩, rfl⟩
      exact ⟨entry, (htable entry).mpr ⟨s, hs, hsub⟩, hreplacement s hs entry hsub⟩
  refine replaceInTurn_map (fun s => s ∈ segments ∧ ∃ entry, s.substitution? families = some entry)
    (Segment.text families apply ctx) h (fun s _ => .inl rfl) ?_ hentries ?_ ?_ ?_
  · rintro s ⟨hs, entry, hsub⟩
    exact ⟨h s hs, Segment.not_isLiteral_of_substitution? hsub⟩
  · refine List.pairwise_of_forall_mem_list fun r hr r' hr' _ => ?_
    obtain ⟨s, ⟨hs, entry, hsub⟩, rfl⟩ := (hentries r).mp hr
    obtain ⟨s', ⟨hs', entry', hsub'⟩, rfl⟩ := (hentries r').mp hr'
    obtain ⟨v, hv, -⟩ :=
      Segment.exists_print_eq (h s' hs') (Segment.not_isLiteral_of_substitution? hsub')
    obtain ⟨p, -, rfl, -, -⟩ := Segment.exists_of_substitution? hsub
    simp only [hv]
    exact .of_not_mem (hvalues p hs _ (htext _ hs entry hsub))
  · rintro s hs ⟨-, entry, hsub⟩
    obtain ⟨p, -, rfl, -, -⟩ := Segment.exists_of_substitution? hsub
    exact ⟨rfl, rfl⟩
  · intro s hs hin
    refine Segment.filled_of_substitution? (Option.eq_none_iff_forall_ne_some.mpr ?_)
    exact fun entry hsub => hin ⟨hs, entry, hsub⟩

/-- Filling in the named placeholders of a template in segments. -/
theorem fillTable_printAll (h : ∀ s ∈ segments, s.WellFormed)
    (hboth : (∀ p, .named p ∈ segments → p.HasBoth) ∨ ∀ p, .named p ∈ segments → ¬p.HasBoth)
    (hvalues : PlainValues families apply ctx segments) (depth : Nat) :
    (fillTable apply (substitutionsFrom families (depth + 1) (printAll segments))
        (printAll segments) ctx).1 =
      if segments.all (Segment.resolves families apply ctx) then
        some (segments.map (Segment.filled families apply ctx)).flatten
      else none := by
  have htable := mem_substitutionsFrom_printAll families h depth
  have hsteady : Steady apply (substitutionsFrom families (depth + 1) (printAll segments)) ctx := by
    refine steady_of_hasBoth (segments.filterMap Segment.placeholder?) (fun entry hentry => ?_)
      (by simpa only [mem_filterMap_placeholder?] using hboth)
    obtain ⟨s, hs, hsub⟩ := (htable entry).mp hentry
    obtain ⟨p, family, rfl, -, rfl⟩ := Segment.exists_of_substitution? hsub
    exact ⟨p, mem_filterMap_placeholder?.mpr hs, family, rfl⟩
  have hall : (substitutionsFrom families (depth + 1) (printAll segments)).all
      (fun s => (s.text? apply ctx).isSome) = segments.all (Segment.resolves families apply ctx) := by
    rw [Bool.eq_iff_iff, List.all_eq_true, List.all_eq_true]
    constructor
    · intro hentries s hs
      rw [Segment.resolves_eq, Option.all_eq_true]
      exact fun entry hsub => hentries entry ((htable entry).mpr ⟨s, hs, hsub⟩)
    · intro hresolves entry hentry
      obtain ⟨s, hs, hsub⟩ := (htable entry).mp hentry
      have hsome := hresolves s hs
      rwa [Segment.resolves_eq, hsub, Option.all_some] at hsome
  rw [hsteady.fillTable_fst, hall]
  split
  · rename_i hresolves
    rw [replaceInTurn_printAll h htable (List.all_eq_true.mp hresolves) hvalues]
  · rfl

/-- The positional placeholders of a table with their words. -/
def wordReplacements (message : Option Text) (table : List Positional) : List (Text × Text) :=
  table.map fun p => (p.print, argumentValue message p.number)

lemma fillPositionals_eq (message : Option Text) (table : List Positional) (t : Text) :
    fillPositionals message table t = Text.replaceInTurn (wordReplacements message table) t := by
  rw [fillPositionals, Text.replaceInTurn, wordReplacements, List.foldl_map]

lemma filled_eq_print_or_plain (hvalues : PlainValues families apply ctx segments) {s : Segment}
    (hs : s ∈ segments) :
    s.filled families apply ctx = s.print ∨ '$' ∉ s.filled families apply ctx := by
  cases s with
  | literal t => exact .inl rfl
  | positional digits => exact .inl rfl
  | named p =>
    have hfilled : (Segment.named p).filled families apply ctx =
      ((Segment.named p).substitute? families apply ctx).getD p.print := rfl
    cases hsub : (Segment.named p).substitute? families apply ctx with
    | none => exact .inl (by rw [hfilled, hsub]; rfl)
    | some t => exact .inr (by rw [hfilled, hsub]; exact hvalues p hs t hsub)

/-- The positional placeholders that are left give way to their words, all at once, as long as no
word brings a later one in. The table may be the one of a larger text. -/
theorem fillPositionals_filled {t : Text} {digits : List Text} (h : ∀ s ∈ segments, s.WellFormed)
    (hvalues : PlainValues families apply ctx segments)
    (hscan : positionals t = digits.map Positional.ofDigits) (hspelling : OneSpelling digits)
    (hdigits : ∀ d ∈ digits, (Segment.positional d).WellFormed)
    (hcover : ∀ d, .positional d ∈ segments → d ∈ digits)
    (hwords : (positionalTable t).Pairwise fun p q => .positional p.digits ∈ segments →
      Text.Avoids q.print (argumentValue ctx.invocation.message p.number)) :
    fillPositionals ctx.invocation.message (positionalTable t)
        (segments.map (Segment.filled families apply ctx)).flatten =
      (segments.map (Segment.text families apply ctx)).flatten := by
  have htable := mem_positionalTable_iff hscan hspelling
  have hentries : ∀ r, r ∈ wordReplacements ctx.invocation.message (positionalTable t) ↔
      ∃ s : Segment, (∃ d ∈ digits, s = .positional d) ∧
        r = (s.print, s.text families apply ctx) := by
    intro r
    rw [wordReplacements, List.mem_map]
    constructor
    · rintro ⟨p, hp, rfl⟩
      obtain ⟨d, hd, rfl⟩ := (htable p).mp hp
      exact ⟨_, ⟨d, hd, rfl⟩, rfl⟩
    · rintro ⟨_, ⟨d, hd, rfl⟩, rfl⟩
      exact ⟨_, (htable _).mpr ⟨d, hd, rfl⟩, rfl⟩
  rw [fillPositionals_eq]
  refine replaceInTurn_map (fun s => ∃ d ∈ digits, s = .positional d)
    (Segment.text families apply ctx) h (fun s hs => filled_eq_print_or_plain hvalues hs) ?_ hentries
    ?_ ?_ ?_
  · rintro _ ⟨d, hd, rfl⟩
    exact ⟨hdigits d hd, not_false⟩
  · rw [wordReplacements, List.pairwise_map]
    refine hwords.imp_of_mem fun {p q} hp _ havoids ⟨s, hs, he⟩ => havoids ?_
    obtain ⟨d, hd, rfl⟩ := (htable p).mp hp
    -- What stands in the text as this placeholder is written is this placeholder.
    rcases filled_eq_print_or_plain hvalues hs with hprint | hplain
    · have hprint : s.print = (Segment.positional d).print := hprint.symm.trans he
      obtain rfl := Segment.eq_of_print_eq (hdigits d hd) not_false (h s hs) hprint
      exact hs
    · exact absurd (he ▸ List.mem_cons_self) hplain
  · rintro _ hs ⟨d, hd, rfl⟩
    exact ⟨rfl, rfl⟩
  · intro s hs hin
    refine (Segment.filled_of_not_positional fun d he => hin ?_).symm
    subst he
    exact ⟨d, hcover d hs, rfl⟩

/-- Words without a dollar sign bring nothing in. -/
lemma fillPositionals_filled_of_not_mem {t : Text} {digits : List Text}
    (h : ∀ s ∈ segments, s.WellFormed) (hvalues : PlainValues families apply ctx segments)
    (hscan : positionals t = digits.map Positional.ofDigits) (hspelling : OneSpelling digits)
    (hdigits : ∀ d ∈ digits, (Segment.positional d).WellFormed)
    (hcover : ∀ d, .positional d ∈ segments → d ∈ digits)
    (hwords : ∀ d, .positional d ∈ segments →
      '$' ∉ argumentValue ctx.invocation.message (Numeral.ofDigits d)) :
    fillPositionals ctx.invocation.message (positionalTable t)
        (segments.map (Segment.filled families apply ctx)).flatten =
      (segments.map (Segment.text families apply ctx)).flatten := by
  refine fillPositionals_filled h hvalues hscan hspelling hdigits hcover ?_
  refine List.pairwise_of_forall_mem_list fun p hp q _ hmem => ?_
  obtain ⟨d, -, rfl⟩ := (mem_positionalTable_iff hscan hspelling p).mp hp
  exact .of_not_mem (hwords d hmem)

end CommandBot.Template
