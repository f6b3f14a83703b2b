import CommandBot.Proofs.Responses

/-!
# Conditionals render as the branch that they choose

A conditional fills its branch in with the branch's own table, but leaves the branch's positional
placeholders to the table of the text around it, which has those of the test and of both branches.
Since every number is written in one way, both tables put the same words in, and the response is the
one of the chosen branch by itself.
-/

namespace CommandBot.Template

/-- What a conditional tests: a word of the message, or a variable. -/
inductive Test where
  | word (digits : Text)
  | named (path key : Text)
  deriving Repr, DecidableEq

/-- The placeholder that is tested. -/
def Test.segment : Test → Segment
  | .word digits => .positional digits
  | .named path key => .named ⟨path, none, some (.literal key), [], []⟩

/-- The inside of the placeholder that is tested. -/
def Test.body : Test → Text
  | .word digits => digits
  | .named path key => path ++ ':' :: key

/-- Whether a test holds: there is such a word, or there is such a variable and it counts as true. -/
def Test.holds (families : Registry Family) (ctx : Context) : Test → Bool
  | .word digits => !(argumentValue ctx.invocation.message (Numeral.ofDigits digits)).isEmpty
  | .named path key =>
    ((families.get? path).bind fun family => family key ctx).any Json.truthy

/-- A variable that is tested is of a registered family. -/
def Test.IsRegistered (families : Registry Family) : Test → Prop
  | .word _ => True
  | .named path _ => path ≠ conditionalPath ∧ (families.get? path).isSome = true

instance (families : Registry Family) : (t : Test) → Decidable (t.IsRegistered families)
  | .word _ => inferInstanceAs (Decidable True)
  | .named _ _ => inferInstanceAs (Decidable (_ ∧ _))

/-- A branch in segments, between its quotes. -/
structure Alternative where
  opening : Char
  segments : List Segment
  closing : Char
  deriving Repr, DecidableEq

def Alternative.branch (a : Alternative) : Branch := ⟨a.opening, printAll a.segments, a.closing⟩

/-- A branch with its quotes and the comma before it, in segments. -/
def Alternative.quoted (a : Alternative) : List Segment :=
  .literal [',', a.opening] :: a.segments ++ [.literal [a.closing]]

/-- A conditional with its branches in segments; the second may be missing. -/
structure Choice where
  test : Test
  whenTrue : Alternative
  whenFalse : Option Alternative
  deriving Repr, DecidableEq

namespace Choice

def alternatives (c : Choice) : List Alternative := c.whenTrue :: c.whenFalse.toList

/-- The placeholder of a conditional. -/
def placeholder (c : Choice) : Placeholder :=
  ⟨conditionalPath, none, some (.nested c.test.body), [], c.alternatives.map Alternative.branch⟩

/-- A conditional behind its path, in segments. -/
def segments (c : Choice) : List Segment :=
  c.test.segment :: c.alternatives.flatMap Alternative.quoted ++ [.literal [')']]

/-- A conditional that can be written, with branches in well-formed segments. -/
def WellFormed (c : Choice) : Prop :=
  c.placeholder.WellFormed ∧ c.test.segment.WellFormed ∧
    ∀ a ∈ c.alternatives, ∀ s ∈ a.segments, s.WellFormed

instance (c : Choice) : Decidable c.WellFormed := inferInstanceAs (Decidable (_ ∧ _))

/-- The segments of the branch for an outcome of the test. -/
def chosen (c : Choice) (outcome : Bool) : List Segment :=
  if outcome then c.whenTrue.segments
  else (c.whenFalse.map Alternative.segments).getD [.literal defaultBranch]

end Choice

lemma printAll_append (ss ts : List Segment) : printAll (ss ++ ts) = printAll ss ++ printAll ts := by
  simp [printAll]

lemma Test.key_text (t : Test) : (Key.nested t.body).text = t.segment.print := by
  cases t <;> simp [Key.text, body, segment, Segment.print, Positional.print, Positional.ofDigits,
    Placeholder.print]

lemma Alternative.printAll_quoted (a : Alternative) : printAll a.quoted = a.branch.print := by
  simp [quoted, printAll, Segment.print, Branch.print, branch]

lemma Choice.printAll_quoted (alternatives : List Alternative) :
    printAll (alternatives.flatMap Alternative.quoted) =
      (alternatives.map Alternative.branch).flatMap Branch.print := by
  induction alternatives with
  | nil => rfl
  | cons a alternatives ih =>
    rw [List.flatMap_cons, printAll_append, ih, Alternative.printAll_quoted, List.map_cons,
      List.flatMap_cons]

lemma Choice.print_placeholder (c : Choice) :
    c.placeholder.print = "$(if:".toList ++ printAll c.segments := by
  have hpath : "$(if:".toList = ['$', '('] ++ conditionalPath ++ [':'] := by decide
  rw [segments, List.cons_append, printAll_cons, printAll_append, printAll_quoted, ← Test.key_text,
    hpath]
  simp [Placeholder.print, placeholder, printAll, Segment.print]

lemma Choice.wellFormed_segments {c : Choice} (h : c.WellFormed) :
    ∀ s ∈ c.segments, s.WellFormed := by
  obtain ⟨⟨-, -, -, -, -, hbranches⟩, htest, halternatives⟩ := h
  have hquote : ∀ q, isQuote q = true → q ≠ '$' := by
    rintro q hq rfl
    exact absurd hq (by decide)
  intro s hs
  rw [segments, List.cons_append, List.mem_cons, List.mem_append, List.mem_flatMap,
    List.mem_singleton] at hs
  rcases hs with rfl | ⟨a, ha, hs⟩ | rfl
  · exact htest
  · obtain ⟨hopening, -, hclosing⟩ := hbranches a.branch (List.mem_map_of_mem ha)
    rw [Alternative.quoted, List.cons_append, List.mem_cons, List.mem_append,
      List.mem_singleton] at hs
    rcases hs with rfl | hs | rfl
    · have hne := hquote a.opening hopening
      simp [Segment.WellFormed, Ne.symm hne]
    · exact halternatives a ha s hs
    · have hne := hquote a.closing hclosing
      simp [Segment.WellFormed, Ne.symm hne]
  · simp [Segment.WellFormed]

lemma Choice.placeholders_print {c : Choice} (h : c.WellFormed) :
    placeholders c.placeholder.print = [c.placeholder] := by
  have hread := Placeholder.read_print h.1 []
  have hscan := Text.occurrences_of_some hread rfl c.placeholder.enclosed_print.ne_nil
  rw [List.append_nil] at hscan
  rw [placeholders, hscan]
  rfl

lemma Choice.positionals_print {c : Choice} (h : c.WellFormed) :
    positionals c.placeholder.print =
      (c.segments.filterMap Segment.digits?).map Positional.ofDigits := by
  have hm : ∀ d r, d ≠ '$' → Positional.read (d :: r) = none :=
    fun d r hd => Positional.read_of_ne hd r
  have hread : Positional.read ("$(if:".toList ++ printAll c.segments) = none := by
    rw [← print_placeholder, ← List.append_nil c.placeholder.print]
    exact Positional.read_named h.1 []
  have hhead : "$(if:".toList = '$' :: "(if:".toList := by decide
  have hscan : positionals c.placeholder.print = positionals (printAll c.segments) := by
    rw [print_placeholder, positionals, positionals,
      occurrences_append_of_none hm hhead (by decide) hread]
  rw [hscan, positionals_printAll (wellFormed_segments h)]

variable {families : Registry Family} (apply : FilterCaller)

/-- The key of a conditional stands for a condition that holds exactly if the test does, and leaves
the context as it is. -/
lemma Test.exists_condition {t : Test} (h : t.segment.WellFormed)
    (hfamily : t.IsRegistered families) (depth : Nat) : ∃ condition,
      Condition.ofKey? t.segment.print (substitutionsFrom families (depth + 1) t.segment.print) =
        some condition ∧
      ∀ ctx, condition.holds apply ctx = (t.holds families ctx, ctx) := by
  have hsegments : ∀ s ∈ [t.segment], s.WellFormed := by simpa using h
  have hprint : t.segment.print = printAll [t.segment] := by simp [printAll]
  have htable := substitutionsFrom_printAll families hsegments depth
  rw [← hprint] at htable
  cases t with
  | word digits =>
    have htable : substitutionsFrom families (depth + 1) (word digits).segment.print = [] := htable
    have hpositionals : positionalTable (word digits).segment.print = [.ofDigits digits] := by
      rw [positionalTable, hprint, positionals_printAll hsegments]
      rfl
    refine ⟨.argument (Numeral.ofDigits digits), ?_, fun ctx => ?_⟩
    · rw [htable]
      simp only [Condition.ofKey?, hpositionals, Positional.ofDigits]
    · rw [Condition.holds, holds]
  | named path key =>
    obtain ⟨hpath, hsome⟩ := hfamily
    obtain ⟨family, hget⟩ := Option.isSome_iff_exists.mp hsome
    refine ⟨.variable (.variable (.ofPlaceholder ⟨path, none, some (.literal key), [], []⟩) family),
      ?_, fun ctx => ?_⟩
    · rw [htable]
      simp [Condition.ofKey?, segment, Segment.placeholder?, hpath, addEntry, variableOf?, hget,
        Substitution.slot, Slot.ofPlaceholder, Placeholder.keyText?]
    · rw [Condition.holds]
      simp only [Substitution.slot, Slot.parameter, Slot.ofPlaceholder, Placeholder.keyText?,
        Placeholder.number?, Option.map_some, Option.bind_none, Key.text, Substitution.resolve]
      rw [holds, hget, Option.bind_some]
      cases family key ctx <;> rfl

lemma Choice.wellFormed_chosen {c : Choice} (h : c.WellFormed) (outcome : Bool) :
    ∀ s ∈ c.chosen outcome, s.WellFormed := by
  obtain ⟨-, -, halternatives⟩ := h
  cases outcome with
  | true => exact halternatives c.whenTrue List.mem_cons_self
  | false =>
    cases hfalse : c.whenFalse with
    | some a =>
      simpa [chosen, hfalse] using halternatives a (by simp [alternatives, hfalse])
    | none =>
      have hliteral : (Segment.literal defaultBranch).WellFormed := by decide
      simpa [chosen, hfalse] using hliteral

/-- A branch with its table, as it would be filled in by itself. -/
def Choice.response (families : Registry Family) (c : Choice) (outcome : Bool) : Response :=
  ⟨printAll (c.chosen outcome), substitutions families (printAll (c.chosen outcome))⟩

/-- The table of a conditional has nothing but the conditional, with both branches as they are by
themselves. -/
lemma Choice.substitutions_print {c : Choice} (h : c.WellFormed)
    (hfamily : c.test.IsRegistered families) : ∃ condition,
      substitutions families c.placeholder.print =
        [.conditional (.ofPlaceholder c.placeholder) condition (c.response families true)
          (c.response families false)] ∧
      ∀ ctx, condition.holds apply ctx = (c.test.holds families ctx, ctx) := by
  obtain ⟨depth, hdepth⟩ : ∃ depth, c.placeholder.print.length = depth + 1 :=
    Nat.exists_eq_succ_of_ne_zero (by simp [Placeholder.print])
  obtain ⟨condition, hcondition, hholds⟩ :=
    Test.exists_condition apply h.2.1 hfamily depth
  refine ⟨condition, ?_, hholds⟩
  have htable : ∀ outcome, substitutionsFrom families (depth + 1) (printAll (c.chosen outcome)) =
      substitutions families (printAll (c.chosen outcome)) := by
    intro outcome
    rw [substitutions, substitutionsFrom_printAll families (wellFormed_chosen h outcome),
      substitutionsFrom_printAll families (wellFormed_chosen h outcome)]
  have hkey : c.placeholder.keyText? = some c.test.segment.print := by
    rw [← Test.key_text]
    rfl
  have hsecond : ((c.placeholder.branches[1]?).map Branch.body).getD defaultBranch =
      printAll (c.chosen false) := by
    cases hfalse : c.whenFalse with
    | none => simp [placeholder, alternatives, chosen, hfalse, printAll, Segment.print]
    | some a => simp [placeholder, alternatives, chosen, hfalse, Alternative.branch]
  have hconditional : conditionalOf? (substitutionsFrom families (depth + 1)) c.placeholder =
      some (.conditional (.ofPlaceholder c.placeholder) condition (c.response families true)
        (c.response families false)) := by
    have hfirst : c.placeholder.branches.head? = some c.whenTrue.branch := rfl
    simp only [conditionalOf?, hkey, hfirst, Option.bind_eq_bind, Option.bind_some, hcondition,
      hsecond, response, ← htable]
    rfl
  have hpath : c.placeholder.path = conditionalPath := rfl
  rw [substitutions, hdepth, substitutionsFrom, placeholders_print h]
  simp [hpath, addEntry, hconditional]

/-- Filling a conditional in is filling in the branch that it chooses. -/
lemma Choice.fillTable_print {c : Choice} (h : c.WellFormed)
    (hfamily : c.test.IsRegistered families) (ctx : Context) :
    fillTable apply (substitutions families c.placeholder.print) c.placeholder.print ctx =
      (c.response families (c.test.holds families ctx)).fill apply ctx := by
  obtain ⟨condition, htable, hholds⟩ := substitutions_print apply h hfamily
  have hparameter : (Slot.ofPlaceholder c.placeholder).parameter ctx =
      (some (Key.nested c.test.body).text, ctx) := rfl
  have hresolve : ∀ parameter, (Substitution.conditional (.ofPlaceholder c.placeholder) condition
      (c.response families true) (c.response families false)).resolve apply parameter ctx =
        (((c.response families (c.test.holds families ctx)).fill apply ctx).1.map .string,
          ((c.response families (c.test.holds families ctx)).fill apply ctx).2) := by
    intro parameter
    rw [Substitution.resolve]
    simp only [hholds]
    cases c.test.holds families ctx <;> rfl
  have hneedle : c.placeholder.print ≠ [] := c.placeholder.enclosed_print.ne_nil
  rw [htable, fillTable]
  simp only [Substitution.slot, hparameter, hresolve]
  cases (c.response families (c.test.holds families ctx)).fill apply ctx with
  | mk text after =>
    cases text with
    | none => rfl
    | some t =>
      have hreplace : c.placeholder.print.replaceAll c.placeholder.print t = t :=
        Text.replaceAll_self hneedle t
      have hfilters : c.placeholder.filters = [] := rfl
      simp only [Option.map_some, Slot.ofPlaceholder, hfilters, pipeline, Json.text, fillTable,
        hreplace]

lemma Choice.mem_segments_of_mem_chosen {c : Choice} {outcome : Bool} {s : Segment}
    (hs : s ∈ c.chosen outcome) : s ∈ c.segments ∨ s = .literal defaultBranch := by
  have hmem : ∀ a ∈ c.alternatives, s ∈ a.segments → s ∈ c.segments := by
    intro a ha hs
    have hquoted : s ∈ c.alternatives.flatMap Alternative.quoted :=
      List.mem_flatMap.mpr ⟨a, ha, by simp [Alternative.quoted, hs]⟩
    simp [segments, hquoted]
  cases outcome with
  | true => exact .inl (hmem c.whenTrue List.mem_cons_self hs)
  | false =>
    cases hfalse : c.whenFalse with
    | some a =>
      have hs : s ∈ a.segments := by simpa [chosen, hfalse] using hs
      exact .inl (hmem a (by simp [alternatives, hfalse]) hs)
    | none => exact .inr (by simpa [chosen, hfalse] using hs)

/-- A conditional renders as the branch that its test chooses: the other branch does not matter,
and a tested variable without a value chooses the second one. -/
theorem render_choice {c : Choice} {ctx : Context} (h : c.WellFormed)
    (hfamily : c.test.IsRegistered families)
    (hspelling : OneSpelling (c.segments.filterMap Segment.digits?))
    (hboth : ∀ p, .named p ∈ c.segments → ¬p.HasBoth)
    (hplain : ∀ s ∈ c.chosen (c.test.holds families ctx),
      ∀ t ∈ s.substitute? families apply ctx, '$' ∉ t) :
    render apply ⟨c.placeholder.print, families⟩ ctx =
      render apply ⟨printAll (c.chosen (c.test.holds families ctx)), families⟩ ctx := by
  -- From here on it does not matter which branch is chosen.
  have hfill := Choice.fillTable_print apply h hfamily ctx
  generalize c.test.holds families ctx = outcome at hplain hfill ⊢
  have hchosen := Choice.wellFormed_chosen h outcome
  have hsegments := Choice.wellFormed_segments h
  have hboth : ∀ p, .named p ∈ c.chosen outcome → ¬p.HasBoth := fun p hp =>
    hboth p ((Choice.mem_segments_of_mem_chosen hp).resolve_right (by simp))
  have hsub : ∀ d, .positional d ∈ c.chosen outcome → d ∈ c.segments.filterMap Segment.digits? :=
    fun d hd => mem_filterMap_digits?.mpr
      ((Choice.mem_segments_of_mem_chosen hd).resolve_right (by simp))
  have hvalues : PlainValues families apply ctx (c.chosen outcome) := fun p hp => hplain _ hp
  have hwords : ∀ d, .positional d ∈ c.chosen outcome →
      '$' ∉ argumentValue ctx.invocation.message (Numeral.ofDigits d) :=
    fun d hd => hplain _ hd _ rfl
  have hplace := fillTable_printAll hchosen (.inr hboth) hvalues
    (printAll (c.chosen outcome)).length
  have hinvocation : (fillTable apply (substitutions families (printAll (c.chosen outcome)))
      (printAll (c.chosen outcome)) ctx).2.invocation = ctx.invocation := invocation_fillTable _ _ _
  rw [← substitutions] at hplace
  rw [Choice.response, Response.fill] at hfill
  rw [render, render]
  simp only [hfill]
  -- Both texts have the same placeholders left, and both tables have the words for them.
  have hwhole : fillPositionals ctx.invocation.message (positionalTable c.placeholder.print)
      ((c.chosen outcome).map (Segment.filled families apply ctx)).flatten = _ :=
    fillPositionals_filled_of_not_mem hchosen hvalues (Choice.positionals_print h) hspelling
      (fun d hd => hsegments _ (mem_filterMap_digits?.mp hd)) hsub hwords
  have hbranch : fillPositionals ctx.invocation.message
      (positionalTable (printAll (c.chosen outcome)))
      ((c.chosen outcome).map (Segment.filled families apply ctx)).flatten = _ :=
    fillPositionals_filled_of_not_mem hchosen hvalues (positionals_printAll hchosen)
      (fun d hd e he => hspelling d (hsub d (mem_filterMap_digits?.mp hd)) e
        (hsub e (mem_filterMap_digits?.mp he)))
      (fun d hd => hchosen _ (mem_filterMap_digits?.mp hd))
      (fun d hd => mem_filterMap_digits?.mpr hd) hwords
  rw [hinvocation, hplace]
  split
  · rw [Option.map_some, Option.map_some, hwhole, hbranch]
  · rfl

/-- `$(if:$(message:text),'Hi $(1)',"$(source:nothing)")` -/
def greetingOrNothing : Choice where
  test := .named "message".toList "text".toList
  whenTrue := ⟨'\'', [.literal "Hi ".toList, .positional "1".toList], '\''⟩
  whenFalse := some ⟨'"', [.named ⟨"source".toList, none, some (.literal "nothing".toList), [], []⟩],
    '"'⟩

/-- What the response of `greetingOrNothing` is made of. -/
def greetingChosen : List Segment :=
  greetingOrNothing.chosen (greetingOrNothing.test.holds Family.standard (told "Ada b".toList))

/-- The branch that is not chosen has no value, and does no harm. -/
theorem greetingOrNothing_greets :
    greetingOrNothing.WellFormed ∧ greetingOrNothing.test.IsRegistered Family.standard ∧
      OneSpelling (greetingOrNothing.segments.filterMap Segment.digits?) ∧
      (∀ p, .named p ∈ greetingOrNothing.segments → ¬p.HasBoth) ∧
      (∀ s ∈ greetingChosen, ∀ t ∈ s.substitute? Family.standard Filter.standard.callFilter
        (told "Ada b".toList), '$' ∉ t) ∧
      (render Filter.standard.callFilter ⟨greetingOrNothing.placeholder.print, Family.standard⟩
        (told "Ada b".toList)).1 = some "Hi Ada".toList := by
  have hformed : greetingOrNothing.WellFormed := by decide +kernel
  have hfamily : greetingOrNothing.test.IsRegistered Family.standard := by decide +kernel
  have hspelling : OneSpelling (greetingOrNothing.segments.filterMap Segment.digits?) := by
    decide +kernel
  have hboth : ∀ p ∈ greetingOrNothing.segments.filterMap Segment.placeholder?, ¬p.HasBoth := by
    decide +kernel
  have hboth : ∀ p, .named p ∈ greetingOrNothing.segments → ¬p.HasBoth :=
    fun p hp => hboth p (mem_filterMap_placeholder?.mpr hp)
  have hplain : ∀ s ∈ greetingChosen, ∀ t ∈ s.substitute? Family.standard
      Filter.standard.callFilter (told "Ada b".toList), '$' ∉ t := by decide +kernel
  have hrender := render_choice Filter.standard.callFilter hformed hfamily hspelling hboth hplain
  refine ⟨hformed, hfamily, hspelling, hboth, hplain, ?_⟩
  rw [hrender]
  decide +kernel

end CommandBot.Template
