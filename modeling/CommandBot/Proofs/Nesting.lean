import CommandBot.Proofs.Decomposing

/-!
# How deep conditionals nest

A conditional has a branch, and a branch begins with a comma. Neither a key nor a branch has commas
inside, so the text of a part of a placeholder has no conditionals in its table; and a key has no bar,
so its table has no filters. That bounds how deep tables are made and how deep conditionals are
evaluated, and it is why nothing is lost by leaving the filters of a condition out.
-/

namespace CommandBot.Template

variable {families : Registry Family}

/-- A substitution that is not a conditional. -/
def Substitution.IsVariable : Substitution → Prop
  | .variable _ _ => True
  | .conditional .. => False

/-- A condition on a word of the message, or on a variable without filters. -/
def Condition.IsPlain : Condition → Prop
  | .argument _ => True
  | .variable s => s.IsVariable ∧ s.slot.filters = []

/-- A branch with no conditional in its table. -/
def Response.IsFlat : Response → Prop
  | .mk _ table => ∀ s ∈ table, s.IsVariable

/-- A variable, or a conditional with a plain condition and flat branches. -/
def Substitution.IsFlat : Substitution → Prop
  | .variable _ _ => True
  | .conditional _ condition whenTrue whenFalse =>
    condition.IsPlain ∧ whenTrue.IsFlat ∧ whenFalse.IsFlat

lemma isVariable_of_variableOf? {p : Placeholder} {s : Substitution}
    (h : variableOf? families p = some s) : s.IsVariable := by
  obtain ⟨family, -, rfl⟩ := Option.map_eq_some_iff.mp h
  trivial

lemma Key.not_mem_text {k : Key} (h : k.WellFormed) {c : Char} (hc : isNestedChar c = false)
    (houtside : c ∉ ['$', '(', ')']) : c ∉ k.text := by
  cases k with
  | literal text => exact IsRun.not_mem h (by simp_all [isNestedChar])
  | nested body =>
    have hbody : c ∉ body := IsRun.not_mem h hc
    simp_all [Key.text]

namespace Placeholder

variable {p : Placeholder} {u : Text}

lemma bar_not_mem_keyText (hp : p.WellFormed) (h : p.keyText? = some u) : '|' ∉ u := by
  obtain ⟨k, hk, rfl⟩ := Option.map_eq_some_iff.mp h
  exact k.not_mem_text (hp.2.2.1 k hk) (by decide) (by decide)

lemma IsPart.comma_not_mem (h : p.IsPart u) (hp : p.WellFormed) : ',' ∉ u := by
  obtain ⟨-, -, hkey, -, -, hbranches⟩ := hp
  rcases h with htext | ⟨b, hb, rfl⟩ | rfl
  · obtain ⟨k, hk, rfl⟩ := Option.map_eq_some_iff.mp htext
    exact k.not_mem_text (hkey k hk) (by decide) (by decide)
  · exact (hbranches b hb).2.1.not_mem (by decide)
  · decide

lemma filters_eq_nil (h : p.print <:+: u) (hbar : '|' ∉ u) : p.filters = [] := by
  rcases hf : p.filters with _ | ⟨f, rest⟩
  · rfl
  · have hmem : '|' ∈ p.print := by simp [print, hf, FilterCall.print]
    exact absurd (h.subset hmem) hbar

lemma branches_eq_nil (h : p.print <:+: u) (hcomma : ',' ∉ u) : p.branches = [] := by
  rcases hb : p.branches with _ | ⟨b, rest⟩
  · rfl
  · have hmem : ',' ∈ p.print := by simp [print, hb, Branch.print]
    exact absurd (h.subset hmem) hcomma

end Placeholder

/-- A text without commas has no conditionals, whatever tables their parts would have. -/
lemma conditionalOf?_of_comma_not_mem {tableOf : Text → List Substitution} {p : Placeholder} {u : Text}
    (hcomma : ',' ∉ u) (h : p ∈ placeholders u) : conditionalOf? tableOf p = none :=
  conditionalOf?_of_branches_eq_nil (Placeholder.branches_eq_nil (of_mem_placeholders h).2 hcomma)

lemma exists_of_mem_substitutions {u : Text} (hcomma : ',' ∉ u) {s : Substitution}
    (h : s ∈ substitutions families u) : ∃ p ∈ placeholders u, variableOf? families p = some s := by
  obtain ⟨p, hp, hs⟩ := mem_substitutions_iff.mp h
  rw [Placeholder.substitution?, conditionalOf?_of_comma_not_mem hcomma hp] at hs
  split at hs
  · cases hs
  · exact ⟨p, hp, hs⟩

lemma Response.isFlat_mk {u : Text} (hcomma : ',' ∉ u) :
    (Response.mk u (substitutions families u)).IsFlat := by
  intro s hs
  obtain ⟨p, -, hvariable⟩ := exists_of_mem_substitutions hcomma hs
  exact isVariable_of_variableOf? hvariable

lemma Condition.isPlain_of_ofKey? {key : Text} {table : List Substitution} {condition : Condition}
    (htable : ∀ s ∈ table, s.IsVariable ∧ s.slot.filters = [])
    (h : Condition.ofKey? key table = some condition) : condition.IsPlain := by
  unfold Condition.ofKey? at h
  split at h
  · split at h
    · obtain rfl := Option.some.inj h
      exact htable _ List.mem_cons_self
    · obtain rfl := Option.some.inj h
      trivial
    · cases h
  · split at h
    · obtain rfl := Option.some.inj h
      trivial
    · cases h

lemma isFlat_of_conditionalOf? {p : Placeholder} (hp : p.WellFormed) {s : Substitution}
    (h : conditionalOf? (substitutions families) p = some s) : s.IsFlat := by
  simp only [conditionalOf?, Option.bind_eq_bind, Option.bind_eq_some_iff] at h
  obtain ⟨key, hkey, first, hfirst, condition, hcondition, hs⟩ := h
  obtain rfl := Option.some.inj hs
  have hpart : ∀ u, p.IsPart u → (Response.mk u (substitutions families u)).IsFlat :=
    fun u hu => Response.isFlat_mk (hu.comma_not_mem hp)
  have htable : ∀ s ∈ substitutions families key, s.IsVariable ∧ s.slot.filters = [] := by
    intro s hs
    have hcomma := Placeholder.IsPart.comma_not_mem (.inl hkey) hp
    obtain ⟨q, hq, hvariable⟩ := exists_of_mem_substitutions hcomma hs
    have hfilters := Placeholder.filters_eq_nil (of_mem_placeholders hq).2
      (Placeholder.bar_not_mem_keyText hp hkey)
    exact ⟨isVariable_of_variableOf? hvariable, by rw [variableOf?_slot hvariable]; exact hfilters⟩
  refine ⟨Condition.isPlain_of_ofKey? htable hcondition,
    hpart _ (.inr (.inl ⟨first, List.mem_of_head? hfirst, rfl⟩)), hpart _ ?_⟩
  cases hsecond : p.branches[1]? with
  | none => exact .inr (.inr rfl)
  | some second => exact .inr (.inl ⟨second, List.mem_of_getElem? hsecond, rfl⟩)

lemma isFlat_of_mem_substitutions {t : Text} {s : Substitution} (h : s ∈ substitutions families t) :
    s.IsFlat := by
  obtain ⟨p, hp, hs⟩ := mem_substitutions_iff.mp h
  rw [Placeholder.substitution?] at hs
  split at hs
  · exact isFlat_of_conditionalOf? (of_mem_placeholders hp).1 hs
  · obtain ⟨family, -, rfl⟩ := Option.map_eq_some_iff.mp hs
    trivial

/-- The tables of the parts are made without a look at the tables of their own parts. -/
lemma substitutions_eq_tableWith (deeper : Text → List Substitution) (t : Text) :
    substitutions families t = tableWith families (tableWith families deeper) t := by
  rw [← substitutionsFrom_eq families (Nat.lt_add_of_pos_right Nat.two_pos)]
  change tableWith families (tableWith families (substitutionsFrom families t.length)) t = _
  refine tableWith_congr fun p hp => conditionalOf?_congr fun u hu => tableWith_congr fun q hq => ?_
  have hcomma := hu.comma_not_mem (of_mem_placeholders hp).1
  rw [conditionalOf?_of_comma_not_mem hcomma hq, conditionalOf?_of_comma_not_mem hcomma hq]

/-- What looks up the value of a substitution. -/
abbrev Resolver := Substitution → Text → Context → Option Json × Context

variable {apply : FilterCaller} {resolver resolver' : Resolver}

/-- A text with the substitutions of a table made in order, with `resolver` for their values. -/
def fillTableWith (apply : FilterCaller) (resolver : Resolver) :
    List Substitution → Text → Context → Option Text × Context
  | [], text, ctx => (some text, ctx)
  | s :: rest, text, ctx =>
    match s.slot.parameter ctx with
    | (none, ctx) => (none, ctx)
    | (some parameter, ctx) =>
      match resolver s parameter ctx with
      | (none, ctx) => (none, ctx)
      | (some value, ctx) =>
        match pipeline apply s.slot.filters value with
        | none => (none, ctx)
        | some value =>
          fillTableWith apply resolver rest (text.replaceAll s.slot.needle value.text) ctx

/-- Whether a condition holds, with `resolver` for the value of a variable. -/
def Condition.holdsWith (resolver : Resolver) : Condition → Context → Bool × Context
  | .argument number, ctx => (!(argumentValue ctx.invocation.message number).isEmpty, ctx)
  | .variable s, ctx =>
    match s.slot.parameter ctx with
    | (none, ctx) => (false, ctx)
    | (some parameter, ctx) =>
      let (value, ctx) := resolver s parameter ctx
      ((value.map Json.truthy).getD false, ctx)

/-- The text of a branch with its own table filled in, with `resolver` for the values. -/
def Response.fillWith (apply : FilterCaller) (resolver : Resolver) :
    Response → Context → Option Text × Context
  | ⟨text, table⟩, ctx => fillTableWith apply resolver table text ctx

/-- The value of a substitution, with `resolver` for the values that its condition and its branches
ask for. -/
def Substitution.resolveWith (apply : FilterCaller) (resolver : Resolver) : Resolver
  | .variable _ family, parameter, ctx => (family parameter ctx, ctx)
  | .conditional _ condition whenTrue whenFalse, _, ctx =>
    let (holds, ctx) := condition.holdsWith resolver ctx
    let (text, ctx) :=
      if holds then whenTrue.fillWith apply resolver ctx else whenFalse.fillWith apply resolver ctx
    (text.map .string, ctx)

/-- Whether a condition holds if a variable goes through its filters first. -/
def Condition.holdsFiltered (apply : FilterCaller) : Condition → Context → Bool × Context
  | .argument number, ctx => (!(argumentValue ctx.invocation.message number).isEmpty, ctx)
  | .variable s, ctx =>
    match s.slot.parameter ctx with
    | (none, ctx) => (false, ctx)
    | (some parameter, ctx) =>
      let (value, ctx) := s.resolve apply parameter ctx
      (((value.bind (pipeline apply s.slot.filters)).map Json.truthy).getD false, ctx)

lemma fillTableWith_congr {table : List Substitution} (h : ∀ s ∈ table, resolver s = resolver' s) :
    fillTableWith apply resolver table = fillTableWith apply resolver' table := by
  induction table with
  | nil => rfl
  | cons s rest ih =>
    obtain ⟨hs, hrest⟩ := List.forall_mem_cons.mp h
    funext text ctx
    simp only [fillTableWith, hs, ih hrest]

/-- Filling in takes the values of a table's entries from evaluation itself. -/
lemma fillTable_eq_fillTableWith (table : List Substitution) :
    fillTable apply table = fillTableWith apply (Substitution.resolve apply) table := by
  induction table with
  | nil =>
    funext text ctx
    simp only [fillTable, fillTableWith]
  | cons s rest ih =>
    funext text ctx
    simp only [fillTable, ih]
    rfl

lemma Substitution.resolve_eq_resolveWith :
    Substitution.resolve apply = Substitution.resolveWith apply (Substitution.resolve apply) := by
  have hholds : ∀ condition : Condition,
      condition.holds apply = condition.holdsWith (Substitution.resolve apply) := by
    intro condition
    funext ctx
    cases condition with
    | argument number => simp only [Condition.holds, Condition.holdsWith]
    | «variable» s =>
      simp only [Condition.holds]
      rfl
  have hfill : ∀ branch : Response,
      branch.fill apply = branch.fillWith apply (Substitution.resolve apply) := by
    rintro ⟨text, table⟩
    funext ctx
    simp only [Response.fill, Response.fillWith, fillTable_eq_fillTableWith]
  funext s parameter ctx
  cases s <;> simp only [resolve, resolveWith, hholds, hfill]

lemma Substitution.resolveWith_of_isVariable {s : Substitution} (h : s.IsVariable) :
    s.resolveWith apply resolver = s.resolveWith apply resolver' := by
  cases s with
  | «variable» slot family => rfl
  | conditional => cases h

/-- A flat substitution asks for the values of variables alone. -/
lemma Substitution.resolveWith_congr_of_isFlat {s : Substitution} (h : s.IsFlat)
    (hresolver : ∀ s : Substitution, s.IsVariable → resolver s = resolver' s) :
    s.resolveWith apply resolver = s.resolveWith apply resolver' := by
  have hfill : ∀ branch : Response, branch.IsFlat →
      branch.fillWith apply resolver = branch.fillWith apply resolver' := by
    rintro ⟨text, table⟩ hflat
    funext ctx
    simp only [Response.fillWith, fillTableWith_congr fun s hs => hresolver s (hflat s hs)]
  have hholds : ∀ condition : Condition, condition.IsPlain →
      condition.holdsWith resolver = condition.holdsWith resolver' := by
    intro condition hplain
    funext ctx
    cases condition with
    | argument number => rfl
    | «variable» s => simp only [Condition.holdsWith, hresolver s hplain.1]
  cases s with
  | «variable» slot family => rfl
  | conditional slot condition whenTrue whenFalse =>
    obtain ⟨hcondition, htrue, hfalse⟩ := h
    funext parameter ctx
    simp only [resolveWith, hholds condition hcondition, hfill whenTrue htrue, hfill whenFalse hfalse]

lemma Substitution.resolve_of_isFlat {s : Substitution} (h : s.IsFlat) (deeper : Resolver) :
    s.resolve apply = s.resolveWith apply (Substitution.resolveWith apply deeper) := by
  rw [Substitution.resolve_eq_resolveWith]
  refine resolveWith_congr_of_isFlat h fun s hs => ?_
  rw [Substitution.resolve_eq_resolveWith]
  exact resolveWith_of_isVariable hs

lemma Condition.holdsFiltered_of_isPlain {condition : Condition} (h : condition.IsPlain) :
    condition.holdsFiltered apply = condition.holds apply := by
  funext ctx
  cases condition with
  | argument number => simp only [holdsFiltered, holds]
  | «variable» s =>
    have hpipeline : pipeline apply s.slot.filters = some := by rw [h.2]; rfl
    simp only [holdsFiltered, hpipeline, Option.bind_fun_some]
    rfl

/-- No conditional nests in another: in the table of any text a condition is a word of the message or
a variable without filters, and the tables of the branches hold variables alone. So neither the making
of a table nor its evaluation gets past the second level: what would be called beyond that can be
anything. And a condition holds as if its variable went through its filters. -/
theorem substitutions_flat (families : Registry Family) (t : Text) :
    (∀ s ∈ substitutions families t, s.IsFlat) ∧
    (∀ deeper, substitutions families t = tableWith families (tableWith families deeper) t) ∧
    ∀ apply : FilterCaller,
      (∀ (deeper : Resolver) (text : Text) (ctx : Context),
        fillTable apply (substitutions families t) text ctx =
          fillTableWith apply
            (Substitution.resolveWith apply (Substitution.resolveWith apply deeper))
            (substitutions families t) text ctx) ∧
      ∀ slot condition whenTrue whenFalse,
        .conditional slot condition whenTrue whenFalse ∈ substitutions families t →
          ∀ ctx, condition.holdsFiltered apply ctx = condition.holds apply ctx := by
  have hflat : ∀ s ∈ substitutions families t, s.IsFlat := fun s hs => isFlat_of_mem_substitutions hs
  refine ⟨hflat, fun deeper => substitutions_eq_tableWith deeper t, fun apply => ⟨?_, ?_⟩⟩
  · intro deeper text ctx
    have htable : ∀ s ∈ substitutions families t, Substitution.resolve apply s =
        Substitution.resolveWith apply (Substitution.resolveWith apply deeper) s :=
      fun s hs => Substitution.resolve_of_isFlat (hflat s hs) deeper
    rw [fillTable_eq_fillTableWith, fillTableWith_congr htable]
  · intro slot condition whenTrue whenFalse hmem ctx
    rw [Condition.holdsFiltered_of_isPlain (hflat _ hmem).1]

end CommandBot.Template
