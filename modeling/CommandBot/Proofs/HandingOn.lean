import CommandBot.Proofs.Responses

/-!
# What a placeholder hands on

A placeholder with both a key and a number puts its word of the message into the context, and the
word stays there. So of two placeholders the first resolves as it does alone, but the second as it
does alone in the context that the first hands on: it may see a word that is not its own.
-/

namespace CommandBot.Template

variable {families : Registry Family} {apply : FilterCaller} {ctx : Context} {p q : Placeholder}

/-- The context after a placeholder. -/
def Placeholder.handOn (p : Placeholder) (ctx : Context) : Context :=
  if p.HasBoth then
    { ctx with argument := p.number?.map (argumentValue ctx.invocation.message) }
  else ctx

lemma Placeholder.parameter_snd (p : Placeholder) (ctx : Context) :
    ((Slot.ofPlaceholder p).parameter ctx).2 = p.handOn ctx := by
  by_cases hboth : p.HasBoth
  · obtain ⟨key, hkey⟩ := Option.isSome_iff_exists.mp hboth.1
    obtain ⟨number, hnumber⟩ := Option.isSome_iff_exists.mp hboth.2
    rw [handOn, if_pos hboth]
    simp only [Slot.parameter, Slot.ofPlaceholder, hkey, hnumber, Option.map_some]
  · rw [handOn, if_neg hboth, Slot.parameter_of_not_hasBoth hboth]

/-- A placeholder does not see what another one left, if that one leaves nothing or it has a word of
its own. -/
lemma Placeholder.parameter_handOn (h : ¬p.HasBoth ∨ q.HasBoth) (ctx : Context) :
    (Slot.ofPlaceholder q).parameter (p.handOn ctx) = (Slot.ofPlaceholder q).parameter ctx := by
  by_cases hp : p.HasBoth
  · rw [handOn, if_pos hp]
    exact Slot.parameter_of_hasBoth (h.resolve_left (not_not.mpr hp)) ctx _
  · rw [handOn, if_neg hp]

lemma Placeholder.variableOf?_eq {family : Family} (h : p.family? families = some family) :
    p.path ≠ conditionalPath ∧
      variableOf? families p = some (.variable (.ofPlaceholder p) family) := by
  rw [family?] at h
  split at h
  · cases h
  · rename_i hpath
    exact ⟨hpath, by rw [variableOf?, h, Option.map_some]⟩

lemma after_placeholder (p : Placeholder) (family : Family) (ctx : Context) :
    (Substitution.variable (.ofPlaceholder p) family).after apply ctx = p.handOn ctx := by
  rw [after_variable, p.parameter_snd]

lemma render_of_no_positionals {t : Text} (h : positionals t = []) :
    render apply ⟨t, families⟩ ctx = fillTable apply (substitutions families t) t ctx := by
  have htable : positionalTable t = [] := by rw [positionalTable, h, List.foldl_nil]
  have hnone : ∀ message, fillPositionals message [] = id := fun _ => rfl
  rw [render]
  simp only [htable, hnone, Option.map_id, id]

/-- The response of a placeholder alone. -/
def Placeholder.alone (families : Registry Family) (apply : FilterCaller) (ctx : Context)
    (p : Placeholder) : Option Text :=
  (render apply ⟨p.print, families⟩ ctx).1

/-- A placeholder by itself is its own value, if it has one. -/
lemma render_placeholder {family : Family} (hp : p.IsSimple)
    (hfamily : p.family? families = some family) (ctx : Context) :
    render apply ⟨p.print, families⟩ ctx =
      ((p.value? apply family ctx).map Json.text, p.handOn ctx) := by
  have hsegments : ∀ s ∈ [Segment.named p], s.WellFormed := List.forall_mem_singleton.mpr hp
  have hprint : p.print = printAll [.named p] := by simp [printAll, Segment.print]
  obtain ⟨hpath, hentry⟩ := Placeholder.variableOf?_eq hfamily
  have htable : substitutions families p.print = [.variable (.ofPlaceholder p) family] := by
    rw [substitutions, hprint, substitutionsFrom_printAll families hsegments]
    simp [Segment.placeholder?, hpath, addEntry, hentry]
  have hpositionals : positionals p.print = [] := by
    rw [hprint, positionals_printAll hsegments]
    rfl
  rw [render_of_no_positionals hpositionals, htable, fillTable_cons, p.text?_variable,
    after_placeholder]
  cases p.value? apply family ctx with
  | none => rfl
  | some v =>
    have hneedle := Text.replaceAll_self p.enclosed_print.ne_nil v.text
    simp only [Option.map_some, fillTable, Substitution.slot, Slot.ofPlaceholder, hneedle]

lemma Placeholder.alone_eq {family : Family} (hp : p.IsSimple)
    (hfamily : p.family? families = some family) (ctx : Context) :
    p.alone families apply ctx = (p.value? apply family ctx).map Json.text := by
  rw [alone, render_placeholder hp hfamily]

lemma Placeholder.alone_handOn (hq : q.IsSimple) (hregistered : (q.family? families).isSome)
    (h : ¬p.HasBoth ∨ q.HasBoth) (ctx : Context) :
    q.alone families apply (p.handOn ctx) = q.alone families apply ctx := by
  obtain ⟨family, hfamily⟩ := Option.isSome_iff_exists.mp hregistered
  rw [alone_eq hq hfamily, alone_eq hq hfamily, ← text?_variable, ← text?_variable]
  exact text?_congr (parameter_handOn h ctx)

/-- Two responses with a space between them, if there are both. -/
def sideBySide (first second : Option Text) : Option Text :=
  first.bind fun t => second.map fun u => t ++ ' ' :: u

lemma sideBySide_inj {first second second' : Option Text} :
    sideBySide first second = sideBySide first second' ↔ first = none ∨ second = second' := by
  cases first with
  | none => simp [sideBySide]
  | some t =>
    have hinj : Function.Injective fun u => t ++ ' ' :: u := fun u v h => by simpa using h
    simpa [sideBySide] using (Option.map_injective hinj).eq_iff

/-- Two placeholders with a space between them. -/
def pair (p q : Placeholder) : List Segment := [.named p, .literal [' '], .named q]

lemma printAll_pair (p q : Placeholder) : printAll (pair p q) = p.print ++ ' ' :: q.print := by
  simp [pair, printAll, Segment.print]

lemma wellFormed_pair (hp : p.IsSimple) (hq : q.IsSimple) : ∀ s ∈ pair p q, s.WellFormed := by
  have hspace : '$' ∉ [' '] := by decide
  exact List.forall_mem_cons.mpr ⟨hp, List.forall_mem_cons.mpr
    ⟨hspace, List.forall_mem_singleton.mpr hq⟩⟩

lemma print_eq_iff (hp : p.IsSimple) (hq : q.IsSimple) : p.print = q.print ↔ p = q :=
  ⟨Placeholder.print_injective hp.1 hq.1, congrArg Placeholder.print⟩

lemma substitutions_pair {first second : Family} (hp : p.IsSimple) (hq : q.IsSimple)
    (hfirst : p.family? families = some first) (hsecond : q.family? families = some second) :
    substitutions families (p.print ++ ' ' :: q.print) =
      .variable (.ofPlaceholder p) first ::
        if p = q then [] else [.variable (.ofPlaceholder q) second] := by
  obtain ⟨hpath, hentry⟩ := Placeholder.variableOf?_eq hfirst
  obtain ⟨hpath', hentry'⟩ := Placeholder.variableOf?_eq hsecond
  have hfilter : ((pair p q).filterMap Segment.placeholder?).filter
      (·.path != conditionalPath) = [p, q] := by
    simp [pair, List.filterMap_cons, Segment.placeholder?, hpath, hpath']
  rw [← printAll_pair, substitutions, substitutionsFrom_printAll families (wellFormed_pair hp hq),
    hfilter]
  by_cases h : p = q
  · subst h
    simp [addEntry, hentry, Substitution.slot, Slot.ofPlaceholder]
  · have hprint : p.print ≠ q.print := mt (print_eq_iff hp hq).mp h
    simp [addEntry, hentry, hentry', Substitution.slot, Slot.ofPlaceholder, h, hprint]

lemma positionals_pair (hp : p.IsSimple) (hq : q.IsSimple) :
    positionals (p.print ++ ' ' :: q.print) = [] := by
  rw [← printAll_pair, positionals_printAll (wellFormed_pair hp hq)]
  rfl

/-- The second placeholder gives way behind a text that does not begin a placeholder. -/
lemma replaceAll_second {t : Text} (hq : q.IsSimple) (ht : '$' ∉ t) (value : Text) :
    (t ++ ' ' :: q.print).replaceAll q.print value = t ++ ' ' :: value := by
  obtain ⟨v, hv, -⟩ := hq.exists_print_eq
  have hne := q.enclosed_print.ne_nil
  have havoids : Text.Avoids q.print (t ++ [' ']) := by
    rw [hv]
    exact .of_not_mem (by simp [ht])
  rw [List.append_cons, Text.replaceAll_append_of_apart hne value (havoids.apart _),
    Text.replaceAll_of_not_infix hne value (havoids.not_isInfix hne), Text.replaceAll_self hne,
    ← List.append_cons]

lemma replaceAll_first (hp : p.IsSimple) (hq : q.IsSimple) (value : Text) :
    (p.print ++ ' ' :: q.print).replaceAll p.print value =
      value ++ ' ' :: if p = q then value else q.print := by
  have hne := p.enclosed_print.ne_nil
  rw [Text.replaceAll_needle_append hne]
  split
  · rename_i h
    subst h
    exact congrArg (value ++ ·) (replaceAll_second (t := []) hp List.not_mem_nil value)
  · rename_i h
    obtain ⟨v, hv, -⟩ := hp.exists_print_eq
    have hspace : Text.Avoids p.print [' '] := hv ▸ .of_not_mem (by decide)
    have hother : Text.Avoids p.print q.print :=
      (Segment.print_eq_or_avoids (s := .named p) (t := .named q) hp not_false hq).resolve_left
        fun he => h ((print_eq_iff hp hq).mp he.symm)
    rw [← List.singleton_append, Text.replaceAll_append_of_apart hne value (hspace.apart _),
      Text.replaceAll_of_not_infix hne value (hspace.not_isInfix hne),
      Text.replaceAll_of_not_infix hne value (hother.not_isInfix hne)]

/-- Of two placeholders the second sees what the first hands on. -/
theorem render_pair_eq (hp : p.IsSimple) (hq : q.IsSimple)
    (hfirst : (p.family? families).isSome) (hsecond : (q.family? families).isSome)
    (hplain : ∀ t ∈ p.alone families apply ctx, '$' ∉ t) :
    (render apply ⟨p.print ++ ' ' :: q.print, families⟩ ctx).1 =
      sideBySide (p.alone families apply ctx) (q.alone families apply (p.handOn ctx)) := by
  obtain ⟨first, hfirst⟩ := Option.isSome_iff_exists.mp hfirst
  obtain ⟨second, hsecond⟩ := Option.isSome_iff_exists.mp hsecond
  have hvalue : p.alone families apply ctx = (p.value? apply first ctx).map Json.text :=
    Placeholder.alone_eq hp hfirst ctx
  rw [hvalue] at hplain ⊢
  rw [render_of_no_positionals (positionals_pair hp hq), substitutions_pair hp hq hfirst hsecond,
    fillTable_cons, p.text?_variable, after_placeholder]
  cases hv : p.value? apply first ctx with
  | none => rfl
  | some v =>
    rw [hv] at hvalue hplain
    simp only [Option.map_some, Substitution.slot, Slot.ofPlaceholder, replaceAll_first hp hq]
    by_cases h : p = q
    · -- One entry fills both in, and the placeholder does not see what it left itself.
      subst h
      rw [Placeholder.alone_handOn hp (by rw [hfirst]; rfl) (not_or_of_imp id), hvalue]
      simp [fillTable, sideBySide]
    · rw [if_neg h, if_neg h, Placeholder.alone_eq hq hsecond]
      have hentry : (Substitution.variable ⟨q.print, q.keyText?, q.number?, q.filters⟩ second).text?
          apply (p.handOn ctx) = (q.value? apply second (p.handOn ctx)).map Json.text :=
        q.text?_variable second (p.handOn ctx)
      rw [fillTable_cons, hentry]
      cases q.value? apply second (p.handOn ctx) with
      | none => rfl
      | some w =>
        have hsecond := replaceAll_second hq (hplain v.text rfl) w.text
        simp only [Option.map_some, Substitution.slot, hsecond, fillTable]
        rfl

/-- Two placeholders with a space between them always give their own responses with a space between
them, as long as no value has a dollar sign, be it alone or after the other one. -/
def Independent (p q : Placeholder) : Prop :=
  ∀ (families : Registry Family) (filters : Registry Filter) (i : Invocation),
    (p.family? families).isSome → (q.family? families).isSome →
    (∀ t ∈ p.alone families filters.callFilter (.ofInvocation i), '$' ∉ t) →
    (∀ t ∈ q.alone families filters.callFilter (.ofInvocation i), '$' ∉ t) →
    (∀ t ∈ q.alone families filters.callFilter (p.handOn (.ofInvocation i)), '$' ∉ t) →
    (render filters.callFilter ⟨p.print ++ ' ' :: q.print, families⟩ (.ofInvocation i)).1 =
      sideBySide (p.alone families filters.callFilter (.ofInvocation i))
        (q.alone families filters.callFilter (.ofInvocation i))

lemma alone_of_bare (hq : q.IsSimple) (hregistered : (q.family? families).isSome)
    (hkey : q.keyText? = none) (hnumber : q.number? = none) (ctx : Context) :
    q.alone families apply ctx = none := by
  obtain ⟨family, hfamily⟩ := Option.isSome_iff_exists.mp hregistered
  rw [Placeholder.alone_eq hq hfamily,
    Placeholder.value?_eq_none_iff.mpr (.bare hkey hnumber), Option.map_none]

/-- A family that tells whether there is a word in the context. -/
def attentive : Family := fun _ ctx => some (.bool ctx.argument.isSome)

lemma pipeline_empty (calls : List FilterCall) (v : Json) :
    pipeline (Registry.empty : Registry Filter).callFilter calls v = some v := by
  induction calls with
  | nil => rfl
  | cons call calls ih => exact ih

/-- An attentive placeholder tells whether it has a word of its own or was handed one. -/
lemma alone_attentive (hp : p.IsSimple) (hfamily : p.family? families = some attentive)
    (hlooks : p.keyText?.isSome ∨ p.number?.isSome) (ctx : Context) :
    p.alone families (Registry.empty : Registry Filter).callFilter ctx =
      some (Json.text (.bool (decide p.HasBoth || ctx.argument.isSome))) := by
  rw [Placeholder.alone_eq hp hfamily, Placeholder.value?, Placeholder.resolve?]
  cases hkey : p.keyText? <;> cases hnumber : p.number? <;>
    simp_all [attentive, pipeline_empty, Placeholder.HasBoth]

/-- A word that was handed on makes a difference to an attentive placeholder without one of its own. -/
theorem not_independent (hp : p.IsSimple) (hq : q.IsSimple) (hpath : p.path ≠ conditionalPath)
    (hpath' : q.path ≠ conditionalPath) (hboth : p.HasBoth) (hown : ¬q.HasBoth)
    (hlooks : q.keyText?.isSome ∨ q.number?.isSome) : ¬Independent p q := by
  intro h
  let i := (told []).invocation
  let families : Registry Family := ⟨[(p.path, attentive), (q.path, attentive)]⟩
  have hfirst : p.family? families = some attentive := by
    simp [families, Placeholder.family?, hpath, Registry.get?, Registry.lookUp]
  have hsecond : q.family? families = some attentive := by
    simp [families, Placeholder.family?, hpath', Registry.get?, Registry.lookUp]
  have hregistered : (p.family? families).isSome := hfirst ▸ rfl
  have hregistered' : (q.family? families).isSome := hsecond ▸ rfl
  have hword : (p.handOn (.ofInvocation i)).argument.isSome := by
    rw [Placeholder.handOn, if_pos hboth, Option.isSome_map]
    exact hboth.2
  have hplain : ∀ (b : Bool), ∀ t ∈ some (Json.text (.bool b)), '$' ∉ t := by decide
  have hbefore := alone_attentive hp hfirst (.inl hboth.1) (.ofInvocation i)
  have halone := alone_attentive hq hsecond hlooks (.ofInvocation i)
  have hafter := alone_attentive hq hsecond hlooks (p.handOn (.ofInvocation i))
  have hpair := render_pair_eq hp hq hregistered hregistered' (hbefore ▸ hplain _)
  have hsame := h families .empty i hregistered hregistered' (by rw [hbefore]; exact hplain _)
    (by rw [halone]; exact hplain _) (by rw [hafter]; exact hplain _)
  rcases sideBySide_inj.mp (hpair.symm.trans hsame) with hnone | heq
  · simp [hbefore] at hnone
  · rw [hafter, halone, hword, decide_eq_false hown] at heq
    exact absurd heq (by decide)

/-- A pair of registered placeholders responds with what the first gives alone and what the second
gives after it, which is what it gives alone just if that makes no difference. Two placeholders are
independent exactly if the first leaves nothing, the second has a word of its own, or the second never
has a value. -/
theorem render_pair (hp : p.IsSimple) (hq : q.IsSimple) (hpath : p.path ≠ conditionalPath)
    (hpath' : q.path ≠ conditionalPath) :
    (∀ (families : Registry Family) (apply : FilterCaller) (ctx : Context),
      (p.family? families).isSome → (q.family? families).isSome →
      (∀ t ∈ p.alone families apply ctx, '$' ∉ t) →
      let response := (render apply ⟨p.print ++ ' ' :: q.print, families⟩ ctx).1
      response = sideBySide (p.alone families apply ctx) (q.alone families apply (p.handOn ctx)) ∧
      (response = sideBySide (p.alone families apply ctx) (q.alone families apply ctx) ↔
        p.alone families apply ctx = none ∨
          q.alone families apply (p.handOn ctx) = q.alone families apply ctx)) ∧
    (Independent p q ↔ ¬p.HasBoth ∨ q.HasBoth ∨ q.keyText? = none ∧ q.number? = none) := by
  refine ⟨fun families apply ctx hfirst hsecond hplain => ?_, fun h => ?_, fun h => ?_⟩
  · have hresponse := render_pair_eq hp hq hfirst hsecond hplain
    exact ⟨hresponse, by rw [hresponse, sideBySide_inj]⟩
  · by_contra hnot
    obtain ⟨hboth, hown, hlooks⟩ : p.HasBoth ∧ ¬q.HasBoth ∧
        (q.keyText?.isSome ∨ q.number?.isSome) := by
      simpa [not_or, Option.isSome_iff_ne_none, imp_iff_not_or] using hnot
    exact not_independent hp hq hpath hpath' hboth hown hlooks h
  · intro families filters i hfirst hsecond hplain _ _
    rw [render_pair_eq hp hq hfirst hsecond hplain]
    rcases or_assoc.mpr h with hsteady | ⟨hkey, hnumber⟩
    · rw [Placeholder.alone_handOn hq hsecond hsteady]
    · rw [alone_of_bare hq hsecond hkey hnumber, alone_of_bare hq hsecond hkey hnumber]

/-- `$(user;1:id)` -/
def namedUser : Placeholder :=
  ⟨"user".toList, some "1".toList, some (.literal "id".toList), [], []⟩

/-- `$(user;1:mention)` -/
def namedMention : Placeholder :=
  ⟨"user".toList, some "1".toList, some (.literal "mention".toList), [], []⟩

/-- `$(user:id)` -/
def unnamedUser : Placeholder := ⟨"user".toList, none, some (.literal "id".toList), [], []⟩

/-- Two placeholders with a word of their own each are independent. -/
theorem namedUser_independent_namedMention :
    namedUser.IsSimple ∧ namedMention.IsSimple ∧ namedUser.path ≠ conditionalPath ∧
      namedMention.path ≠ conditionalPath ∧ Independent namedUser namedMention ∧
      (render Filter.standard.callFilter
        ⟨"$(user;1:id) $(user;1:mention)".toList, Family.standard⟩ (told "42".toList)).1 =
          some "42 <@42>".toList := by
  have hsimple : namedUser.IsSimple ∧ namedMention.IsSimple := by decide +kernel
  have hpath : namedUser.path ≠ conditionalPath := by decide
  obtain ⟨hresponse, hindependent⟩ := render_pair hsimple.1 hsimple.2 hpath hpath
  have hpair := (hresponse Family.standard Filter.standard.callFilter (told "42".toList)
    (by decide +kernel) (by decide +kernel) (by decide +kernel)).1
  refine ⟨hsimple.1, hsimple.2, hpath, hpath, hindependent.mpr (.inr (.inl (by decide +kernel))), ?_⟩
  exact hpair.trans (by decide +kernel)

/-- A placeholder without a word of its own has no value alone, and sees the word of another one
before it. -/
theorem unnamedUser_sees_namedUser :
    namedUser.IsSimple ∧ unnamedUser.IsSimple ∧
      (namedUser.family? Family.standard).isSome ∧ (unnamedUser.family? Family.standard).isSome ∧
      namedUser.alone Family.standard Filter.standard.callFilter (told "42".toList) =
        some "42".toList ∧
      unnamedUser.alone Family.standard Filter.standard.callFilter (told "42".toList) = none ∧
      (render Filter.standard.callFilter
        ⟨namedUser.print ++ ' ' :: unnamedUser.print, Family.standard⟩ (told "42".toList)).1 =
          some "42 42".toList := by
  decide +kernel

end CommandBot.Template
