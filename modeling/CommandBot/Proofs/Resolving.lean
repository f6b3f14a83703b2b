import CommandBot.Proofs.ReplacingInTurn
import CommandBot.Template.Render

/-!
# Resolving a table

Filling a text in resolves the substitutions of a table one after the other, and hands the context
on. If none of them sees a difference that another one makes in the context, each resolves as it
would alone: the text is left out if one of them has no value, and is otherwise worked off in turn
with their values.
-/

namespace CommandBot.Template

variable {apply : FilterCaller}

/-- What a substitution is replaced by in a context, if it has a value. -/
def Substitution.text? (apply : FilterCaller) (s : Substitution) (ctx : Context) : Option Text :=
  match s.slot.parameter ctx with
  | (none, _) => none
  | (some parameter, ctx) =>
    ((s.resolve apply parameter ctx).1.bind (pipeline apply s.slot.filters)).map Json.text

/-- The context that a substitution hands on. -/
def Substitution.after (apply : FilterCaller) (s : Substitution) (ctx : Context) : Context :=
  match s.slot.parameter ctx with
  | (none, ctx) => ctx
  | (some parameter, ctx) => (s.resolve apply parameter ctx).2

lemma fillTable_cons (s : Substitution) (rest : List Substitution) (t : Text) (ctx : Context) :
    fillTable apply (s :: rest) t ctx =
      match s.text? apply ctx with
      | none => (none, s.after apply ctx)
      | some value =>
        fillTable apply rest (t.replaceAll s.slot.needle value) (s.after apply ctx) := by
  rw [fillTable, Substitution.text?, Substitution.after]
  cases s.slot.parameter ctx with
  | mk parameter ctx =>
    cases parameter with
    | none => rfl
    | some parameter =>
      simp only
      cases s.resolve apply parameter ctx with
      | mk value ctx =>
        cases value with
        | none => rfl
        | some value =>
          simp only [Option.bind_some]
          cases pipeline apply s.slot.filters value <;> rfl

lemma Slot.invocation_parameter (slot : Slot) (ctx : Context) :
    (slot.parameter ctx).2.invocation = ctx.invocation := by
  rw [Slot.parameter]
  split <;> rfl

mutual

theorem Substitution.invocation_resolve : (s : Substitution) → (parameter : Text) →
    (ctx : Context) → (s.resolve apply parameter ctx).2.invocation = ctx.invocation
  | .variable _ _, _, _ => by rw [Substitution.resolve]
  | .conditional _ condition whenTrue whenFalse, _, ctx => by
    have hcondition := condition.invocation_holds ctx
    rw [Substitution.resolve]
    cases h : condition.holds apply ctx with
    | mk holds after =>
      rw [h] at hcondition
      cases holds with
      | true => exact (whenTrue.invocation_fill after).trans hcondition
      | false => exact (whenFalse.invocation_fill after).trans hcondition

theorem Condition.invocation_holds : (c : Condition) → (ctx : Context) →
    (c.holds apply ctx).2.invocation = ctx.invocation
  | .argument _, _ => by rw [Condition.holds]
  | .variable s, ctx => by
    have hslot := s.slot.invocation_parameter ctx
    rw [Condition.holds]
    cases h : s.slot.parameter ctx with
    | mk parameter after =>
      rw [h] at hslot
      cases parameter with
      | none => exact hslot
      | some parameter => exact (s.invocation_resolve parameter after).trans hslot

theorem Response.invocation_fill : (r : Response) → (ctx : Context) →
    (r.fill apply ctx).2.invocation = ctx.invocation
  | ⟨text, table⟩, ctx => by
    rw [Response.fill]
    exact invocation_fillTable table text ctx

/-- Filling a table in leaves the invocation as it is. -/
theorem invocation_fillTable : (table : List Substitution) → (t : Text) → (ctx : Context) →
    (fillTable apply table t ctx).2.invocation = ctx.invocation
  | [], _, _ => by rw [fillTable]
  | s :: rest, t, ctx => by
    have hslot := s.slot.invocation_parameter ctx
    rw [fillTable]
    cases h : s.slot.parameter ctx with
    | mk parameter after =>
      rw [h] at hslot
      cases parameter with
      | none => exact hslot
      | some parameter =>
        have hresolve := (s.invocation_resolve parameter after).trans hslot
        simp only
        cases h : s.resolve apply parameter after with
        | mk value after =>
          rw [h] at hresolve
          cases value with
          | none => exact hresolve
          | some value =>
            simp only
            split
            · exact hresolve
            · exact (invocation_fillTable rest _ after).trans hresolve

end

/-- The response of a template is its text with its table filled in, and then its positional
placeholders. -/
lemma render_fst (t : Template) (ctx : Context) :
    (t.render apply ctx).1 =
      (fillTable apply (substitutions t.families t.text) t.text ctx).1.map
        (fillPositionals ctx.invocation.message (positionalTable t.text)) := by
  have hinvocation : (fillTable apply (substitutions t.families t.text) t.text ctx).2.invocation =
      ctx.invocation := invocation_fillTable _ _ _
  rw [render, ← hinvocation]

/-- No substitution of a table sees a difference that another one makes in the context. -/
def Steady (apply : FilterCaller) (table : List Substitution) (ctx : Context) : Prop :=
  ∀ s ∈ table, ∀ s' ∈ table, s'.text? apply (s.after apply ctx) = s'.text? apply ctx ∧
    s'.after apply (s.after apply ctx) = s'.after apply ctx

variable {table : List Substitution} {ctx : Context}

lemma Steady.tail {s : Substitution} (h : Steady apply (s :: table) ctx) :
    Steady apply table (s.after apply ctx) := by
  intro s' hs' s'' hs''
  have hmem' := List.mem_cons_of_mem s hs'
  have hmem'' := List.mem_cons_of_mem s hs''
  obtain ⟨-, hafter'⟩ := h s List.mem_cons_self s' hmem'
  obtain ⟨htext, hafter⟩ := h s List.mem_cons_self s'' hmem''
  obtain ⟨htext', hafter''⟩ := h s' hmem' s'' hmem''
  rw [hafter', htext, hafter]
  exact ⟨htext', hafter''⟩

/-- The needles of a table with what they are replaced by. -/
def replacements (apply : FilterCaller) (ctx : Context) (table : List Substitution) :
    List (Text × Text) :=
  table.map fun s => (s.slot.needle, (s.text? apply ctx).getD [])

/-- Filling in by a steady table leaves the text out if a substitution has no value by itself, and
otherwise works the table off with the values that they have by themselves. -/
theorem Steady.fillTable_fst (h : Steady apply table ctx) (t : Text) :
    (fillTable apply table t ctx).1 =
      if table.all fun s => (s.text? apply ctx).isSome then
        some (Text.replaceInTurn (replacements apply ctx table) t)
      else none := by
  induction table generalizing t ctx with
  | nil => rw [fillTable]; rfl
  | cons s table ih =>
    -- What follows resolves in the context after `s` as it does in `ctx`.
    have hsame : ∀ s' ∈ table, s'.text? apply (s.after apply ctx) = s'.text? apply ctx :=
      fun s' hs' => (h s List.mem_cons_self s' (List.mem_cons_of_mem s hs')).1
    have hall : (table.all fun s' => (s'.text? apply (s.after apply ctx)).isSome) =
        table.all fun s' => (s'.text? apply ctx).isSome := by
      rw [Bool.eq_iff_iff, List.all_eq_true, List.all_eq_true]
      exact forall₂_congr fun s' hs' => by rw [hsame s' hs']
    have hreplacements : replacements apply (s.after apply ctx) table =
        replacements apply ctx table :=
      List.map_congr_left fun s' hs' => by rw [hsame s' hs']
    rw [fillTable_cons, List.all_cons]
    cases hs : s.text? apply ctx with
    | none => rfl
    | some value =>
      simp only [ih h.tail, hall, hreplacements, Option.isSome_some, Bool.true_and]
      simp [replacements, hs, Text.replaceInTurn]

end CommandBot.Template
