import CommandBot.Filter.Standard
import Mathlib.Tactic.Lemma

/-!
# Pipelines of filters

A pipeline goes on as long as its filters yield values. The first one that does not ends it: a filter
that fails leaves the value that reached it, and one that yields no value leaves none. So nothing from a
failing filter on matters, and neither do filters that nobody registered.
-/

namespace CommandBot

open Template (FilterCall)

/-- All filters of a pipeline yield values, each from the value of the one before it, and `v` becomes
`w`. -/
inductive Passes (apply : FilterCaller) : List FilterCall → Json → Json → Prop
  | nil (v : Json) : Passes apply [] v v
  | cons {call : FilterCall} {calls : List FilterCall} {v u w : Json} :
      apply call v = .ok (some u) → Passes apply calls u w → Passes apply (call :: calls) v w

/-- What a filter yields for the value that reaches it behind the filters of `before`. No value reaches
it unless all these yield values. -/
def Yields (apply : FilterCaller) (before : List FilterCall) (call : FilterCall) (v : Json)
    (result : Except FilterError (Option Json)) : Prop :=
  ∃ w, Passes apply before v w ∧ apply call w = result

/-- No filter of a pipeline fails on the value that reaches it. -/
def NoneFails (apply : FilterCaller) (calls : List FilterCall) (v : Json) : Prop :=
  ∀ before call after e, calls = before ++ call :: after → ¬Yields apply before call v (.error e)

variable {apply : FilterCaller} {calls before after : List FilterCall} {call : FilterCall}
  {u v w : Json}

lemma Passes.noneFails (h : Passes apply calls v w) : NoneFails apply calls v := by
  induction h with
  | nil v =>
    intro before call after e hsplit
    simp at hsplit
  | @cons call calls v u w hcall _ ih =>
    rintro before stop after e hsplit ⟨x, hbefore, hstop⟩
    -- The filter that is said to fail is the first one, or the same value reaches it past the first.
    cases hbefore with
    | nil =>
      obtain ⟨rfl, -⟩ := List.cons.inj hsplit
      simp [hcall] at hstop
    | cons hfirst hrest =>
      obtain ⟨rfl, hcalls⟩ := List.cons.inj hsplit
      obtain rfl := Option.some.inj (Except.ok.inj (hcall.symm.trans hfirst))
      exact ih _ stop after e hcalls ⟨x, hrest, hstop⟩

/-- Behind filters that pass, a pipeline goes on with the value that they made. -/
lemma Passes.pipeline_append (h : Passes apply calls v w) (more : List FilterCall) :
    pipeline apply (calls ++ more) v = pipeline apply more w := by
  induction h with
  | nil v => rfl
  | cons hcall _ ih => simp only [List.cons_append, pipeline, hcall, ih]

lemma Passes.pipeline_eq (h : Passes apply calls v w) : pipeline apply calls v = some w := by
  simpa [pipeline] using h.pipeline_append []

lemma Yields.cons {first : FilterCall} {result : Except FilterError (Option Json)}
    (h : Yields apply before call u result) (hfirst : apply first v = .ok (some u)) :
    Yields apply (first :: before) call v result := by
  obtain ⟨w, hpasses, hcall⟩ := h
  exact ⟨w, .cons hfirst hpasses, hcall⟩

lemma pipeline_of_fails {e : FilterError} (h : Yields apply before call v (.error e)) :
    pipeline apply (before ++ call :: after) v = pipeline apply before v := by
  obtain ⟨w, hpasses, hcall⟩ := h
  rw [hpasses.pipeline_append, pipeline, hcall, hpasses.pipeline_eq]

lemma pipeline_of_drops (h : Yields apply before call v (.ok none)) :
    pipeline apply (before ++ call :: after) v = none := by
  obtain ⟨w, hpasses, hcall⟩ := h
  rw [hpasses.pipeline_append, pipeline, hcall]

/-- The filters of a pipeline pass, or there is a first one that fails or yields no value. -/
lemma passes_or_stops (apply : FilterCaller) (calls : List FilterCall) (v : Json) :
    (∃ w, Passes apply calls v w) ∨
      ∃ before call after, calls = before ++ call :: after ∧
        ((∃ e, Yields apply before call v (.error e)) ∨ Yields apply before call v (.ok none)) := by
  -- For every value, since the later filters see what the first one makes of `v`.
  induction calls generalizing v with
  | nil => exact .inl ⟨v, .nil v⟩
  | cons call calls ih =>
    cases hcall : apply call v with
    | error e => exact .inr ⟨[], call, calls, rfl, .inl ⟨e, v, .nil v, hcall⟩⟩
    | ok result =>
      cases result with
      | none => exact .inr ⟨[], call, calls, rfl, .inr ⟨v, .nil v, hcall⟩⟩
      | some u =>
        rcases ih u with ⟨w, hpasses⟩ | ⟨before, stop, after, rfl, hstops⟩
        · exact .inl ⟨w, .cons hcall hpasses⟩
        · refine .inr ⟨call :: before, stop, after, rfl, ?_⟩
          exact hstops.imp (fun ⟨e, hfails⟩ => ⟨e, hfails.cons hcall⟩) (·.cons hcall)

lemma pipeline_eq_none_iff :
    pipeline apply calls v = none ↔
      ∃ before call after, calls = before ++ call :: after ∧ Yields apply before call v (.ok none) := by
  constructor
  · intro hnone
    rcases passes_or_stops apply calls v with
      ⟨w, hpasses⟩ | ⟨before, call, after, rfl, ⟨e, hfails⟩ | hdrops⟩
    · simp [hpasses.pipeline_eq] at hnone
    · rw [pipeline_of_fails hfails] at hnone
      obtain ⟨w, hpasses, -⟩ := hfails
      simp [hpasses.pipeline_eq] at hnone
    · exact ⟨before, call, after, rfl, hdrops⟩
  · rintro ⟨before, call, after, rfl, hdrops⟩
    exact pipeline_of_drops hdrops

lemma pipeline_append (h : NoneFails apply calls v) (more : List FilterCall) :
    pipeline apply (calls ++ more) v = (pipeline apply calls v).bind (pipeline apply more) := by
  rcases passes_or_stops apply calls v with
    ⟨w, hpasses⟩ | ⟨before, call, after, rfl, ⟨e, hfails⟩ | hdrops⟩
  · rw [hpasses.pipeline_append, hpasses.pipeline_eq, Option.bind_some]
  · exact absurd hfails (h before call after e rfl)
  · rw [List.append_assoc, List.cons_append, pipeline_of_drops hdrops, pipeline_of_drops hdrops,
      Option.bind_none]

variable {filters : Registry Filter}

lemma callFilter_of_unregistered (h : filters.contains call.name = false) (v : Json) :
    filters.callFilter call v = .ok (some v) := by
  have hnone : filters.get? call.name = none := by simpa [Registry.contains] using h
  rw [Registry.callFilter, hnone]

lemma pipeline_registered (filters : Registry Filter) (calls : List FilterCall) (v : Json) :
    pipeline filters.callFilter (calls.filter fun call => filters.contains call.name) v =
      pipeline filters.callFilter calls v := by
  induction calls generalizing v with
  | nil => rfl
  | cons call calls ih =>
    by_cases hcall : filters.contains call.name = true
    · rw [List.filter_cons_of_pos (by simpa using hcall)]
      simp only [pipeline, ih]
    · have hskipped : pipeline filters.callFilter (call :: calls) v =
          pipeline filters.callFilter calls v := by
        simp only [pipeline, callFilter_of_unregistered (by simpa using hcall)]
      rw [List.filter_cons_of_neg (by simpa using hcall), hskipped, ih]

/-- A pipeline gives the same without the filters that nobody registered, and up to the first filter
that fails on the value reaching it. It has the value that all its filters make, and none exactly if one
of them yields none. A pipeline of which no filter fails can be continued from its result. -/
theorem pipeline_laws (filters : Registry Filter) (calls : List FilterCall) (v : Json) :
    pipeline filters.callFilter (calls.filter fun call => filters.contains call.name) v =
        pipeline filters.callFilter calls v ∧
      (∀ before call after e, calls = before ++ call :: after →
        Yields filters.callFilter before call v (.error e) →
        pipeline filters.callFilter calls v = pipeline filters.callFilter before v) ∧
      (∀ w, Passes filters.callFilter calls v w → pipeline filters.callFilter calls v = some w) ∧
      (pipeline filters.callFilter calls v = none ↔
        ∃ before call after, calls = before ++ call :: after ∧
          Yields filters.callFilter before call v (.ok none)) ∧
      (NoneFails filters.callFilter calls v → ∀ more,
        pipeline filters.callFilter (calls ++ more) v =
          (pipeline filters.callFilter calls v).bind (pipeline filters.callFilter more)) := by
  refine ⟨pipeline_registered filters calls v, ?_, fun w h => h.pipeline_eq, pipeline_eq_none_iff,
    pipeline_append⟩
  rintro before call after e rfl hfails
  exact pipeline_of_fails hfails

/-- A filter of each outcome. -/
def trials : Registry Filter := .ofList
  [("upper".toList, Filter.onText Text.upper), ("drop".toList, fun _ _ => .ok none),
   ("explode".toList, fun _ _ => .error (.custom "boom"))]

/-- A filter that is registered and one that is not. -/
def shout : List FilterCall := [⟨"upper".toList, none⟩, ⟨"unknown".toList, some "1".toList⟩]

/-- A failing filter keeps what the filters before it made, and the one after it is not run; without the
failing one, that one leaves nothing. -/
theorem explosion_keeps_value :
    Passes trials.callFilter shout (.string "Mixed".toList) (.string "MIXED".toList) ∧
      Yields trials.callFilter shout ⟨"explode".toList, none⟩ (.string "Mixed".toList)
        (.error (.custom "boom")) ∧
      pipeline trials.callFilter (shout ++ [⟨"explode".toList, none⟩, ⟨"drop".toList, none⟩])
        (.string "Mixed".toList) = some (.string "MIXED".toList) ∧
      NoneFails trials.callFilter shout (.string "Mixed".toList) ∧
      pipeline trials.callFilter (shout ++ [⟨"drop".toList, none⟩]) (.string "Mixed".toList) =
        none := by
  have hpasses : Passes trials.callFilter shout (.string "Mixed".toList) (.string "MIXED".toList) :=
    .cons rfl (.cons rfl (.nil _))
  have hfails : Yields trials.callFilter shout ⟨"explode".toList, none⟩ (.string "Mixed".toList)
      (.error (.custom "boom")) := ⟨_, hpasses, rfl⟩
  have hlaws := fun calls => pipeline_laws trials calls (.string "Mixed".toList)
  obtain ⟨-, -, hvalue, -, hcontinue⟩ := hlaws shout
  refine ⟨hpasses, hfails, ?_, hpasses.noneFails, ?_⟩
  · exact ((hlaws _).2.1 _ _ _ _ rfl hfails).trans (hvalue _ hpasses)
  · rw [hcontinue hpasses.noneFails, hvalue _ hpasses]
    rfl

end CommandBot
