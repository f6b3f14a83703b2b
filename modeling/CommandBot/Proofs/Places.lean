import CommandBot.Proofs.TableHistory
import CommandBot.Proofs.Triggers

/-!
# Triggers and places

A command that is added under a free alias gets a place at the end of the table, and keeps it. A trigger
is bound once, and then for good: to the place of the first command that was added under it. So a table
has as many places as there were additions that found a free alias, and no place is without a trigger.
-/

namespace CommandBot

lemma Registry.contains_of_mem {α : Type} {r : Registry α} {entry : Text × α}
    (h : entry ∈ r.entries) : r.contains entry.1 = true := by
  obtain ⟨before, after, hsplit⟩ := List.append_of_mem h
  simp [contains, get?, hsplit, lookUp_append, lookUp]

namespace CommandTable

/-- Every trigger is in normal form and bound to a place that has a command, and every place has a
trigger. -/
structure WellFormed (t : CommandTable) : Prop where
  placed : t.Placed
  invoked : ∀ i < t.size, ∃ x, t.triggers.get? x = some i
  normal : ∀ x, t.triggers.contains x = true → x ≠ [] ∧ x.trim = x ∧ x.lower = x

/-- A trigger that is free in one table is bound in another. -/
def BindsMore (t u : CommandTable) : Prop :=
  ∃ x, t.triggers.contains x = false ∧ u.triggers.contains x = true

lemma bindsMore_iff_entries {t u : CommandTable} :
    t.BindsMore u ↔ ∃ entry ∈ u.triggers.entries, t.triggers.contains entry.1 = false := by
  constructor
  · rintro ⟨x, hfree, hbound⟩
    obtain ⟨i, hi⟩ := (Registry.contains_iff _ _).mp hbound
    exact ⟨(x, i), Registry.mem_of_lookUp hi, hfree⟩
  · rintro ⟨⟨x, i⟩, hmem, hfree⟩
    exact ⟨x, hfree, Registry.contains_of_mem hmem⟩

instance (t u : CommandTable) : Decidable (t.BindsMore u) :=
  decidable_of_iff _ bindsMore_iff_entries.symm

/-- The number of additions in a history of a table that bind a trigger which was free. -/
def bindings (t : CommandTable) : List Change → Nat
  | [] => 0
  | .reset :: history => t.reset.bindings history
  | .add row :: history =>
    match t.add row.1 row.2 with
    | .error _ => 0
    | .ok u => (if t.BindsMore u then 1 else 0) + u.bindings history

/-- What becomes of the triggers and the places of a table `t` in a history that ends with `u`. -/
structure Grows (t : CommandTable) (history : List Change) (u : CommandTable) : Prop where
  kept : ∀ x i, t.triggers.get? x = some i → u.triggers.get? x = some i
  bound : ∀ x, u.triggers.contains x = true ↔
    t.triggers.contains x = true ∨ x ∈ listed (added history)
  size : u.size = t.size + t.bindings history

variable {t t' u : CommandTable} {c : Command} {names : List Text} {x : Text} {i : Nat}

lemma Added.get?_of_bound (h : Added t c names t') (hx : t.triggers.get? x = some i) :
    t'.triggers.get? x = some i := by
  rw [h.triggers, hx, Option.some_or]

lemma Added.get?_of_free (h : Added t c names t') (hx : t.triggers.contains x = false)
    (hmem : x ∈ names) : t'.triggers.get? x = some t.size := by
  rw [h.triggers, contains_eq_false_iff.mp hx, Option.none_or, if_pos hmem]

lemma Added.bindsMore_iff (h : Added t c names t') :
    t.BindsMore t' ↔ names.all t.triggers.contains = false := by
  rw [List.all_eq_false]
  constructor
  · rintro ⟨x, hfree, hbound⟩
    rcases (h.contains_iff x).mp hbound with hold | hmem
    · simp [hfree] at hold
    · exact ⟨x, hmem, by simp [hfree]⟩
  · rintro ⟨x, hmem, hfree⟩
    exact ⟨x, by simpa using hfree, (h.contains_iff x).mpr (.inr hmem)⟩

lemma Added.size_eq (h : Added t c names t') :
    t'.size = t.size + if t.BindsMore t' then 1 else 0 := by
  simp only [h.size, h.bindsMore_iff]
  cases names.all t.triggers.contains <;> rfl

lemma size_reset (t : CommandTable) : t.reset.size = t.size :=
  List.length_map _

lemma WellFormed.empty : empty.WellFormed where
  placed := Reachable.empty.placed
  invoked i hi := absurd hi (Nat.not_lt_zero i)
  normal x hx := by simp [CommandTable.empty, Registry.contains] at hx

lemma WellFormed.reset (ht : t.WellFormed) : t.reset.WellFormed where
  placed := ht.placed.reset
  invoked i hi := ht.invoked i (t.size_reset ▸ hi)
  normal := ht.normal

theorem WellFormed.add {aliasList : Text} (ht : t.WellFormed)
    (h : Added t c (aliases aliasList) t') : t'.WellFormed where
  placed := h.placed ht.placed
  invoked i hi := by
    rcases h.place_cases hi with ⟨old, hold⟩ | ⟨rfl, hnew⟩
    · obtain ⟨x, hx⟩ := ht.invoked i (List.getElem?_eq_some_iff.mp hold).1
      exact ⟨x, h.get?_of_bound hx⟩
    -- The new place has the alias that was free.
    · obtain ⟨x, hmem, hfree⟩ := List.all_eq_false.mp hnew
      exact ⟨x, h.get?_of_free (by simpa using hfree) hmem⟩
  normal x hx := by
    rcases (h.contains_iff x).mp hx with hold | hmem
    · exact ht.normal x hold
    · obtain ⟨hne, htrimmed, hlower⟩ := normal_of_mem_aliases hmem
      exact ⟨hne, Text.trim_eq_self_iff.mpr htrimmed, hlower⟩

namespace Grows

variable {history : List Change} {row : Row}

lemma nil (t : CommandTable) : Grows t [] t where
  kept _ _ hx := hx
  bound x := by simp [listed, added]
  size := rfl

lemma add_cons (h : Grows t' history u) (hadd : t.add row.1 row.2 = .ok t')
    (hadded : Added t row.2 (aliases row.1) t') : Grows t (.add row :: history) u where
  kept x i hx := h.kept x i (hadded.get?_of_bound hx)
  bound x := by
    have hlisted : listed (added (.add row :: history)) = aliases row.1 ++ listed (added history) :=
      listed_cons row (added history)
    rw [h.bound, hadded.contains_iff, hlisted, List.mem_append, or_assoc]
  size := by
    simp only [h.size, hadded.size_eq, bindings, hadd, Nat.add_assoc]

lemma reset_cons (h : Grows t.reset history u) : Grows t (.reset :: history) u where
  kept := h.kept
  bound := h.bound
  size := by
    rw [h.size, size_reset, bindings]

end Grows

/-- A history of changes keeps a table well-formed, and lets it grow. -/
theorem WellFormed.replay {history : List Change} (ht : t.WellFormed)
    (hrun : t.replay history = .ok u) : u.WellFormed ∧ Grows t history u := by
  induction history generalizing t with
  | nil =>
    obtain rfl : t = u := Except.ok.inj hrun
    exact ⟨ht, .nil t⟩
  | cons change history ih =>
    obtain ⟨s, hstep, hrest⟩ := exists_of_bind_eq_ok hrun
    -- Only tables whose triggers have a place can be added to, so both facts go through together.
    cases change with
    | add row =>
      have hadded : Added t row.2 (aliases row.1) s := added_of_add ht.placed hstep
      obtain ⟨hu, hgrows⟩ := ih (ht.add hadded) hrest
      exact ⟨hu, hgrows.add_cons hstep hadded⟩
    | reset =>
      obtain rfl : t.reset = s := Except.ok.inj hstep
      obtain ⟨hu, hgrows⟩ := ih ht.reset hrest
      exact ⟨hu, hgrows.reset_cons⟩

/-- Whatever was added and reset, every trigger is in normal form and bound to a place that has a
command, every place has a trigger, and there are as many places as additions that bound a free
trigger. The triggers are the aliases that were listed, and each keeps its place in all that
follows. -/
theorem replay_wellFormed {history more : List Change} (hrun : empty.replay history = .ok t)
    (hmore : t.replay more = .ok u) :
    t.WellFormed ∧ t.size = empty.bindings history ∧
      (∀ x, t.triggers.contains x = true ↔ x ∈ listed (added history)) ∧
      ∀ x i, t.triggers.get? x = some i → u.triggers.get? x = some i := by
  obtain ⟨ht, hgrows⟩ := WellFormed.empty.replay hrun
  obtain ⟨-, hlater⟩ := ht.replay hmore
  refine ⟨ht, ?_, fun x => ?_, hlater.kept⟩
  · rw [hgrows.size]
    exact Nat.zero_add _
  · have hnone : empty.triggers.contains x = false := rfl
    simp [hgrows.bound, hnone]

/-- One addition finds both its triggers free and one finds one of them free; what comes later binds
none. -/
theorem quotes_keep_places :
    ∃ t u, empty.replay [.add quotes, .add moreQuotes, .reset] = .ok t ∧
      t.replay [.add lateQuotes, .add plainQuote] = .ok u ∧ t.WellFormed ∧ t.size = 2 ∧
      u.triggers.get? "q".toList = some 0 ∧ u.triggers.get? "say".toList = some 1 := by
  obtain ⟨t, u, hrun, hmore, hq, hsay⟩ : ∃ t u,
      empty.replay [.add quotes, .add moreQuotes, .reset] = .ok t ∧
        t.replay [.add lateQuotes, .add plainQuote] = .ok u ∧
        t.triggers.get? "q".toList = some 0 ∧ t.triggers.get? "say".toList = some 1 :=
    ⟨_, _, rfl, rfl, by decide, by decide⟩
  obtain ⟨ht, hsize, -, hkept⟩ := replay_wellFormed hrun hmore
  exact ⟨t, u, hrun, hmore, ht, hsize.trans (by decide +kernel), hkept _ _ hq, hkept _ _ hsay⟩

end CommandTable

end CommandBot
