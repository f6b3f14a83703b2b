import CommandBot.Proofs.TableLoading
import Mathlib.Data.List.Induction

/-!
# What a history makes of a table

A trigger belongs to the first row that lists it. The row's command stands at the place of the
triggers that belong to the row, and has absorbed the commands of the later rows that list one of
them. A row that no trigger belongs to has no place. Resetting makes the commands forget what they
have absorbed.
-/

namespace CommandBot

/-- A list of aliases with the command that goes by them. -/
abbrev Row := Text × Command

/-- A command after the commands of some rows were added under its triggers, in order. -/
def Command.extend (c : Command) (rows : List Row) : Command :=
  rows.foldl (fun c row => c.absorb row.2) c

lemma Command.extend_append_singleton (c : Command) (rows : List Row) (row : Row) :
    c.extend (rows ++ [row]) = (c.extend rows).absorb row.2 := by
  rw [extend, List.foldl_append]
  rfl

/-- The child that a command has for an alias, if it is a menu. -/
def Command.child? (c : Command) (name : Text) : Option Command :=
  match c.action with
  | .menu m => m.live.get? name
  | .leaf _ => none

def Command.IsMenu (c : Command) : Prop := ∃ m, c.action = .menu m

namespace Command

variable {c : Command}

lemma Agrees.child?_eq {d : Command} (h : c.Agrees d) (name : Text) : c.child? name = d.child? name := by
  obtain ⟨level, action, description⟩ := c
  obtain ⟨level', action', description'⟩ := d
  obtain ⟨-, haction, -⟩ := h
  cases haction with
  | leaf l => rfl
  | menu hmenu => exact hmenu.live name

lemma absorb_of_leaf {l : Leaf} (h : c.action = .leaf l) (new : Command) : c.absorb new = c := by
  simp only [absorb, h]

lemma level_absorb (c new : Command) : (c.absorb new).level = c.level := by
  rw [absorb]
  split <;> rfl

lemma IsMenu.absorb (h : c.IsMenu) (new : Command) : (c.absorb new).IsMenu := by
  obtain ⟨m, hm⟩ := h
  cases hnew : new.action with
  | leaf l => exact ⟨m, by simp only [Command.absorb, hm, hnew]⟩
  | menu extra => exact ⟨m.merge extra, by simp only [Command.absorb, hm, hnew]⟩

/-- The children of a menu that is absorbed come before the old ones. -/
lemma IsMenu.child?_absorb (h : c.IsMenu) (new : Command) (name : Text) :
    (c.absorb new).child? name = (new.child? name).or (c.child? name) := by
  obtain ⟨m, hm⟩ := h
  cases hnew : new.action with
  | leaf l => simp only [Command.absorb, child?, hm, hnew, Option.none_or]
  | menu extra =>
    simp only [Command.absorb, child?, hm, hnew, Menu.merge, Registry.get?_overlay]

lemma extend_of_leaf {l : Leaf} (h : c.action = .leaf l) (rows : List Row) : c.extend rows = c := by
  induction rows using List.reverseRecOn with
  | nil => rfl
  | append_singleton rows row ih => rw [extend_append_singleton, ih, absorb_of_leaf h]

lemma level_extend (c : Command) (rows : List Row) : (c.extend rows).level = c.level := by
  induction rows using List.reverseRecOn with
  | nil => rfl
  | append_singleton rows row ih => rw [extend_append_singleton, level_absorb, ih]

lemma IsMenu.extend (h : c.IsMenu) (rows : List Row) : (c.extend rows).IsMenu := by
  induction rows using List.reverseRecOn with
  | nil => exact h
  | append_singleton rows row ih =>
    rw [extend_append_singleton]
    exact ih.absorb row.2

end Command

/-- The last row with a child for an alias, and that child. -/
def provider? (rows : List Row) (name : Text) : Option (Row × Command) :=
  rows.reverse.findSome? fun row => (row.2.child? name).map (row, ·)

lemma provider?_append_singleton (rows : List Row) (row : Row) (name : Text) :
    provider? (rows ++ [row]) name =
      ((row.2.child? name).map (row, ·)).or (provider? rows name) := by
  rw [provider?, List.reverse_append, List.reverse_singleton, List.singleton_append,
    List.findSome?_cons]
  cases row.2.child? name <;> rfl

lemma mem_of_provider? {rows : List Row} {name : Text} {source : Row} {c : Command}
    (h : provider? rows name = some (source, c)) :
    source ∈ rows ∧ source.2.child? name = some c := by
  obtain ⟨row, hrow, hchild⟩ := List.exists_of_findSome?_eq_some h
  obtain ⟨d, hd, hpair⟩ := Option.map_eq_some_iff.mp hchild
  obtain ⟨rfl, rfl⟩ := Prod.mk.inj hpair
  exact ⟨List.mem_reverse.mp hrow, hd⟩

/-- A menu into which others were merged has the child of the last one that has one. -/
lemma Command.IsMenu.child?_extend {owner : Row} (h : owner.2.IsMenu) (rows : List Row)
    (name : Text) :
    (owner.2.extend rows).child? name = (provider? (owner :: rows) name).map Prod.snd := by
  induction rows using List.reverseRecOn with
  | nil =>
    have hsingle : provider? [owner] name = (owner.2.child? name).map (owner, ·) := by
      rw [← List.nil_append [owner], provider?_append_singleton]
      exact Option.or_none
    have hempty : owner.2.extend [] = owner.2 := rfl
    rw [hsingle, hempty]
    cases owner.2.child? name <;> rfl
  | append_singleton rows row ih =>
    rw [extend_append_singleton, (h.extend rows).child?_absorb, ih, ← List.cons_append,
      provider?_append_singleton]
    cases row.2.child? name <;> rfl

/-- A command of which nothing has been merged into its menu. -/
def Command.IsFresh (c : Command) : Prop := c.reset = c

namespace Command

lemma reset_absorb (c new : Command) : (c.absorb new).reset = c.reset := by
  obtain ⟨level, action, description⟩ := c
  cases action with
  | leaf l => rfl
  | menu m =>
    cases hnew : new.action with
    | leaf l => simp only [absorb, hnew]
    | menu extra =>
      simp only [absorb, hnew, reset, Action.reset]
      rw [Menu.reset_merge]

lemma reset_extend (c : Command) (rows : List Row) : (c.extend rows).reset = c.reset := by
  induction rows using List.reverseRecOn with
  | nil => rfl
  | append_singleton rows row ih => rw [extend_append_singleton, reset_absorb, ih]

lemma Agrees.reset {c d : Command} (h : c.Agrees d) : c.reset.Agrees d.reset := by
  obtain ⟨level, action, description⟩ := c
  obtain ⟨level', action', description'⟩ := d
  obtain ⟨rfl, haction, rfl⟩ := h
  cases haction with
  | leaf l => exact .refl _
  | menu hmenu =>
    exact ⟨rfl, .menu ⟨hmenu.initial, hmenu.initial, hmenu.default, hmenu.fallback⟩, rfl⟩

end Command

namespace CommandTable

/-- A row owns the aliases that it lists and no row before it does. -/
def Owns (earlier : List Row) (row : Row) (x : Text) : Prop := x ∈ aliases row.1 ∧ x ∉ listed earlier

instance (earlier : List Row) (row : Row) (x : Text) : Decidable (Owns earlier row x) :=
  inferInstanceAs (Decidable (_ ∧ _))

/-- The later rows that list an alias that a row owns. -/
def extensions (earlier : List Row) (row : Row) (later : List Row) : List Row :=
  later.filter fun other => (aliases other.1).any fun x => decide (Owns earlier row x)

lemma extensions_append_singleton (earlier : List Row) (row : Row) (later : List Row) (last : Row) :
    extensions earlier row (later ++ [last]) = extensions earlier row later ++
      if (aliases last.1).any fun x => decide (Owns earlier row x) then [last] else [] := by
  rw [extensions, List.filter_append, List.filter_singleton, Bool.cond_eq_ite]
  rfl

lemma listed_append (rows more : List Row) : listed (rows ++ more) = listed rows ++ listed more :=
  List.flatMap_append

lemma listed_append_singleton (rows : List Row) (row : Row) :
    listed (rows ++ [row]) = listed rows ++ aliases row.1 := by
  rw [listed_append, listed_cons]
  simp [listed]

/-- Every listed alias belongs to a row. -/
lemma exists_owner {rows : List Row} {x : Text} (h : x ∈ listed rows) :
    ∃ earlier row later, rows = earlier ++ row :: later ∧ Owns earlier row x := by
  induction rows using List.reverseRecOn with
  | nil => simp [listed] at h
  -- From the end, since the first row that lists the alias is wanted.
  | append_singleton rows row ih =>
    by_cases hx : x ∈ listed rows
    · obtain ⟨earlier, owner, later, rfl, howns⟩ := ih hx
      exact ⟨earlier, owner, later ++ [row], by simp, howns⟩
    · rw [listed_append_singleton, List.mem_append] at h
      exact ⟨rows, row, [], rfl, h.resolve_left hx, hx⟩

/-! ### Histories -/

/-- A change of a table. -/
inductive Change where
  | add (row : Row)
  | reset

/-- The row that a change adds, if it adds one. -/
def Change.row? : Change → Option Row
  | .add row => some row
  | .reset => none

/-- The table after a change. -/
def perform (t : CommandTable) : Change → Except AddError CommandTable
  | .add row => t.add row.1 row.2
  | .reset => .ok t.reset

/-- The table after a history of changes. -/
def replay (t : CommandTable) (history : List Change) : Except AddError CommandTable :=
  history.foldlM perform t

/-- The rows that a history adds. -/
def added (history : List Change) : List Row := history.filterMap Change.row?

/-- The rows that a history adds after its last reset. -/
def sinceReset (history : List Change) : List Row :=
  history.foldl (fun rows change => match change with
    | .add row => rows ++ [row]
    | .reset => []) []

lemma added_append_add (history : List Change) (row : Row) :
    added (history ++ [.add row]) = added history ++ [row] := by
  simp [added, Change.row?]

lemma added_append_reset (history : List Change) : added (history ++ [.reset]) = added history := by
  simp [added, Change.row?]

lemma added_map_add (rows : List Row) : added (rows.map .add) = rows := by
  simp [added, List.filterMap_map, Function.comp_def, Change.row?]

lemma sinceReset_append_add (history : List Change) (row : Row) :
    sinceReset (history ++ [.add row]) = sinceReset history ++ [row] := by
  rw [sinceReset, List.foldl_append]
  rfl

lemma sinceReset_append_reset (history : List Change) : sinceReset (history ++ [.reset]) = [] := by
  rw [sinceReset, List.foldl_append]
  rfl

lemma sinceReset_map_add (rows : List Row) : sinceReset (rows.map .add) = rows := by
  induction rows using List.reverseRecOn with
  | nil => rfl
  | append_singleton rows row ih =>
    rw [List.map_append, List.map_singleton, sinceReset_append_add, ih]

lemma replay_cons (t : CommandTable) (change : Change) (history : List Change) :
    t.replay (change :: history) = (t.perform change).bind (·.replay history) := rfl

lemma replay_map_add (t : CommandTable) (rows : List Row) :
    t.replay (rows.map .add) = t.addRows rows := by
  rw [replay, List.foldlM_map]
  rfl

/-- The rows of a history that own a trigger have fresh commands. -/
def FreshOwners (history : List Change) : Prop :=
  ∀ before row after, history = before ++ .add row :: after → (∃ x, Owns (added before) row x) →
    row.2.IsFresh

lemma FreshOwners.of_append {history more : List Change} (h : FreshOwners (history ++ more)) :
    FreshOwners history := by
  intro before row after hhistory
  exact h before row (after ++ more) (by rw [hhistory]; simp)

/-- The table after a history of changes to the empty one. -/
structure Recorded (history : List Change) (t : CommandTable) : Prop where
  placed : t.Placed
  bound : ∀ x, t.triggers.contains x = true ↔ x ∈ listed (added history)
  owners : ∀ before row after, history = before ++ .add row :: after →
    (∃ x, Owns (added before) row x) →
    ∃ i c, (∀ x, t.triggers.get? x = some i ↔ Owns (added before) row x) ∧ t.commands[i]? = some c ∧
      c.Agrees (row.2.extend (extensions (added before) row (sinceReset after)))

namespace Recorded

variable {history : List Change} {t t' : CommandTable} {row : Row}

lemma empty : Recorded [] .empty where
  placed := Reachable.empty.placed
  bound x := by simp [CommandTable.empty, Registry.contains, listed, added]
  owners before row after h := by simp at h

lemma get?_eq_none_iff (h : Recorded history t) {x : Text} :
    t.triggers.get? x = none ↔ x ∉ listed (added history) := by
  rw [← h.bound, Bool.not_eq_true, contains_eq_false_iff]

/-- The new row owns what no row before it lists. -/
lemma owners_last (h : Recorded history t) (hadded : Added t row.2 (aliases row.1) t')
    (howns : ∃ x, Owns (added history) row x) :
    ∃ i c, (∀ x, t'.triggers.get? x = some i ↔ Owns (added history) row x) ∧
      t'.commands[i]? = some c ∧ c.Agrees row.2 := by
  refine ⟨t.size, row.2, fun x => ?_, hadded.last ?_, .refl _⟩
  · rw [hadded.triggers, Owns]
    cases hx : t.triggers.get? x with
    | none =>
      have hfree := h.get?_eq_none_iff.mp hx
      simp [hfree]
    | some j =>
      have hlisted : ¬x ∉ listed (added history) := fun hfree => by
        simp [h.get?_eq_none_iff.mpr hfree] at hx
      have hj : j ≠ t.size := Nat.ne_of_lt (h.placed x j hx)
      simp [hj, hlisted]
  · obtain ⟨x, hx, hfree⟩ := howns
    refine List.all_eq_false.mpr ⟨x, hx, ?_⟩
    rwa [h.bound]

/-- An old row keeps its place, and its command absorbs the new one if that lists one of its
aliases. -/
lemma owners_old (h : Recorded history t) (hadded : Added t row.2 (aliases row.1) t')
    {before after : List Change} {old : Row} (hhistory : history = before ++ .add old :: after)
    (howns : ∃ x, Owns (added before) old x) :
    ∃ i c, (∀ x, t'.triggers.get? x = some i ↔ Owns (added before) old x) ∧
      t'.commands[i]? = some c ∧
      c.Agrees (old.2.extend (extensions (added before) old (sinceReset after ++ [row]))) := by
  obtain ⟨i, c, hplace, hc, hagrees⟩ := h.owners before old after hhistory howns
  obtain ⟨new, hnew, hgrown⟩ := hadded.commands i c hc
  have hi : i ≠ t.size := Nat.ne_of_lt (List.getElem?_eq_some_iff.mp hc).1
  refine ⟨i, new, fun x => ?_, hnew, hgrown.trans ?_⟩
  · rw [hadded.triggers, ← hplace]
    cases t.triggers.get? x with
    | some j => rfl
    | none => simp [Ne.symm hi]
  · have hany : (aliases row.1).any (t.triggers.get? · == some i) =
        (aliases row.1).any fun x => decide (Owns (added before) old x) := by
      rw [Bool.eq_iff_iff]
      simp [hplace]
    rw [grown, hany, extensions_append_singleton]
    split
    · rw [Command.extend_append_singleton]
      exact hagrees.absorb row.2
    · rw [List.append_nil]
      exact hagrees

theorem add (h : Recorded history t) (hadded : Added t row.2 (aliases row.1) t') :
    Recorded (history ++ [.add row]) t' where
  placed := hadded.placed h.placed
  bound x := by
    rw [hadded.contains_iff, h.bound, added_append_add, listed_append_singleton, List.mem_append]
  owners before old after hhistory howns := by
    -- The split is at the new row, or the new row is the last of the later changes.
    rcases List.eq_nil_or_concat after with rfl | ⟨after, last, rfl⟩
    · obtain ⟨rfl, hlast⟩ := List.append_inj' hhistory rfl
      obtain rfl : row = old := by simpa using hlast
      exact h.owners_last hadded howns
    · rw [List.concat_eq_append, ← List.cons_append, ← List.append_assoc] at hhistory
      obtain ⟨rfl, hlast⟩ := List.append_inj' hhistory rfl
      obtain rfl : .add row = last := by simpa using hlast
      rw [List.concat_eq_append, sinceReset_append_add]
      exact h.owners_old hadded rfl howns

theorem reset (h : Recorded history t) (hfresh : FreshOwners history) :
    Recorded (history ++ [.reset]) t.reset where
  placed := h.placed.reset
  bound x := by
    rw [added_append_reset]
    exact h.bound x
  owners before old after hhistory howns := by
    rcases List.eq_nil_or_concat after with rfl | ⟨after, last, rfl⟩
    · obtain ⟨-, hlast⟩ := List.append_inj' hhistory rfl
      simp at hlast
    · rw [List.concat_eq_append, ← List.cons_append, ← List.append_assoc] at hhistory
      obtain ⟨rfl, hlast⟩ := List.append_inj' hhistory rfl
      obtain rfl : Change.reset = last := by simpa using hlast
      obtain ⟨i, c, hplace, hc, hagrees⟩ := h.owners before old after rfl howns
      refine ⟨i, c.reset, hplace, by simp [CommandTable.reset, hc], ?_⟩
      have hreset := hagrees.reset
      rw [Command.reset_extend, hfresh before old after rfl howns] at hreset
      rw [List.concat_eq_append, sinceReset_append_reset]
      exact hreset

/-- Further changes go on with the history. Resets need the owners to be fresh, since they go back to
the commands as they were built. -/
theorem replay (h : Recorded history t) {more : List Change}
    (hfresh : .reset ∈ more → FreshOwners (history ++ more)) (hrun : t.replay more = .ok t') :
    Recorded (history ++ more) t' := by
  induction more generalizing history t with
  | nil =>
    obtain rfl : t = t' := Except.ok.inj hrun
    rwa [List.append_nil]
  | cons change more ih =>
    have hsplit : history ++ change :: more = history ++ [change] ++ more := List.append_cons _ _ _
    rw [replay_cons] at hrun
    cases hstep : t.perform change with
    | error e =>
      rw [hstep] at hrun
      cases hrun
    | ok u =>
      rw [hstep] at hrun
      have hnext : Recorded (history ++ [change]) u := by
        cases change with
        | add row => exact h.add (added_of_add h.placed hstep)
        | reset =>
          obtain rfl : t.reset = u := Except.ok.inj hstep
          exact h.reset (hfresh List.mem_cons_self).of_append
      rw [hsplit] at hfresh ⊢
      exact ih hnext (fun hmem => hfresh (List.mem_cons_of_mem change hmem)) hrun

end Recorded

/-- The table after some rows were added to the empty one. -/
structure Loaded (rows : List Row) (t : CommandTable) : Prop where
  bound : ∀ x, t.triggers.contains x = true ↔ x ∈ listed rows
  owners : ∀ earlier row later, rows = earlier ++ row :: later → (∃ x, Owns earlier row x) →
    ∃ i c, (∀ x, t.triggers.get? x = some i ↔ Owns earlier row x) ∧ t.commands[i]? = some c ∧
      c.Agrees (row.2.extend (extensions earlier row later))

lemma Recorded.loaded {rows : List Row} {t : CommandTable} (h : Recorded (rows.map .add) t) :
    Loaded rows t := by
  refine ⟨fun x => by rw [h.bound, added_map_add], fun earlier row later hrows howns => ?_⟩
  have hsplit : rows.map Change.add = earlier.map .add ++ .add row :: later.map .add := by
    simp [hrows]
  have howners := h.owners (earlier.map .add) row (later.map .add) hsplit
  rw [added_map_add, sinceReset_map_add] at howners
  exact howners howns

lemma recorded_of_load {v : Vocabulary} {stored : List StoredCommand} {t : CommandTable}
    (h : load v stored = .ok t) : Recorded ((rowsToAdd v stored).map .add) t := by
  rw [load_eq, ← replay_map_add] at h
  exact Recorded.empty.replay (by simp) h

/-- What loading makes of the built-in and the stored commands. -/
theorem loaded_of_load {v : Vocabulary} {stored : List StoredCommand} {t : CommandTable}
    (h : load v stored = .ok t) : Loaded (rowsToAdd v stored) t ∧ t.Placed :=
  ⟨(recorded_of_load h).loaded, (recorded_of_load h).placed⟩

end CommandTable

end CommandBot
