import CommandBot.Proofs.TableAdding

/-!
# Loading a table

Loading adds the built-in commands and then every stored one that makes a command. It goes through
exactly if no such row lists an alias twice that no row before it lists. A row that lists one twice
takes all others down with it.
-/

namespace CommandBot.CommandTable

def addRows (t : CommandTable) (rows : List (Text × Command)) : Except AddError CommandTable :=
  rows.foldlM (fun t (names, c) => t.add names c) t

/-- The rows that loading adds: the built-in commands and the stored ones that make a command. -/
def rowsToAdd (v : Vocabulary) (stored : List StoredCommand) : List (Text × Command) :=
  builtIn ++ stored.filterMap (ofStored? v)

lemma load_eq (v : Vocabulary) (stored : List StoredCommand) :
    load v stored = empty.addRows (rowsToAdd v stored) := rfl

def listed (rows : List (Text × Command)) : List Text := rows.flatMap fun row => aliases row.1

lemma listed_cons (row : Text × Command) (rows : List (Text × Command)) :
    listed (row :: rows) = aliases row.1 ++ listed rows := rfl

/-- No row lists an alias twice unless the aliases `known` or the rows before it have it. -/
def ListsOnce (known : List Text) (rows : List (Text × Command)) : Prop :=
  ∀ earlier row later, rows = earlier ++ row :: later →
    ((aliases row.1).filter (· ∉ known ++ listed earlier)).Nodup

lemma listsOnce_nil (known : List Text) : ListsOnce known [] := by
  intro earlier row later h
  simp at h

lemma listsOnce_cons {known : List Text} {row : Text × Command} {rows : List (Text × Command)} :
    ListsOnce known (row :: rows) ↔
      ((aliases row.1).filter (· ∉ known)).Nodup ∧ ListsOnce (known ++ aliases row.1) rows := by
  constructor
  · intro h
    refine ⟨by simpa [listed] using h [] row rows rfl, fun earlier row' later hrows => ?_⟩
    have hsplit := h (row :: earlier) row' later (by rw [hrows]; rfl)
    rwa [listed_cons, ← List.append_assoc] at hsplit
  · rintro ⟨hrow, hrest⟩ earlier row' later hrows
    cases earlier with
    | nil =>
      obtain ⟨rfl, rfl⟩ := List.cons.inj hrows
      simpa [listed] using hrow
    | cons first earlier =>
      obtain ⟨rfl, rfl⟩ := List.cons.inj hrows
      rw [listed_cons, ← List.append_assoc]
      exact hrest earlier row' later rfl

variable {t t' : CommandTable}

lemma Added.contains_iff {c : Command} {names : List Text} (h : Added t c names t') (x : Text) :
    t'.triggers.contains x ↔ t.triggers.contains x ∨ x ∈ names := by
  rw [Registry.contains, Registry.contains, h.triggers]
  cases t.triggers.get? x <;> simp

theorem addRows_eq_ok_iff {known : List Text} (ht : t.Placed)
    (hknown : ∀ x, t.triggers.contains x ↔ x ∈ known) (rows : List (Text × Command)) :
    (∃ t', t.addRows rows = .ok t') ↔ ListsOnce known rows := by
  induction rows generalizing t known with
  | nil => exact iff_of_true ⟨t, rfl⟩ (listsOnce_nil known)
  | cons row rows ih =>
    obtain ⟨names, c⟩ := row
    have hfree : t.FreeOnce (aliases names) ↔ ((aliases names).filter (· ∉ known)).Nodup := by
      have hfilter : (aliases names).filter (!t.triggers.contains ·) =
          (aliases names).filter (· ∉ known) := by
        congr 1
        funext x
        rw [Bool.eq_iff_iff]
        simp [← hknown]
      rw [FreeOnce, hfilter]
    rw [listsOnce_cons, ← hfree]
    rcases add_spec ht c names with ⟨honce, u, hok, hadded⟩ | ⟨htwice, x, herr⟩
    · have hknown' : ∀ x, u.triggers.contains x ↔ x ∈ known ++ aliases names := by
        intro x
        rw [hadded.contains_iff, hknown, List.mem_append]
      have hrows : t.addRows ((names, c) :: rows) = u.addRows rows := by
        simp only [addRows, List.foldlM_cons, hok]
        rfl
      rw [hrows, ih (hadded.placed ht) hknown']
      exact (and_iff_right honce).symm
    · have hrows : t.addRows ((names, c) :: rows) = .error (.repeatedAlias x) := by
        simp only [addRows, List.foldlM_cons, herr]
        rfl
      refine iff_of_false ?_ fun h => htwice h.1
      rintro ⟨t', hok⟩
      simp [hrows] at hok

theorem load_eq_ok_iff (v : Vocabulary) (stored : List StoredCommand) :
    (∃ t, load v stored = .ok t) ↔ ListsOnce [] (rowsToAdd v stored) := by
  have hknown : ∀ x, empty.triggers.contains x ↔ x ∈ ([] : List Text) := by
    simp [empty, Registry.contains]
  simp only [load_eq]
  exact addRows_eq_ok_iff Reachable.empty.placed hknown (rowsToAdd v stored)

/-- Adding a command to a table in use goes through exactly if no free alias is listed twice, and
what comes out depends on the set of the aliases alone. Loading goes through exactly if no row lists
an alias twice that no row before it lists. -/
theorem add_ok_iff_freeOnce (ht : t.Reachable) (c : Command) (aliasList : Text) :
    ((∃ t', t.add aliasList c = .ok t') ↔ t.FreeOnce (aliases aliasList)) ∧
      (∀ t' other u, t.add aliasList c = .ok t' → t.add other c = .ok u →
        (∀ x, x ∈ aliases aliasList ↔ x ∈ aliases other) → t'.Agrees u) ∧
      ∀ v stored, (∃ t', load v stored = .ok t') ↔ ListsOnce [] (rowsToAdd v stored) := by
  refine ⟨add_eq_ok_iff ht.placed c aliasList, ?_, load_eq_ok_iff⟩
  intro t' other u hadd hother hsame
  exact (added_of_add ht.placed hadd).agrees (added_of_add ht.placed hother) hsame

/-- A command whose action is a plain response. -/
def greeting : Command := ⟨Command.defaultLevel, .leaf (.say ⟨"hi".toList, .empty⟩), none⟩

/-- The table with that command alone. -/
def greetingTable : CommandTable := ⟨[greeting], Registry.empty.insert "a".toList 0⟩

lemma reachable_greetingTable : greetingTable.Reachable :=
  .add .empty (show empty.add "a".toList greeting = .ok greetingTable from rfl)

/-- A bound alias may be listed twice. -/
theorem add_bound_alias_twice :
    greetingTable.Reachable ∧ greetingTable.triggers.contains "a".toList = true ∧
      ∃ t', greetingTable.add "A|b| a ".toList greeting = .ok t' :=
  ⟨reachable_greetingTable, by decide,
    (add_ok_iff_freeOnce reachable_greetingTable greeting _).1.mpr (by decide)⟩

/-- A row that lists a free alias twice. -/
def repeatingRow : StoredCommand :=
  ⟨"a|a".toList, "\x7b\"type\":\"channelmessage\",\"message\":\"hi\"\x7d".toList, 100, none⟩

lemma exists_ok {ε α : Type} {r : Except ε α} (h : r.isOk = true) : ∃ a, r = .ok a := by
  cases r with
  | error e => cases h
  | ok a => exact ⟨a, rfl⟩

lemma not_exists_ok {ε α : Type} {r : Except ε α} (h : r.isOk = false) : ¬∃ a, r = .ok a := by
  rintro ⟨a, rfl⟩
  cases h

/-- A free alias that is listed twice lets neither the command be added nor the table be loaded. -/
theorem not_load_repeatingRow :
    (¬∃ t', empty.add "a|a".toList greeting = .ok t') ∧
      ¬∃ t', load ⟨Family.standard, Callback.standard⟩ [repeatingRow] = .ok t' :=
  ⟨not_exists_ok (by decide +kernel), not_exists_ok (by decide +kernel)⟩

end CommandBot.CommandTable
