import CommandBot.CommandTable
import CommandBot.Proofs.Results

/-!
# Adding commands to a table

Adding a command goes through its aliases one after the other. A free one is bound to the place that
the command will get, a bound one has its command absorb the new one. The command has no place yet
while this goes on, so adding fails exactly if a free alias is listed twice. Otherwise the order of
the aliases and how often they are listed make no difference.
-/

namespace CommandBot

/-- Registries agree if they bind the same names to the same values. -/
def Registry.Agrees {α : Type} (r s : Registry α) : Prop := ∀ name, r.get? name = s.get? name

/-- Menus agree if they have the same children, aliases for no text and for unknown words. -/
structure Menu.Agrees {γ : Type} (m n : Menu γ) : Prop where
  live : m.live.Agrees n.live
  initial : m.initial.Agrees n.initial
  default : m.default = n.default
  fallback : m.fallback = n.fallback

/-- Actions agree if they are the same leaf or menus that agree. -/
inductive Action.Agrees : Action → Action → Prop
  | leaf (l : Leaf) : Agrees (.leaf l) (.leaf l)
  | menu {m n : Menu Command} : m.Agrees n → Agrees (.menu m) (.menu n)

/-- Commands agree if nothing but the order of bindings in their menus tells them apart. -/
structure Command.Agrees (c d : Command) : Prop where
  level : c.level = d.level
  action : c.action.Agrees d.action
  description : c.description = d.description

/-- Tables agree if the same triggers are bound to the same places, and the commands there agree. -/
structure CommandTable.Agrees (t u : CommandTable) : Prop where
  triggers : t.triggers.Agrees u.triggers
  commands : List.Forall₂ Command.Agrees t.commands u.commands

lemma Registry.Agrees.overlay {α : Type} {r s : Registry α} (h : r.Agrees s) (upper : Registry α) :
    (r.overlay upper).Agrees (s.overlay upper) := by
  intro name
  rw [get?_overlay, get?_overlay, h name]

lemma Registry.overlay_overlay_agrees {α : Type} (r upper : Registry α) :
    ((r.overlay upper).overlay upper).Agrees (r.overlay upper) := by
  intro name
  simp only [get?_overlay]
  cases upper.get? name <;> rfl

namespace Action.Agrees

lemma refl : (a : Action) → a.Agrees a
  | .leaf l => .leaf l
  | .menu _ => .menu ⟨fun _ => rfl, fun _ => rfl, rfl, rfl⟩

lemma symm {a b : Action} : a.Agrees b → b.Agrees a
  | .leaf l => .leaf l
  | .menu h => .menu ⟨fun x => (h.live x).symm, fun x => (h.initial x).symm, h.default.symm,
      h.fallback.symm⟩

lemma trans {a b c : Action} (hab : a.Agrees b) (hbc : b.Agrees c) : a.Agrees c := by
  cases hab with
  | leaf l => exact hbc
  | menu h =>
    cases hbc with
    | menu h' =>
      exact .menu ⟨fun x => (h.live x).trans (h'.live x), fun x => (h.initial x).trans (h'.initial x),
        h.default.trans h'.default, h.fallback.trans h'.fallback⟩

end Action.Agrees

namespace Command

lemma Agrees.refl (c : Command) : c.Agrees c := ⟨rfl, .refl _, rfl⟩

lemma Agrees.symm {c d : Command} (h : c.Agrees d) : d.Agrees c :=
  ⟨h.level.symm, h.action.symm, h.description.symm⟩

lemma Agrees.trans {c d e : Command} (h : c.Agrees d) (h' : d.Agrees e) : c.Agrees e :=
  ⟨h.level.trans h'.level, h.action.trans h'.action, h.description.trans h'.description⟩

lemma Agrees.absorb {c d : Command} (h : c.Agrees d) (new : Command) :
    (c.absorb new).Agrees (d.absorb new) := by
  obtain ⟨level, action, description⟩ := c
  obtain ⟨level', action', description'⟩ := d
  obtain ⟨rfl, haction, rfl⟩ := h
  cases haction with
  | leaf l => exact .refl _
  | menu hmenu =>
    cases hnew : new.action with
    | leaf l =>
      simp only [Command.absorb, hnew]
      exact ⟨rfl, .menu hmenu, rfl⟩
    | menu extra =>
      simp only [Command.absorb, hnew]
      exact ⟨rfl, .menu ⟨hmenu.live.overlay _, hmenu.initial, hmenu.default, hmenu.fallback⟩, rfl⟩

lemma absorb_absorb_agrees (old new : Command) :
    ((old.absorb new).absorb new).Agrees (old.absorb new) := by
  obtain ⟨level, action, description⟩ := old
  cases action with
  | leaf l => exact .refl _
  | menu m =>
    cases hnew : new.action with
    | leaf l =>
      simp only [Command.absorb, hnew]
      exact .refl _
    | menu extra =>
      simp only [Command.absorb, hnew]
      exact ⟨rfl, .menu ⟨Registry.overlay_overlay_agrees _ _, fun _ => rfl, rfl, rfl⟩, rfl⟩

end Command

namespace CommandTable

/-- The tables that adding and resetting lead to from the empty one. -/
inductive Reachable : CommandTable → Prop
  | empty : Reachable .empty
  | add {t t' : CommandTable} {aliasList : Text} {c : Command} :
      Reachable t → t.add aliasList c = .ok t' → Reachable t'
  | reset {t : CommandTable} : Reachable t → Reachable t.reset

/-- Every trigger is bound to a place that has a command. -/
def Placed (t : CommandTable) : Prop := ∀ x i, t.triggers.get? x = some i → i < t.size

/-- No free alias is listed twice. -/
def FreeOnce (t : CommandTable) (names : List Text) : Prop :=
  (names.filter (!t.triggers.contains ·)).Nodup

instance (t : CommandTable) (names : List Text) : Decidable (t.FreeOnce names) :=
  inferInstanceAs (Decidable (List.Nodup _))

lemma contains_eq_false_iff {t : CommandTable} {x : Text} :
    t.triggers.contains x = false ↔ t.triggers.get? x = none := by
  simp [Registry.contains]

lemma FreeOnce.of_append {t : CommandTable} {names more : List Text}
    (h : t.FreeOnce (names ++ more)) : t.FreeOnce names := by
  rw [FreeOnce, List.filter_append] at h
  exact (List.nodup_append.mp h).1

lemma freeOnce_append_singleton {t : CommandTable} {names : List Text} {x : Text} :
    t.FreeOnce (names ++ [x]) ↔
      t.FreeOnce names ∧ (t.triggers.get? x = none → x ∉ names) := by
  rw [FreeOnce, List.filter_append, List.nodup_append, ← FreeOnce]
  cases hx : t.triggers.contains x with
  | false => simp [hx, contains_eq_false_iff.mp hx, imp_not_comm]
  | true =>
    have hbound : t.triggers.get? x ≠ none := fun h => by
      simp [contains_eq_false_iff.mpr h] at hx
    simp [hx, hbound]

lemma bindTrigger_of_free {t : CommandTable} {x : Text} (c : Command)
    (h : t.triggers.get? x = none) :
    bindTrigger c t x = .ok { t with triggers := t.triggers.insert x t.size } := by
  rw [bindTrigger, h]

lemma bindTrigger_of_bound {t : CommandTable} {x : Text} {i : Nat} {old : Command} (c : Command)
    (h : t.triggers.get? x = some i) (hold : t.commands[i]? = some old) :
    bindTrigger c t x = .ok { t with commands := t.commands.set i (old.absorb c) } := by
  simp only [bindTrigger, h, hold]

lemma bindTrigger_of_unplaced {t : CommandTable} {x : Text} {i : Nat} (c : Command)
    (h : t.triggers.get? x = some i) (hsize : t.size ≤ i) :
    bindTrigger c t x = .error (.repeatedAlias x) := by
  simp only [bindTrigger, h, List.getElem?_eq_none (show t.commands.length ≤ i from hsize)]

/-- What becomes of a command when another one is added under some aliases: it absorbs that one if
an alias is bound to its place. -/
def grown (t : CommandTable) (names : List Text) (c : Command) (i : Nat) (old : Command) : Command :=
  if names.any (t.triggers.get? · == some i) then old.absorb c else old

lemma grown_of_any {t : CommandTable} {names : List Text} {i : Nat} (c old : Command)
    (h : names.any (t.triggers.get? · == some i) = true) : t.grown names c i old = old.absorb c :=
  if_pos h

lemma grown_absorb_agrees (t : CommandTable) (names : List Text) (c : Command) (i : Nat)
    (old : Command) : ((t.grown names c i old).absorb c).Agrees (old.absorb c) := by
  unfold grown
  split
  · exact old.absorb_absorb_agrees c
  · exact .refl _

/-- The state `s` of a table `t` to which `c` is being added, after the aliases `done`: the free
ones among them are bound to the place that `c` will get, and the commands at the others have
absorbed `c`. -/
structure Adding (t : CommandTable) (c : Command) (done : List Text) (s : CommandTable) : Prop where
  triggers : ∀ x, s.triggers.get? x = (t.triggers.get? x).or (if x ∈ done then some t.size else none)
  size : s.size = t.size
  commands : ∀ i old, t.commands[i]? = some old →
    ∃ new : Command, s.commands[i]? = some new ∧ new.Agrees (t.grown done c i old)

namespace Adding

variable {t s : CommandTable} {c : Command} {done : List Text}

lemma start (t : CommandTable) (c : Command) : Adding t c [] t where
  triggers x := by simp
  size := rfl
  commands i old hold := ⟨old, hold, .refl _⟩

lemma bind_free (h : Adding t c done s) {x : Text} (hfree : t.triggers.get? x = none)
    (hx : x ∉ done) : ∃ s', bindTrigger c s x = .ok s' ∧ Adding t c (done ++ [x]) s' := by
  have hget : s.triggers.get? x = none := by simp [h.triggers, hfree, hx]
  refine ⟨_, bindTrigger_of_free c hget, ?_, h.size, ?_⟩
  · intro y
    rw [Registry.get?_insert, h.triggers, h.size]
    by_cases hxy : x = y
    · subst hxy
      simp [hfree]
    · simp [hxy, Ne.symm hxy]
  · intro i old hold
    obtain ⟨new, hnew, hagree⟩ := h.commands i old hold
    refine ⟨new, hnew, ?_⟩
    simpa [grown, hfree] using hagree

lemma bind_met (h : Adding t c done s) {x : Text} (hfree : t.triggers.get? x = none)
    (hx : x ∈ done) : bindTrigger c s x = .error (.repeatedAlias x) := by
  have hget : s.triggers.get? x = some t.size := by simp [h.triggers, hfree, hx]
  exact bindTrigger_of_unplaced c hget (Nat.le_of_eq h.size)

lemma bind_bound (ht : t.Placed) (h : Adding t c done s) {x : Text} {i : Nat}
    (hbound : t.triggers.get? x = some i) :
    ∃ s', bindTrigger c s x = .ok s' ∧ Adding t c (done ++ [x]) s' := by
  have hget : s.triggers.get? x = some i := by simp [h.triggers, hbound]
  have hi : i < t.commands.length := ht x i hbound
  obtain ⟨current, hcurrent, hagree⟩ := h.commands i _ (List.getElem?_eq_getElem hi)
  refine ⟨_, bindTrigger_of_bound c hget hcurrent, ?_, ?_, ?_⟩
  · intro y
    rw [h.triggers]
    by_cases hxy : y = x
    · subst hxy
      simp [hbound]
    · simp [hxy]
  · simpa [CommandTable.size] using h.size
  · intro j old hold
    obtain ⟨new, hnew, hold'⟩ := h.commands j old hold
    by_cases hij : i = j
    · subst hij
      have hgrown : t.grown (done ++ [x]) c i old = old.absorb c :=
        grown_of_any c old (by simp [hbound])
      have hlt : i < s.commands.length := by
        rw [show s.commands.length = t.commands.length from h.size]
        exact hi
      refine ⟨current.absorb c, by simp [List.getElem?_set_self hlt], ?_⟩
      obtain rfl : new = current := Option.some.inj (hnew.symm.trans hcurrent)
      rw [hgrown]
      exact (hold'.absorb c).trans (t.grown_absorb_agrees done c i old)
    · have hgrown : t.grown (done ++ [x]) c j old = t.grown done c j old := by
        simp [grown, hbound, hij]
      refine ⟨new, by simp [List.getElem?_set_ne hij, hnew], ?_⟩
      rwa [hgrown]

/-- Adding goes through as long as no free alias comes twice. -/
theorem run (ht : t.Placed) (h : Adding t c done s) {names : List Text}
    (honce : t.FreeOnce (done ++ names)) :
    ∃ s', names.foldlM (bindTrigger c) s = .ok s' ∧ Adding t c (done ++ names) s' := by
  induction names generalizing done s with
  | nil => exact ⟨s, rfl, by simpa using h⟩
  | cons x names ih =>
    rw [List.append_cons] at honce ⊢
    have hstep : ∃ s', bindTrigger c s x = .ok s' ∧ Adding t c (done ++ [x]) s' := by
      cases hx : t.triggers.get? x with
      | none =>
        exact h.bind_free hx ((freeOnce_append_singleton.mp honce.of_append).2 hx)
      | some i => exact h.bind_bound ht hx
    obtain ⟨s', hok, hnext⟩ := hstep
    obtain ⟨s'', hok', hend⟩ := ih hnext honce
    exact ⟨s'', by rw [List.foldlM_cons, hok]; exact hok', hend⟩

/-- Adding stops at a free alias that comes twice. -/
theorem stop (ht : t.Placed) (h : Adding t c done s) {names : List Text}
    (hdone : t.FreeOnce done) (htwice : ¬t.FreeOnce (done ++ names)) :
    ∃ x, names.foldlM (bindTrigger c) s = .error (.repeatedAlias x) := by
  induction names generalizing done s with
  | nil => exact absurd (by simpa using hdone) htwice
  | cons x names ih =>
    rw [List.append_cons] at htwice
    cases hx : t.triggers.get? x with
    | none =>
      by_cases hmem : x ∈ done
      · exact ⟨x, by rw [List.foldlM_cons, h.bind_met hx hmem]; rfl⟩
      · obtain ⟨s', hok, hnext⟩ := h.bind_free hx hmem
        have honce := freeOnce_append_singleton.mpr ⟨hdone, fun _ => hmem⟩
        obtain ⟨y, herr⟩ := ih hnext honce htwice
        exact ⟨y, by rw [List.foldlM_cons, hok]; exact herr⟩
    | some i =>
      obtain ⟨s', hok, hnext⟩ := h.bind_bound ht hx
      have honce : t.FreeOnce (done ++ [x]) :=
        freeOnce_append_singleton.mpr ⟨hdone, fun hfree => absurd (hx.symm.trans hfree) (by simp)⟩
      obtain ⟨y, herr⟩ := ih hnext honce htwice
      exact ⟨y, by rw [List.foldlM_cons, hok]; exact herr⟩

end Adding

/-! ### Adding a command -/

/-- The table `t'` is `t` after `c` was added under some aliases: the free ones are bound to a new
place at the end, which holds `c`, and the commands at the others have absorbed `c`. Without a free
alias there is no new place. -/
structure Added (t : CommandTable) (c : Command) (names : List Text) (t' : CommandTable) :
    Prop where
  triggers : ∀ x, t'.triggers.get? x = (t.triggers.get? x).or (if x ∈ names then some t.size else none)
  size : t'.size = if names.all t.triggers.contains then t.size else t.size + 1
  commands : ∀ i old, t.commands[i]? = some old →
    ∃ new : Command, t'.commands[i]? = some new ∧ new.Agrees (t.grown names c i old)
  last : names.all t.triggers.contains = false → t'.commands[t.size]? = some c

variable {t t' u : CommandTable} {c : Command}

lemma add_of_foldlM {aliasList : Text} {s : CommandTable}
    (h : (aliases aliasList).foldlM (bindTrigger c) t = .ok s) :
    t.add aliasList c = .ok (if (aliases aliasList).all t.triggers.contains then s
      else { s with commands := s.commands ++ [c] }) := by
  simp only [add, h]
  rfl

lemma Adding.added {s : CommandTable} {names : List Text} (h : Adding t c names s) :
    Added t c names (if names.all t.triggers.contains then s
      else { s with commands := s.commands ++ [c] }) := by
  cases hall : names.all t.triggers.contains with
  | true => exact ⟨h.triggers, by simp [hall, h.size], h.commands, by simp [hall]⟩
  | false =>
    have hlen : s.commands.length = t.size := h.size
    refine ⟨h.triggers, by simp [hall, CommandTable.size, hlen], ?_, ?_⟩
    · intro i old hold
      obtain ⟨new, hnew, hagree⟩ := h.commands i old hold
      have hi : i < s.commands.length := (List.getElem?_eq_some_iff.mp hnew).1
      exact ⟨new, by simp [List.getElem?_append_left hi, hnew], hagree⟩
    · simp [← hlen]

/-- Adding a command goes through exactly if no free alias is listed twice, and then adds it as
`Added` says. -/
theorem add_spec (ht : t.Placed) (c : Command) (aliasList : Text) :
    (t.FreeOnce (aliases aliasList) ∧
      ∃ t', t.add aliasList c = .ok t' ∧ Added t c (aliases aliasList) t') ∨
    (¬t.FreeOnce (aliases aliasList) ∧ ∃ x, t.add aliasList c = .error (.repeatedAlias x)) := by
  have hstart := Adding.start t c
  by_cases honce : t.FreeOnce (aliases aliasList)
  · have honce' : t.FreeOnce ([] ++ aliases aliasList) := honce
    obtain ⟨s, hok, hadding⟩ := hstart.run ht honce'
    exact .inl ⟨honce, _, add_of_foldlM hok, hadding.added⟩
  · have htwice : ¬t.FreeOnce ([] ++ aliases aliasList) := honce
    obtain ⟨x, herr⟩ := hstart.stop ht List.nodup_nil htwice
    refine .inr ⟨honce, x, ?_⟩
    simp only [add, herr]
    rfl

lemma add_eq_ok_iff (ht : t.Placed) (c : Command) (aliasList : Text) :
    (∃ t', t.add aliasList c = .ok t') ↔ t.FreeOnce (aliases aliasList) := by
  rcases add_spec ht c aliasList with ⟨honce, t', hok, -⟩ | ⟨htwice, x, herr⟩
  · exact iff_of_true ⟨t', hok⟩ honce
  · refine iff_of_false ?_ htwice
    rintro ⟨t', hok⟩
    simp [herr] at hok

lemma added_of_add (ht : t.Placed) {aliasList : Text} (h : t.add aliasList c = .ok t') :
    Added t c (aliases aliasList) t' := by
  rcases add_spec ht c aliasList with ⟨-, u, hok, hadded⟩ | ⟨-, x, herr⟩
  · obtain rfl := Except.ok.inj (h.symm.trans hok)
    exact hadded
  · simp [h] at herr

lemma grown_congr {names names' : List Text} (h : ∀ x, x ∈ names ↔ x ∈ names') (i : Nat)
    (old : Command) : t.grown names c i old = t.grown names' c i old := by
  have hany : names.any (t.triggers.get? · == some i) = names'.any (t.triggers.get? · == some i) := by
    rw [Bool.eq_iff_iff]
    simp only [List.any_eq_true, h]
  rw [grown, grown, hany]

lemma Added.place_cases {names : List Text} {i : Nat} (h : Added t c names t')
    (hi : i < t'.size) :
    (∃ old, t.commands[i]? = some old) ∨
      (i = t.size ∧ names.all t.triggers.contains = false) := by
  by_cases hold : i < t.size
  · exact .inl ⟨_, List.getElem?_eq_getElem hold⟩
  · rw [h.size] at hi
    split at hi
    · exact absurd hi hold
    · rename_i hall
      exact .inr ⟨by omega, by simpa using hall⟩

/-- What a table is after an addition depends on the set of the aliases alone. -/
theorem Added.agrees {names names' : List Text} (h : Added t c names t') (h' : Added t c names' u)
    (hsame : ∀ x, x ∈ names ↔ x ∈ names') : t'.Agrees u := by
  have hall : names.all t.triggers.contains = names'.all t.triggers.contains := by
    rw [Bool.eq_iff_iff]
    simp only [List.all_eq_true, hsame]
  have hsize : t'.size = u.size := by rw [h.size, h'.size, hall]
  refine ⟨fun x => ?_, List.forall₂_iff_get.mpr ⟨hsize, fun i hi hi' => ?_⟩⟩
  · simp only [h.triggers, h'.triggers, hsame]
  · have hget := List.getElem?_eq_getElem hi
    have hget' := List.getElem?_eq_getElem hi'
    rcases h.place_cases hi with ⟨old, hold⟩ | ⟨rfl, hnew⟩
    · obtain ⟨d, hd, hagree⟩ := h.commands i old hold
      obtain ⟨e, he, hagree'⟩ := h'.commands i old hold
      rw [hget, Option.some.injEq] at hd
      rw [hget', Option.some.injEq] at he
      rw [← grown_congr hsame] at hagree'
      simpa [hd, he] using hagree.trans hagree'.symm
    · have hlast := h.last hnew
      have hlast' := h'.last (hall ▸ hnew)
      rw [hget, Option.some.injEq] at hlast
      rw [hget', Option.some.injEq] at hlast'
      simpa [hlast, hlast'] using Command.Agrees.refl c

lemma Added.placed {names : List Text} (ht : t.Placed) (h : Added t c names t') : t'.Placed := by
  intro x i hget
  rw [h.triggers] at hget
  have hle : t.size ≤ t'.size := by
    rw [h.size]
    split <;> omega
  cases hx : t.triggers.get? x with
  | some j =>
    rw [hx, Option.some_or, Option.some.injEq] at hget
    exact hget ▸ Nat.lt_of_lt_of_le (ht x j hx) hle
  | none =>
    rw [hx, Option.none_or] at hget
    split at hget
    · rename_i hmem
      have hfree : names.all t.triggers.contains = false :=
        List.all_eq_false.mpr ⟨x, hmem, by simp [contains_eq_false_iff.mpr hx]⟩
      rw [h.size, hfree, ← Option.some.inj hget]
      exact Nat.lt_succ_self _
    · simp at hget

lemma Placed.reset (ht : t.Placed) : t.reset.Placed := by
  intro x i hget
  simpa [CommandTable.reset, CommandTable.size] using ht x i hget

theorem Reachable.placed (ht : t.Reachable) : t.Placed := by
  induction ht with
  | empty => intro x i hget; simp [CommandTable.empty] at hget
  | add _ hadd ih => exact (added_of_add ih hadd).placed ih
  | reset _ ih => exact ih.reset

end CommandTable

end CommandBot
