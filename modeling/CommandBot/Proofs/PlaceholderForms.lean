import CommandBot.Proofs.Filling
import CommandBot.Proofs.PlaceholderReading

/-!
# What is read was written

A reader takes nothing from a text but the written form of what it reads. For placeholders this turns
reading back around: a placeholder is read from a text exactly if it is well-formed and the text begins
with its written form. So its parts are shorter than the text, and no bound on the nesting is reached.
-/

namespace CommandBot.Template

variable {α : Type} {m : Text.Matcher α} {good : α → Prop} {print : α → Text}

/-- A reader that takes from a text what is written by `print`, and reads good things alone. -/
def Reads (m : Text.Matcher α) (good : α → Prop) (print : α → Text) : Prop :=
  ∀ t a rest, m t = some (a, rest) → good a ∧ t = print a ++ rest

namespace Reads

lemma consumes (h : Reads m good print) (hne : ∀ a, print a ≠ []) : m.Consumes :=
  fun t a rest hread => ⟨print a, hne a, (h t a rest hread).2⟩

lemma of_found_mem (h : Reads m good print) (hne : ∀ a, print a ≠ []) {t needle : Text} {a : α}
    (hmem : .found needle a ∈ Text.pieces m t) : good a ∧ needle = print a := by
  obtain ⟨rest, -, hread⟩ := Text.exists_suffix_of_mem_occurrences (h.consumes hne)
    (Text.found_mem_pieces_iff.mp hmem)
  obtain ⟨hgood, he⟩ := h _ _ _ hread
  exact ⟨hgood, List.append_cancel_right he⟩

lemma optional (h : Reads m good print) {t rest : Text} {part : Option α}
    (hread : readOptional m t = (part, rest)) :
    (∀ a ∈ part, good a) ∧ t = (part.map print).getD [] ++ rest := by
  rw [readOptional] at hread
  split at hread
  · rename_i a later hsome
    obtain ⟨rfl, rfl⟩ := Prod.mk.inj hread
    obtain ⟨hgood, he⟩ := h _ _ _ hsome
    exact ⟨fun b hb => Option.some.inj hb ▸ hgood, he⟩
  · obtain ⟨rfl, rfl⟩ := Prod.mk.inj hread
    exact ⟨by simp, rfl⟩

lemma many (h : Reads m good print) {limit : Nat} {t rest : Text} {xs : List α}
    (hread : readMany m limit t = (xs, rest)) :
    (∀ x ∈ xs, good x) ∧ xs.length ≤ limit ∧ t = xs.flatMap print ++ rest := by
  induction limit generalizing t xs with
  | zero =>
    obtain ⟨rfl, rfl⟩ := Prod.mk.inj hread
    exact ⟨by simp, Nat.le_refl 0, rfl⟩
  | succ limit ih =>
    rw [readMany] at hread
    split at hread
    · obtain ⟨rfl, rfl⟩ := Prod.mk.inj hread
      exact ⟨by simp, Nat.zero_le _, rfl⟩
    · rename_i a later hsome
      obtain ⟨rfl, hrest⟩ := Prod.mk.inj hread
      obtain ⟨hgood, he⟩ := h _ _ _ hsome
      obtain ⟨hmore, hlength, hlater⟩ := ih (Prod.ext rfl hrest)
      refine ⟨List.forall_mem_cons.mpr ⟨hgood, hmore⟩, Nat.succ_le_succ hlength, ?_⟩
      rw [List.flatMap_cons, List.append_assoc, ← hlater, he]

end Reads

lemma reads_readRun (p : Char → Bool) : Reads (readRun p) (IsRun p) id := by
  intro t run rest h
  obtain ⟨hne, hall, he⟩ := readRun_eq_some h
  exact ⟨⟨hne, hall⟩, he⟩

lemma reads_readParenthesized (p : Char → Bool) :
    Reads (readParenthesized p) (IsRun p) fun run => '(' :: (run ++ [')']) := by
  intro t run rest h
  unfold readParenthesized at h
  split at h
  · split at h
    · rename_i hrun
      obtain ⟨rfl, rfl⟩ := Prod.mk.inj (Option.some.inj h)
      obtain ⟨hgood, rfl⟩ := reads_readRun p _ _ _ hrun
      exact ⟨hgood, by simp⟩
    · cases h
  · cases h

lemma reads_readNumber : Reads readNumber (IsRun Char.isDigit) (';' :: ·) := by
  intro t digits rest h
  unfold readNumber at h
  split at h
  · obtain ⟨hgood, rfl⟩ := reads_readRun _ _ _ _ h
    exact ⟨hgood, rfl⟩
  · cases h

lemma reads_readKey : Reads readKey Key.WellFormed fun k => ':' :: k.text := by
  intro t key rest h
  unfold readKey at h
  split at h
  · obtain ⟨⟨body, later⟩, hbody, he⟩ := Option.map_eq_some_iff.mp h
    obtain ⟨rfl, rfl⟩ := Prod.mk.inj he
    obtain ⟨hgood, rfl⟩ := reads_readParenthesized _ _ _ _ hbody
    exact ⟨hgood, by simp [Key.text]⟩
  · obtain ⟨⟨text, later⟩, htext, he⟩ := Option.map_eq_some_iff.mp h
    obtain ⟨rfl, rfl⟩ := Prod.mk.inj he
    obtain ⟨hgood, rfl⟩ := reads_readRun _ _ _ _ htext
    exact ⟨hgood, rfl⟩
  · cases h

lemma reads_readFilter : Reads readFilter FilterCall.WellFormed FilterCall.print := by
  intro t f rest h
  unfold readFilter at h
  split at h
  · obtain ⟨⟨name, later⟩, hname, he⟩ := Option.map_eq_some_iff.mp h
    cases hread : readOptional (readParenthesized isFilterArgumentChar) later with
    | mk argument afterArgument =>
    simp only [hread] at he
    obtain ⟨rfl, rfl⟩ := Prod.mk.inj he
    obtain ⟨hgood, rfl⟩ := reads_readRun _ _ _ _ hname
    obtain ⟨hargument, rfl⟩ := (reads_readParenthesized _).optional hread
    refine ⟨⟨hgood, hargument⟩, ?_⟩
    cases argument <;> simp [FilterCall.print]
  · cases h

lemma reads_readBranch : Reads readBranch Branch.WellFormed Branch.print := by
  intro t b rest h
  unfold readBranch at h
  split at h
  · split at h
    · split at h
      · split at h
        · rename_i hopening _ _ _ _ hbody hclosing
          obtain ⟨rfl, rfl⟩ := Prod.mk.inj (Option.some.inj h)
          obtain ⟨hgood, rfl⟩ := reads_readRun _ _ _ _ hbody
          exact ⟨⟨hopening, hgood, hclosing⟩, by simp [Branch.print]⟩
        · cases h
      · cases h
    · cases h
  · cases h

lemma Placeholder.print_ne_nil (p : Placeholder) : p.print ≠ [] := p.enclosed_print.ne_nil

theorem Placeholder.reads_read : Reads read WellFormed Placeholder.print := by
  intro t p rest h
  unfold read at h
  split at h
  · split at h
    · cases h
    · rename_i path t hreadPath
      cases hreadNumber : readOptional readNumber t with
      | mk digits afterNumber =>
      cases hreadKey : readOptional readKey afterNumber with
      | mk key afterKey =>
      cases hreadFilters : readMany readFilter afterKey.length afterKey with
      | mk filters afterFilters =>
      cases hreadBranches : readMany readBranch 2 afterFilters with
      | mk branches last =>
      simp only [hreadNumber, hreadKey, hreadFilters, hreadBranches] at h
      split at h
      · obtain ⟨rfl, rfl⟩ := Prod.mk.inj (Option.some.inj h)
        obtain ⟨hpath, rfl⟩ := reads_readRun _ _ _ _ hreadPath
        obtain ⟨hdigits, rfl⟩ := reads_readNumber.optional hreadNumber
        obtain ⟨hkey, rfl⟩ := reads_readKey.optional hreadKey
        obtain ⟨hfilters, -, rfl⟩ := reads_readFilter.many hreadFilters
        obtain ⟨hbranches, hlength, rfl⟩ := reads_readBranch.many hreadBranches
        exact ⟨⟨hpath, hdigits, hkey, hfilters, hlength, hbranches⟩, by simp [Placeholder.print]⟩
      · cases h
  · cases h

lemma Placeholder.read_consumes : Text.Matcher.Consumes read := reads_read.consumes print_ne_nil

/-- A placeholder is read from a text exactly if it is well-formed and the text begins with its
written form. -/
theorem Placeholder.read_eq_some_iff {t rest : Text} {p : Placeholder} :
    Placeholder.read t = some (p, rest) ↔ p.WellFormed ∧ t = p.print ++ rest := by
  constructor
  · exact Placeholder.reads_read t p rest
  · rintro ⟨h, rfl⟩
    exact read_print h rest

lemma Positional.reads_read :
    Reads read (IsRun Char.isDigit) fun d => ['$', '('] ++ d ++ [')'] := by
  intro t digits rest h
  unfold read at h
  split at h
  · obtain ⟨hgood, rfl⟩ := reads_readParenthesized _ _ _ _ h
    exact ⟨hgood, rfl⟩
  · cases h

lemma of_mem_placeholders {t : Text} {p : Placeholder} (h : p ∈ placeholders t) :
    p.WellFormed ∧ p.print <:+: t := by
  obtain ⟨⟨needle, q⟩, hmem, rfl⟩ := List.mem_map.mp h
  obtain ⟨rest, hsuffix, hread⟩ :=
    Text.exists_suffix_of_mem_occurrences Placeholder.read_consumes hmem
  obtain ⟨hformed, he⟩ := Placeholder.read_eq_some_iff.mp hread
  obtain rfl : needle = q.print := List.append_cancel_right he
  exact ⟨hformed, (List.prefix_append q.print rest).isInfix.trans hsuffix.isInfix⟩

/-- The texts that a placeholder has tables for: its key, its branches, and what stands for a missing
second branch. -/
def Placeholder.IsPart (p : Placeholder) (u : Text) : Prop :=
  p.keyText? = some u ∨ (∃ b ∈ p.branches, b.body = u) ∨ u = defaultBranch

lemma Placeholder.IsPart.length_lt {p : Placeholder} {u : Text} (h : p.IsPart u)
    (hp : p.WellFormed) : u.length < p.print.length := by
  obtain ⟨path, digits, key, filters, branches⟩ := p
  have hpath : 0 < path.length := List.length_pos_iff.mpr hp.1.1
  rcases h with hkey | ⟨b, hb, rfl⟩ | rfl
  · obtain ⟨k, rfl, rfl⟩ := Option.map_eq_some_iff.mp hkey
    simp only [print, Option.map_some, Option.getD_some, List.length_append, List.length_cons]
    omega
  · have hle : b.print.length ≤ (branches.flatMap Branch.print).length := by
      rw [List.flatMap_def]
      exact (List.infix_of_mem_flatten (List.mem_map_of_mem hb)).length_le
    simp only [Branch.print, List.length_cons, List.length_append] at hle
    simp only [print, List.length_append]
    omega
  · have hdefault : defaultBranch.length = 2 := rfl
    simp only [print, List.length_append, List.length_cons]
    omega

/-- A conditional depends on nothing but the tables of its parts. -/
lemma conditionalOf?_congr {tableOf tableOf' : Text → List Substitution} {p : Placeholder}
    (h : ∀ u, p.IsPart u → tableOf u = tableOf' u) :
    conditionalOf? tableOf p = conditionalOf? tableOf' p := by
  rw [conditionalOf?, conditionalOf?]
  cases hk : p.keyText? with
  | none => rfl
  | some key =>
    have hkey := h key (.inl hk)
    rcases hb : p.branches with _ | ⟨first, rest⟩
    · rfl
    · have hbranch : ∀ b ∈ first :: rest, tableOf b.body = tableOf' b.body :=
        fun b hmem => h _ (.inr (.inl ⟨b, hb ▸ hmem, rfl⟩))
      have hsecond : tableOf (((rest[0]?).map Branch.body).getD defaultBranch) =
          tableOf' (((rest[0]?).map Branch.body).getD defaultBranch) := by
        cases rest with
        | nil => exact h _ (.inr (.inr rfl))
        | cons second rest => exact hbranch second (by simp)
      simp [hkey, hbranch first List.mem_cons_self, hsecond]

/-- The table of a text, with `tableOf` for the tables of the parts of its placeholders. -/
def tableWith (families : Registry Family) (tableOf : Text → List Substitution) (t : Text) :
    List Substitution :=
  let ps := placeholders t
  let conditionals :=
    (ps.filter (·.path == conditionalPath)).foldl (addEntry (conditionalOf? tableOf)) []
  (ps.filter (·.path != conditionalPath)).foldl (addEntry (variableOf? families)) conditionals

lemma tableWith_congr {families : Registry Family} {tableOf tableOf' : Text → List Substitution}
    {t : Text} (h : ∀ p ∈ placeholders t, conditionalOf? tableOf p = conditionalOf? tableOf' p) :
    tableWith families tableOf t = tableWith families tableOf' t := by
  have hfold : ((placeholders t).filter (·.path == conditionalPath)).foldl
      (addEntry (conditionalOf? tableOf)) [] =
        ((placeholders t).filter (·.path == conditionalPath)).foldl
          (addEntry (conditionalOf? tableOf')) [] :=
    List.foldl_ext _ _ _ fun table p hp => by rw [addEntry, addEntry, h p (List.mem_of_mem_filter hp)]
  rw [tableWith, tableWith, hfold]

/-- The table of a text does not depend on the bound on its nesting. -/
theorem substitutionsFrom_eq_of_lt (families : Registry Family) {depth depth' : Nat} {t : Text}
    (h : t.length < depth) (h' : t.length < depth') :
    substitutionsFrom families depth t = substitutionsFrom families depth' t := by
  induction depth generalizing depth' t with
  | zero => omega
  | succ depth ih =>
    cases depth' with
    | zero => omega
    | succ depth' =>
    have hconditional : ∀ p ∈ placeholders t, conditionalOf? (substitutionsFrom families depth) p =
        conditionalOf? (substitutionsFrom families depth') p := by
      intro p hp
      obtain ⟨hformed, hinfix⟩ := of_mem_placeholders hp
      have hle := hinfix.length_le
      refine conditionalOf?_congr fun u hu => ?_
      have hlt := hu.length_lt hformed
      exact ih (by omega) (by omega)
    exact tableWith_congr hconditional

lemma substitutionsFrom_eq (families : Registry Family) {depth : Nat} {t : Text}
    (h : t.length < depth) : substitutionsFrom families depth t = substitutions families t :=
  substitutionsFrom_eq_of_lt families h (Nat.lt_succ_self _)

end CommandBot.Template
