import CommandBot.Proofs.Decomposing
import CommandBot.Proofs.Responses
import CommandBot.Proofs.Spellings

/-!
# Placeholders that nothing fills in

A placeholder of no family, and a conditional without a usable condition, has no entry in a table, but
its text is scanned for positional placeholders like any other. So the positional placeholders inside
its key and branches are filled in, and it stays as it is written exactly if it has none of the table's.
-/

namespace CommandBot.Template

variable {families : Registry Family} {apply : FilterCaller} {ctx : Context} {t : Text}
  {message : Option Text}

/-- A placeholder that has no entry in any table: a conditional without a usable condition, or a
variable of no family. -/
def Placeholder.Unresolvable (families : Registry Family) (p : Placeholder) : Prop :=
  if p.path = conditionalPath then conditionalOf? (substitutions families) p = none
  else families.get? p.path = none

instance (families : Registry Family) (p : Placeholder) : Decidable (p.Unresolvable families) :=
  inferInstanceAs (Decidable (if p.path = conditionalPath then
    conditionalOf? (substitutions families) p = none else families.get? p.path = none))

lemma Placeholder.substitution?_eq_none_iff {p : Placeholder} :
    p.substitution? families = none ↔ p.Unresolvable families := by
  rw [substitution?, Unresolvable]
  split
  · rfl
  · exact Option.map_eq_none_iff

/-- Nothing is substituted by name in a text all of whose placeholders are unresolvable. -/
theorem substitutions_of_unresolvable (h : ∀ p ∈ placeholders t, p.Unresolvable families) :
    substitutions families t = [] := by
  rw [substitutions_eq, List.filterMap_eq_nil_iff]
  intro p hp
  have hmem := mem_conditionalsFirst.mp (List.mem_eraseDups.mp hp)
  exact Placeholder.substitution?_eq_none_iff.mpr (h p hmem)

lemma render_of_unresolvable (h : ∀ p ∈ placeholders t, p.Unresolvable families)
    (apply : FilterCaller) (ctx : Context) :
    (render apply ⟨t, families⟩ ctx).1 =
      some (fillPositionals ctx.invocation.message (positionalTable t) t) := by
  rw [render_fst, substitutions_of_unresolvable h]
  rfl

/-- Replaces a needle in what stands between others. -/
lemma replaceAll_woven {digits : Text} (hdigits : IsRun Char.isDigit digits) (value first : Text)
    {rest : List (Text × Text)}
    (hrest : ∀ r ∈ rest, (∃ p : Placeholder, r.1 = p.print) ∧ ¬Positional.form digits <:+: r.1) :
    (woven first rest).replaceAll (Positional.form digits) value =
      woven (first.replaceAll (Positional.form digits) value)
        (rest.map fun r => (r.1, r.2.replaceAll (Positional.form digits) value)) := by
  have hne := Positional.form_ne_nil digits
  induction rest generalizing first with
  | nil => rfl
  | cons r rest ih =>
    have hmore := (List.forall_mem_cons.mp hrest).2
    obtain ⟨⟨⟨p, hp⟩, hinside⟩, -⟩ := List.forall_mem_cons.mp hrest
    obtain ⟨needle, gap⟩ := r
    obtain rfl : needle = p.print := hp
    obtain ⟨inside, hprint⟩ := p.enclosed_print
    -- The needle has its dollar sign in front alone, and its last parenthesis at the end alone.
    have hbefore : Text.Apart (Positional.form digits) first (p.print ++ woven gap rest) := by
      have hfree : '$' ∉ '(' :: (digits ++ [')']) := by simp [hdigits.not_mem (c := '$') (by decide)]
      rw [hprint]
      exact .of_head hfree first _
    have hafter : Text.Apart (Positional.form digits) p.print (woven gap rest) := by
      have hfree : ')' ∉ ['$', '('] ++ digits := by simp [hdigits.not_mem (c := ')') (by decide)]
      rw [hprint]
      exact .of_last hfree (['$', '('] ++ inside) _
    rw [woven, List.append_assoc, Text.replaceAll_append_of_apart hne value hbefore,
      Text.replaceAll_append_of_apart hne value hafter, Text.replaceAll_of_not_infix hne value hinside,
      ih gap hmore, List.map_cons, woven, List.append_assoc]

/-- Positional placeholders are filled in between needles that have none of them inside. -/
theorem fillPositionals_woven {table : List Positional} (message : Option Text) (first : Text)
    {rest : List (Text × Text)} (hdigits : ∀ q ∈ table, IsRun Char.isDigit q.digits)
    (hrest : ∀ r ∈ rest, (∃ p : Placeholder, r.1 = p.print) ∧ ∀ q ∈ table, ¬q.print <:+: r.1) :
    fillPositionals message table (woven first rest) =
      woven (fillPositionals message table first)
        (rest.map fun r => (r.1, fillPositionals message table r.2)) := by
  induction table generalizing first rest with
  | nil => simp [fillPositionals]
  | cons q table ih =>
    obtain ⟨hq, htable⟩ := List.forall_mem_cons.mp hdigits
    have hwoven := replaceAll_woven hq (argumentValue message q.number) first fun r hr =>
      ⟨(hrest r hr).1, (hrest r hr).2 q List.mem_cons_self⟩
    have hlater : ∀ r ∈ rest.map fun r : Text × Text =>
          (r.1, r.2.replaceAll q.print (argumentValue message q.number)),
        (∃ p : Placeholder, r.1 = p.print) ∧ ∀ q ∈ table, ¬q.print <:+: r.1 :=
      List.forall_mem_map.mpr fun r hr =>
        ⟨(hrest r hr).1, fun q' hq' => (hrest r hr).2 q' (List.mem_cons_of_mem q hq')⟩
    have hfill := ih (first.replaceAll q.print (argumentValue message q.number)) htable hlater
    rw [List.map_map] at hfill
    exact (congrArg (fillPositionals message table) hwoven).trans hfill

/-- A message of short words. -/
def letters (n : Nat) : Text := (List.replicate n ['x', ' ']).flatten

lemma words_letters (n : Nat) : (letters n).words = List.replicate n ['x'] := by
  induction n with
  | zero => rfl
  | succ n ih =>
    have hword : Text.words ['x'] = [['x']] := by decide
    rw [letters, List.replicate_succ, List.flatten_cons]
    exact (Text.words_append_blank (by decide) ['x'] (letters n)).trans (by rw [hword, ih]; rfl)

/-- Some message replaces every placeholder of a table for good, if none of them has the number
zero. -/
lemma exists_not_infix (h : ∀ q ∈ positionals t, q.number ≠ 0) :
    ∃ m : Text, ∀ q ∈ positionalTable t,
      ¬q.print <:+: fillPositionals (some m) (positionalTable t) t := by
  obtain ⟨n, hn⟩ : ∃ n, ∀ q ∈ positionals t, q.number ≤ n := by
    refine ⟨Numeral.maxWord, fun q hq => ?_⟩
    rw [number_of_mem_positionals hq]
    exact (mem_listedDigits_iff.mp (List.mem_map_of_mem hq)).2
  have hmessage : messageWords (some (letters n)) = List.replicate n ['x'] := words_letters n
  have hwords : ∀ d ∈ listedDigits t, IsRun Char.isAlpha (wordFor (some (letters n)) d) := by
    refine isRun_wordFor (fun w hw => ?_) fun q hq => ?_
    · rw [hmessage] at hw
      rw [List.eq_of_mem_replicate hw]
      rfl
    · rw [hmessage, List.length_replicate]
      exact ⟨Nat.pos_of_ne_zero (h q hq), hn q hq⟩
  refine ⟨letters n, fun q hq => ?_⟩
  rw [fillPositionals_eq_filledWith hwords]
  exact not_infix_filledWith (spellings_subset t) hwords (List.mem_map_of_mem hq)

/-- No positional placeholder of a text's table stands inside a named one. -/
def PositionalsOutside (t : Text) : Prop :=
  ∀ q ∈ positionalTable t, ∀ p ∈ placeholders t, ¬q.print <:+: p.print

instance (t : Text) : Decidable (PositionalsOutside t) :=
  inferInstanceAs (Decidable (∀ q ∈ positionalTable t, ∀ p ∈ placeholders t, ¬_))

/-- The named placeholders stay where no positional one is filled in inside them. -/
theorem PositionalsOutside.exists_woven (h : PositionalsOutside t) : ∃ first rest,
    rest.map Prod.fst = (placeholders t).map Placeholder.print ∧ t = woven first rest ∧
      ∀ message, fillPositionals message (positionalTable t) t =
        woven (fillPositionals message (positionalTable t) first)
          (rest.map fun r => (r.1, fillPositionals message (positionalTable t) r.2)) := by
  obtain ⟨first, rest, hneedles, ht⟩ := keeps_placeholders t
  refine ⟨first, rest, hneedles, ht, fun message => ?_⟩
  have hdigits : ∀ q ∈ positionalTable t, IsRun Char.isDigit q.digits := fun q hq =>
    isRun_of_mem_listedDigits (spellings_subset t (List.mem_map_of_mem hq))
  have hrest : ∀ r ∈ rest, (∃ p : Placeholder, r.1 = p.print) ∧
      ∀ q ∈ positionalTable t, ¬q.print <:+: r.1 := by
    intro r hr
    have hmem : r.1 ∈ (placeholders t).map Placeholder.print := hneedles ▸ List.mem_map_of_mem hr
    obtain ⟨p, hp, hprint⟩ := List.mem_map.mp hmem
    exact ⟨⟨p, hprint.symm⟩, fun q hq => hprint ▸ h q hq p hp⟩
  have hfill := fillPositionals_woven message first hdigits hrest
  rwa [← ht] at hfill

/-- A template whose placeholders are all unresolvable always has a response, which is its text with
the positional placeholders of its table filled in. If none of them stands inside a named placeholder,
the named ones stay and what stands between them is filled in by itself. Otherwise, unless a number is
zero, the named placeholders do not all stay for every message. -/
theorem render_untouched (h : ∀ p ∈ placeholders t, p.Unresolvable families) (apply : FilterCaller) :
    (∀ ctx, (render apply ⟨t, families⟩ ctx).1 =
      some (fillPositionals ctx.invocation.message (positionalTable t) t)) ∧
    (PositionalsOutside t → ∃ first rest,
      rest.map Prod.fst = (placeholders t).map Placeholder.print ∧ t = woven first rest ∧
      ∀ ctx, (render apply ⟨t, families⟩ ctx).1 =
        some (woven (fillPositionals ctx.invocation.message (positionalTable t) first)
          (rest.map fun r =>
            (r.1, fillPositionals ctx.invocation.message (positionalTable t) r.2)))) ∧
    ((∀ q ∈ positionals t, q.number ≠ 0) →
      ((∀ ctx, ∃ response ∈ (render apply ⟨t, families⟩ ctx).1,
        Keeps ((placeholders t).map Placeholder.print) response) ↔ PositionalsOutside t)) := by
  have hrender := render_of_unresolvable h apply
  refine ⟨hrender, fun houtside => ?_, fun hzero => ⟨fun hkeeps q hq p hp hinside => ?_, ?_⟩⟩
  · obtain ⟨first, rest, hneedles, ht, hfill⟩ := houtside.exists_woven
    exact ⟨first, rest, hneedles, ht, fun ctx => by rw [hrender, hfill]⟩
  · obtain ⟨m, hgone⟩ := exists_not_infix hzero
    obtain ⟨response, hresponse, hkept⟩ := hkeeps (told m)
    rw [hrender] at hresponse
    obtain rfl := Option.some.inj hresponse
    exact hgone q hq (hinside.trans (hkept.isInfix (List.mem_map_of_mem hp)))
  · intro houtside ctx
    obtain ⟨first, rest, hneedles, -, hfill⟩ := houtside.exists_woven
    refine ⟨_, hrender ctx, _, _, ?_, hfill _⟩
    rw [List.map_map, ← hneedles]
    rfl

/-- A conditional whose key is no condition, and a placeholder of no family. -/
def unusable : Text := "$(if:x,'a') $(mystery:thing) $(1)".toList

/-- Unresolvable placeholders stay for every message if words are put in beside them alone. -/
theorem unusable_stays :
    (∀ p ∈ placeholders unusable, p.Unresolvable Family.standard) ∧ PositionalsOutside unusable ∧
      (∀ q ∈ positionals unusable, q.number ≠ 0) ∧
      (render Filter.standard.callFilter ⟨unusable, Family.standard⟩ (told "me".toList)).1 =
        some "$(if:x,'a') $(mystery:thing) me".toList ∧
      ∀ ctx, ∃ response ∈ (render Filter.standard.callFilter ⟨unusable, Family.standard⟩ ctx).1,
        Keeps ["$(if:x,'a')".toList, "$(mystery:thing)".toList] response := by
  have hunresolvable : ∀ p ∈ placeholders unusable, p.Unresolvable Family.standard := by
    decide +kernel
  have houtside : PositionalsOutside unusable := by decide +kernel
  have hzero : ∀ q ∈ positionals unusable, q.number ≠ 0 := by decide +kernel
  obtain ⟨hrender, -, hkeeps⟩ := render_untouched hunresolvable Filter.standard.callFilter
  have hneedles : (placeholders unusable).map Placeholder.print =
      ["$(if:x,'a')".toList, "$(mystery:thing)".toList] := by decide +kernel
  refine ⟨hunresolvable, houtside, hzero, (hrender _).trans (by decide +kernel), ?_⟩
  exact hneedles ▸ (hkeeps hzero).mpr houtside

/-- `$(mystery:$(1))` -/
def nestedWord : Placeholder :=
  ⟨"mystery".toList, none, some (.nested "1".toList), [], []⟩

/-- The key of a placeholder that nothing fills in is filled in. -/
theorem nestedWord_changes :
    placeholders nestedWord.print = [nestedWord] ∧ nestedWord.Unresolvable Family.standard ∧
      (render Filter.standard.callFilter ⟨nestedWord.print, Family.standard⟩
        (told "x".toList)).1 = some "$(mystery:x)".toList ∧
      ¬Keeps [nestedWord.print] "$(mystery:x)".toList := by
  refine ⟨by decide +kernel, by decide +kernel, by decide +kernel, fun hkept => ?_⟩
  have hinfix := hkept.isInfix List.mem_cons_self
  exact absurd hinfix (by decide +kernel)

end CommandBot.Template
