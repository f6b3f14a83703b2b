import CommandBot.Proofs.Building

/-!
# Broken rows

A stored command whose description makes no action is passed over, whatever is wrong with it and at
whatever depth, so loading does the same without it. Of two rows with the same trigger the first one
counts: a later row leaves the command there as it is, but for the children of menus. The built-in
commands come before all stored ones.
-/

namespace CommandBot

def Leaf.kind : Leaf → String
  | .say _ => "channelmessage"
  | .whisper _ => "privatemessage"
  | .func _ _ => "func"
  | .rawFunc _ _ => "rawfunc"

/-- The name that descriptions and logs have for the kind of an action. -/
def Action.kind : Action → String
  | .leaf l => l.kind
  | .menu _ => "multi"

/-- The same leaf, or a menu with the same aliases for no text and for unknown words, that was built
with the same children and lacks none of the live ones. -/
inductive Action.Keeps : Action → Action → Prop
  | leaf (l : Leaf) : Keeps (.leaf l) (.leaf l)
  | menu {m n : Menu Command} : n.initial.Agrees m.initial → n.default = m.default →
      n.fallback = m.fallback →
      (∀ name, m.live.contains name = true → n.live.contains name = true) → Keeps (.menu m) (.menu n)

/-- The second command is the first one, perhaps after others were added under its triggers. -/
structure Command.Keeps (c d : Command) : Prop where
  level : d.level = c.level
  action : c.action.Keeps d.action
  description : d.description = c.description

lemma Action.Keeps.kind_eq {a b : Action} (h : a.Keeps b) : b.kind = a.kind := by
  cases h <;> rfl

lemma Action.Keeps.trans {a b c : Action} (hab : a.Keeps b) (hbc : b.Keeps c) : a.Keeps c := by
  cases hab with
  | leaf l => exact hbc
  | menu hinitial hdefault hfallback hlive =>
    cases hbc with
    | menu hinitial' hdefault' hfallback' hlive' =>
      exact .menu (fun name => (hinitial' name).trans (hinitial name)) (hdefault'.trans hdefault)
        (hfallback'.trans hfallback) fun name hname => hlive' name (hlive name hname)

lemma Action.Agrees.keeps {a b : Action} (h : a.Agrees b) : a.Keeps b := by
  cases h with
  | leaf l => exact .leaf l
  | menu h =>
    refine .menu (fun name => (h.initial name).symm) h.default.symm h.fallback.symm fun name hname => ?_
    rwa [Registry.contains, ← h.live name]

namespace Command

variable {c d e : Command}

lemma Keeps.trans (h : c.Keeps d) (h' : d.Keeps e) : c.Keeps e :=
  ⟨h'.level.trans h.level, h.action.trans h'.action, h'.description.trans h.description⟩

lemma Agrees.keeps (h : c.Agrees d) : c.Keeps d :=
  ⟨h.level.symm, h.action.keeps, h.description.symm⟩

lemma Keeps.eq_of_leaf (h : c.Keeps d) {l : Leaf} (hc : c.action = .leaf l) : d = c := by
  obtain ⟨level, action, description⟩ := c
  obtain ⟨level', action', description'⟩ := d
  obtain ⟨rfl, haction, rfl⟩ := h
  obtain rfl : action = .leaf l := hc
  cases haction with
  | leaf l => rfl

lemma keeps_absorb (old new : Command) : old.Keeps (old.absorb new) := by
  obtain ⟨level, action, description⟩ := old
  cases action with
  | leaf l => exact ⟨rfl, .leaf l, rfl⟩
  | menu m =>
    cases hnew : new.action with
    | leaf l =>
      simp only [absorb, hnew]
      exact (Agrees.refl _).keeps
    | menu extra =>
      simp only [absorb, hnew]
      refine ⟨rfl, .menu (fun _ => rfl) rfl rfl fun name hname => ?_, rfl⟩
      rw [Registry.contains, Menu.merge, Registry.get?_overlay, Option.isSome_or, Bool.or_eq_true]
      exact .inr hname

end Command

namespace CommandTable

variable {t t' u : CommandTable}

lemma Added.keeps {c : Command} {names : List Text} (h : Added t c names t') {trigger : Text}
    {old : Command} (hold : t.get? trigger = some old) :
    ∃ new, t'.get? trigger = some new ∧ old.Keeps new := by
  obtain ⟨i, hbound, hplace⟩ := Option.bind_eq_some_iff.mp hold
  obtain ⟨new, hnew, hagrees⟩ := h.commands i old hplace
  have hbound' : t'.triggers.get? trigger.lower = some i := by
    rw [h.triggers, hbound, Option.some_or]
  refine ⟨new, by simp [CommandTable.get?, hbound', hnew], ?_⟩
  have hgrown : old.Keeps (t.grown names c i old) := by
    unfold grown
    split
    · exact old.keeps_absorb c
    · exact (Command.Agrees.refl old).keeps
  exact hgrown.trans hagrees.symm.keeps

lemma addRows_cons (t : CommandTable) (row : Text × Command) (rows : List (Text × Command)) :
    t.addRows (row :: rows) = (t.add row.1 row.2).bind (·.addRows rows) := rfl

lemma addRows_append (t : CommandTable) (rows more : List (Text × Command)) :
    t.addRows (rows ++ more) = (t.addRows rows).bind (·.addRows more) :=
  List.foldlM_append

/-- Rows that are added to a table in use keep the command at every bound trigger. -/
theorem addRows_keeps (ht : t.Placed) {rows : List (Text × Command)} (hadd : t.addRows rows = .ok u)
    {trigger : Text} {old : Command} (hold : t.get? trigger = some old) :
    ∃ new, u.get? trigger = some new ∧ old.Keeps new := by
  induction rows generalizing t old with
  | nil =>
    obtain rfl := Except.ok.inj hadd
    exact ⟨old, hold, (Command.Agrees.refl old).keeps⟩
  | cons row rows ih =>
    rw [addRows_cons] at hadd
    obtain ⟨s, hs, hadd⟩ := exists_of_bind_eq_ok hadd
    have hadded := added_of_add ht hs
    obtain ⟨between, hbetween, hkeeps⟩ := hadded.keeps hold
    obtain ⟨new, hnew, hkeeps'⟩ := ih (hadded.placed ht) hadd hbetween
    exact ⟨new, hnew, hkeeps.trans hkeeps'⟩

/-- What may be wrong with a stored command: its text is no description, or the description, or that of
a child at any depth, has an unknown type or lacks a field, or it names a callback that does not
exist. -/
inductive Broken (v : Vocabulary) (s : StoredCommand) : Prop
  | json {fault : Json.Fault} : Description.ofText s.action = .error fault → Broken v s
  | part {d part : Description} {e : DescriptionError} : Description.ofText s.action = .ok d →
      part ∈ d.parts → part.fault? = some e → Broken v s
  | callback {d : Description} {name : Text} : Description.ofText s.action = .ok d →
      d.type = "func".toList → d.callback = some name → v.callbacks.get? name = none → Broken v s

variable {v : Vocabulary} {s : StoredCommand}

theorem ofStored?_eq_none_iff : ofStored? v s = none ↔ Broken v s := by
  constructor
  · intro hnone
    cases hread : Description.ofText s.action with
    | error fault => exact .json hread
    | ok d =>
      cases hbuild : d.build v with
      | error e =>
        have hfirst : d.parts.findSome? Description.fault? = some e :=
          (d.build_eq_error_iff v).mp hbuild
        obtain ⟨part, hpart, hfault⟩ := List.exists_of_findSome?_eq_some hfirst
        exact .part hread hpart hfault
      | ok made =>
        cases made with
        | none =>
          obtain ⟨htype, name, hcallback, hunknown⟩ := Description.build_eq_ok_none_iff.mp hbuild
          exact .callback hread htype hcallback hunknown
        | some a =>
          have hsome := ofStored?_eq_some_iff.mpr ⟨d, a, hread, hbuild, rfl⟩
          cases hnone.symm.trans hsome
  · intro hbroken
    rw [Option.eq_none_iff_forall_ne_some]
    intro row hrow
    obtain ⟨d, a, hread, hbuild, -⟩ := ofStored?_eq_some_iff.mp hrow
    cases hbroken with
    | json hfault => cases hread.symm.trans hfault
    | part hread' hpart hfault =>
      obtain rfl := Except.ok.inj (hread.symm.trans hread')
      obtain ⟨e, he⟩ : ∃ e, d.parts.findSome? Description.fault? = some e := by
        rw [← Option.isSome_iff_exists, List.findSome?_isSome_iff]
        exact ⟨_, hpart, by simp [hfault]⟩
      cases hbuild.symm.trans ((d.build_eq_error_iff v).mpr he)
    | callback hread' htype hcallback hunknown =>
      obtain rfl := Except.ok.inj (hread.symm.trans hread')
      have hnone := Description.build_eq_ok_none_iff.mpr ⟨htype, _, hcallback, hunknown⟩
      cases hbuild.symm.trans hnone

instance (v : Vocabulary) : DecidablePred (Broken v) := fun s =>
  decidable_of_iff ((ofStored? v s).isNone = true)
    (by rw [Option.isNone_iff_eq_none, ofStored?_eq_none_iff])

lemma rowsToAdd_not_broken (v : Vocabulary) (stored : List StoredCommand) :
    rowsToAdd v (stored.filter fun s => ¬Broken v s) = rowsToAdd v stored := by
  rw [rowsToAdd, rowsToAdd, List.filterMap_filter]
  congr 1
  refine List.filterMap_congr fun s _ => ?_
  by_cases hs : Broken v s
  · simp [hs, ofStored?_eq_none_iff.mpr hs]
  · simp [hs]

lemma load_append (v : Vocabulary) (stored more : List StoredCommand) :
    load v (stored ++ more) = (load v stored).bind (·.addRows (more.filterMap (ofStored? v))) := by
  rw [load_eq, load_eq, ← addRows_append, rowsToAdd, rowsToAdd, List.filterMap_append, List.append_assoc]

def builtInTable : CommandTable :=
  ⟨builtIn.map Prod.snd, ⟨[("level".toList, 1), ("ping".toList, 0)]⟩⟩

lemma load_nil (v : Vocabulary) : load v [] = .ok builtInTable := rfl

lemma get?_builtIn {stored : List StoredCommand} (hload : load v stored = .ok t) {row : Text × Command}
    (hrow : row ∈ builtIn) {trigger : Text} (htrigger : trigger.lower = row.1) :
    t.get? trigger = some row.2 := by
  have hplaced : builtInTable.Placed := (recorded_of_load (load_nil v)).placed
  have hstart : builtInTable.get? trigger = some row.2 ∧ ∃ l, row.2.action = .leaf l := by
    rw [CommandTable.get?, htrigger]
    rcases List.mem_cons.mp hrow with rfl | hrow
    · exact ⟨rfl, _, rfl⟩
    · obtain rfl := List.mem_singleton.mp hrow
      exact ⟨rfl, _, rfl⟩
  obtain ⟨hget, l, hl⟩ := hstart
  rw [← List.nil_append stored, load_append, load_nil] at hload
  obtain ⟨c, hc, hkeeps⟩ := addRows_keeps hplaced hload hget
  rw [hc, hkeeps.eq_of_leaf hl]

/-- Bad rows are harmless. Loading does the same without the broken rows, the built-in commands are what
they are whatever the rows say, and further rows keep the commands of all triggers that are bound
before, with the same levels, descriptions and kinds of action. -/
theorem broken_rows_harmless {stored : List StoredCommand} (hload : load v stored = .ok t) :
    load v (stored.filter fun s => ¬Broken v s) = .ok t ∧
      (∀ trigger, trigger.lower = "ping".toList → t.get? trigger =
        some ⟨50, .leaf (.rawFunc "ping".toList Callback.ping), some "Replies with Pong!".toList⟩) ∧
      (∀ trigger, trigger.lower = "level".toList → t.get? trigger =
        some ⟨50, .leaf (.func "level".toList Callback.level), some "Shows your access level.".toList⟩) ∧
      ∀ more u, load v (stored ++ more) = .ok u → ∀ trigger c, t.get? trigger = some c →
        ∃ d, u.get? trigger = some d ∧ c.Keeps d ∧ d.action.kind = c.action.kind := by
  refine ⟨?_, fun trigger => get?_builtIn hload (.head _),
    fun trigger => get?_builtIn hload (.tail _ (.head _)), ?_⟩
  · rw [load_eq, rowsToAdd_not_broken, ← load_eq, hload]
  · intro more u hmore trigger c hc
    rw [load_append, hload] at hmore
    obtain ⟨d, hd, hkeeps⟩ := addRows_keeps (recorded_of_load hload).placed hmore hc
    exact ⟨d, hd, hkeeps, hkeeps.action.kind_eq⟩

/-- A text that is no description, a menu with a child of an unknown type, and an unknown callback. -/
def strayRows : List StoredCommand :=
  [⟨"ping|m".toList, "not json".toList, 100, none⟩,
   ⟨"m".toList, ("\x7b\"type\":\"multi\",\"args\":[\x7b\"command\":\"a\",\"action\":" ++
      "\x7b\"type\":\"telepathy\"\x7d\x7d]\x7d").toList, 100, none⟩,
   ⟨"m".toList, "\x7b\"type\":\"func\",\"cb\":\"missing\"\x7d".toList, 100, none⟩]

/-- Among broken rows for the same triggers, the ping and the open menu are there, and the menu stays
one when another is merged into it. -/
theorem openRow_among_stray :
    (∀ s ∈ strayRows, Broken Bot.standardVocabulary s) ∧ ∃ t u c d,
      load Bot.standardVocabulary (strayRows ++ [Bot.openRow]) = .ok t ∧
      load Bot.standardVocabulary
        ((strayRows ++ [Bot.openRow]).filter fun s => ¬Broken Bot.standardVocabulary s) = .ok t ∧
      (t.get? "PING".toList).map (fun c => c.action.kind) = some "rawfunc" ∧
      load Bot.standardVocabulary (strayRows ++ [Bot.openRow] ++ [Bot.secretRow]) = .ok u ∧
      t.get? "m".toList = some c ∧ c.action.kind = "multi" ∧
      u.get? "m".toList = some d ∧ d.action.kind = "multi" := by
  have hcomputed : (∀ s ∈ strayRows, Broken Bot.standardVocabulary s) ∧
      (load Bot.standardVocabulary (strayRows ++ [Bot.openRow] ++ [Bot.secretRow])).isOk = true ∧
      ((load Bot.standardVocabulary (strayRows ++ [Bot.openRow])).toOption.bind (·.get? "m".toList)).any
        (fun c => c.action.kind == "multi") = true := by decide +kernel
  obtain ⟨hbroken, hok, hmenu⟩ := hcomputed
  obtain ⟨u, hmore⟩ := exists_ok hok
  obtain ⟨t, hload, -⟩ := exists_of_bind_eq_ok ((load_append _ _ _).symm.trans hmore)
  rw [hload] at hmenu
  obtain ⟨c, hget, hkind⟩ := (Option.any_eq_true _ _).mp hmenu
  obtain ⟨hfiltered, hping, -, hkeeps⟩ := broken_rows_harmless hload
  obtain ⟨d, hd, -, hsame⟩ := hkeeps _ u hmore _ c hget
  refine ⟨hbroken, t, u, c, d, hload, hfiltered, ?_, hmore, hget, eq_of_beq hkind, hd, ?_⟩
  · rw [hping _ (by decide)]
    rfl
  · rw [hsame, eq_of_beq hkind]

end CommandTable

end CommandBot
