import CommandBot.Proofs.Building
import CommandBot.Proofs.Triggers

/-!
# Looking up what was built

The entries of a menu's description may share aliases, list one several times, differ in case and in
blanks, or make no action. The menu that is built from them answers an alias in any case with the
first entry that lists it and makes an action. That entry may describe a menu in turn, and so
following aliases through menus is following them through descriptions.
-/

namespace CommandBot

variable {v : Vocabulary}

/-- The command of an entry, with its own level and description, if it makes an action. -/
def ChildDescription.command? (v : Vocabulary) (child : ChildDescription) : Option Command :=
  match child.action.build v with
  | .ok (some a) => some ⟨child.level, a, child.description⟩
  | _ => none

/-- Whether an entry makes an action and lists an alias. -/
def ChildDescription.answers (v : Vocabulary) (name : Text) (child : ChildDescription) : Bool :=
  (child.command? v).isSome && (aliases child.aliasList).contains name

/-- The first entry of a menu's description for an alias in any case. -/
def Description.firstChild? (v : Vocabulary) (d : Description) (name : Text) :
    Option ChildDescription :=
  if d.type = "multi".toList then d.children.find? (·.answers v name.lower) else none

/-- The entry that aliases lead to: the last one is looked up where those before it lead. -/
def Description.follow? (v : Vocabulary) : Description → List Text → Text → Option ChildDescription
  | d, [], name => d.firstChild? v name
  | d, outer :: path, name =>
    (d.firstChild? v outer).bind fun child => child.action.follow? v path name

/-- The command of an action for an alias in any case. -/
def Action.child? (a : Action) (name : Text) : Option Command :=
  match a with
  | .menu m => m.get? name
  | .leaf _ => none

/-- The command that aliases lead to: the last one is looked up where those before it lead. -/
def Action.follow? : Action → List Text → Text → Option Command
  | a, [], name => a.child? name
  | a, outer :: path, name => (a.child? outer).bind fun c => c.action.follow? path name

lemma ChildDescription.command?_eq_some_iff {child : ChildDescription} {c : Command} :
    child.command? v = some c ↔ ∃ a, child.action.build v = .ok (some a) ∧
      c = ⟨child.level, a, child.description⟩ := by
  rw [command?]
  split
  · rename_i a hbuild
    simp [hbuild, eq_comm]
  · rename_i hno
    exact iff_of_false (by simp) fun ⟨a, hbuild, _⟩ => hno a hbuild

/-- Aliases that all stand for one command. -/
lemma Registry.lookUp_map_const {α : Type} (name : Text) (names : List Text) (a : α) :
    lookUp name (names.map (·, a)) = if name ∈ names then some a else none := by
  induction names with
  | nil => rfl
  | cons other names ih =>
    rw [List.map_cons, lookUp, ih]
    by_cases h : other = name
    · simp [h]
    · simp [h, Ne.symm h]

/-- An alias finds the first entry that answers to it among the built children. -/
theorem lookUp_buildChildren {children : List ChildDescription} {built : List (Text × Command)}
    (h : buildChildren v children = .ok built) (name : Text) :
    Registry.lookUp name built = (children.find? (·.answers v name)).bind (·.command? v) := by
  induction children generalizing built with
  | nil =>
    obtain rfl := Except.ok.inj h
    rfl
  | cons child children ih =>
    obtain ⟨aliasList, level, action, description⟩ := child
    obtain ⟨made, hmade, h⟩ := exists_of_bind_eq_ok h
    obtain ⟨rest, hrest, h⟩ := exists_of_bind_eq_ok h
    obtain rfl := Except.ok.inj h
    cases made with
    | none => simp [ChildDescription.answers, ChildDescription.command?, hmade, ih hrest]
    | some a =>
      rw [Registry.lookUp_append, Registry.lookUp_map_const, ih hrest]
      by_cases hlisted : name ∈ aliases aliasList
      · simp [ChildDescription.answers, ChildDescription.command?, hmade, hlisted]
      · simp [ChildDescription.answers, hlisted]

lemma lower_of_mem_buildChildren {children : List ChildDescription} {built : List (Text × Command)}
    (h : buildChildren v children = .ok built) : ∀ entry ∈ built, entry.1.lower = entry.1 := by
  induction children generalizing built with
  | nil =>
    obtain rfl := Except.ok.inj h
    simp
  | cons child children ih =>
    obtain ⟨aliasList, level, action, description⟩ := child
    obtain ⟨made, -, h⟩ := exists_of_bind_eq_ok h
    obtain ⟨rest, hrest, h⟩ := exists_of_bind_eq_ok h
    obtain rfl := Except.ok.inj h
    cases made with
    | none => exact ih hrest
    | some a =>
      refine List.forall_mem_append.mpr ⟨List.forall_mem_map.mpr fun x hx => ?_, ih hrest⟩
      exact (normal_of_mem_aliases hx).2.2

/-- A menu has its children as they were built, both live and for going back. -/
lemma Menu.live_ofChildren {children : List ChildDescription} {built : List (Text × Command)}
    (h : buildChildren v children = .ok built) (default fallback : Option Text) :
    (Menu.ofChildren built default fallback).live = ⟨built⟩ := by
  have hkeep : built.map (fun entry => (entry.1.lower, entry.2)) = built :=
    (List.map_congr_left fun entry hentry => by
      rw [lower_of_mem_buildChildren h entry hentry]
      rfl).trans (List.map_id built)
  exact congrArg Registry.mk hkeep

namespace Description

variable {d : Description}

/-- A menu is made of the children that its description lists. -/
lemma exists_ofChildren_of_build {m : Menu Command} (h : d.build v = .ok (some (.menu m))) :
    d.type = "multi".toList ∧ ∃ built, buildChildren v d.children = .ok built ∧
      m = .ofChildren built d.default d.fallback := by
  have hbuilds := d.builds_build v
  rw [h] at hbuilds
  generalize hresult : Except.ok (some (Action.menu m)) = result at hbuilds
  cases hbuilds with
  | menu htype hbuilt =>
    exact ⟨htype, _, hbuilt, Action.menu.inj (Option.some.inj (Except.ok.inj hresult))⟩
  | func =>
    obtain ⟨callback, -, hleaf⟩ := Option.map_eq_some_iff.mp (Except.ok.inj hresult).symm
    cases hleaf
  | say | whisper | child | fault => cases hresult

lemma live_eq_initial_of_build {m : Menu Command} (h : d.build v = .ok (some (.menu m))) :
    m.live = m.initial := by
  obtain ⟨-, built, -, rfl⟩ := exists_ofChildren_of_build h
  rfl

theorem get?_of_build {m : Menu Command} (h : d.build v = .ok (some (.menu m))) (name : Text) :
    m.get? name = (d.children.find? (·.answers v name.lower)).bind (·.command? v) := by
  obtain ⟨-, built, hbuilt, rfl⟩ := exists_ofChildren_of_build h
  rw [← lookUp_buildChildren hbuilt, Menu.get?, Menu.live_ofChildren hbuilt]
  rfl

lemma type_ne_multi_of_build {l : Leaf} (h : d.build v = .ok (some (.leaf l))) :
    d.type ≠ "multi".toList := by
  have hbuilds := d.builds_build v
  rw [h] at hbuilds
  generalize hresult : Except.ok (some (Action.leaf l)) = result at hbuilds
  cases hbuilds with
  | say htype | whisper htype | func htype => simp [htype]
  | menu | child | fault => cases hresult

theorem child?_of_build {a : Action} (h : d.build v = .ok (some a)) (name : Text) :
    a.child? name = (d.firstChild? v name).bind (·.command? v) := by
  rw [firstChild?]
  cases a with
  | leaf l => rw [if_neg (type_ne_multi_of_build h), Action.child?, Option.bind_none]
  | menu m =>
    rw [if_pos (exists_ofChildren_of_build h).1, ← get?_of_build h, Action.child?]

lemma answers_of_firstChild? {name : Text} {child : ChildDescription}
    (h : d.firstChild? v name = some child) : child.answers v name.lower = true := by
  rw [firstChild?] at h
  split at h
  · exact List.find?_some h
  · cases h

lemma follow?_of_build {a : Action} (h : d.build v = .ok (some a)) (path : List Text)
    (name : Text) : a.follow? path name = (d.follow? v path name).bind (·.command? v) := by
  induction path generalizing d a with
  | nil => exact child?_of_build h name
  | cons outer path ih =>
    rw [Action.follow?, follow?, child?_of_build h]
    cases hentry : d.firstChild? v outer with
    | none => rfl
    | some child =>
      -- An entry that answers makes an action, which is the one that its description builds.
      obtain ⟨c, hc⟩ := Option.isSome_iff_exists.mp
        (Bool.and_eq_true_iff.mp (answers_of_firstChild? hentry)).1
      obtain ⟨made, hmade, rfl⟩ := ChildDescription.command?_eq_some_iff.mp hc
      rw [Option.bind_some, Option.bind_some, hc, Option.bind_some]
      exact ih hmade

/-- A menu answers an alias in any case with the first entry of its description that lists it and makes
an action, and with nothing if there is none. Aliases lead through the menus inside it as they lead
through the descriptions of these, and each menu that they lead to can go back to the same children. -/
theorem menu_answers_first {m : Menu Command} (h : d.build v = .ok (some (.menu m))) :
    (∀ name, m.get? name =
      (d.children.find? (·.answers v name.lower)).bind (·.command? v)) ∧
    m.live = m.initial ∧
    ∀ path name,
      (Action.menu m).follow? path name = (d.follow? v path name).bind (·.command? v) ∧
      ∀ c n, (Action.menu m).follow? path name = some c → c.action = .menu n →
        n.live = n.initial := by
  refine ⟨get?_of_build h, live_eq_initial_of_build h, fun path name => ?_⟩
  have hfollow := follow?_of_build h path name
  refine ⟨hfollow, fun c n hc hmenu => ?_⟩
  rw [hc] at hfollow
  obtain ⟨child, -, hcommand⟩ := Option.bind_eq_some_iff.mp hfollow.symm
  obtain ⟨a, hbuild, rfl⟩ := ChildDescription.command?_eq_some_iff.mp hcommand
  obtain rfl : a = .menu n := hmenu
  exact live_eq_initial_of_build hbuild

/-- A menu whose entries list aliases several times, in several cases and between blanks. The first
entry makes no action, and the last one is a menu. -/
def crowded : Description :=
  let say (text : String) : Description :=
    ⟨"channelmessage".toList, some text.toList, none, [], none, none⟩
  let unknown : Description := ⟨"func".toList, none, some "unknown".toList, [], none, none⟩
  let inner : Description := ⟨"multi".toList, none, none,
    [⟨"on|On".toList, 1, say "first", none⟩, ⟨"ON|off".toList, 2, say "second", none⟩], none, none⟩
  ⟨"multi".toList, none, none,
    [⟨"go|roll".toList, 3, unknown, none⟩,
      ⟨" Go | RUN |go||".toList, 4, say "run", some "Runs.".toList⟩,
      ⟨"run|Lamp".toList, 5, inner, none⟩], none, none⟩

/-- The first entry that makes an action answers, inside the inner menu as well. -/
theorem crowded_answers_first :
    ∃ m, crowded.build ⟨.empty, .empty⟩ = .ok (some (.menu m)) ∧
      (m.get? "GO".toList).map Command.level = some 4 ∧
      (m.get? "run".toList).map Command.level = some 4 ∧
      (m.get? "LAMP".toList).map Command.level = some 5 ∧
      (m.get? "roll".toList).isNone ∧
      ((Action.menu m).follow? ["lamp".toList] "On".toList).map Command.level = some 1 ∧
      ((Action.menu m).follow? ["lamp".toList] "OFF".toList).map Command.level = some 2 := by
  obtain ⟨m, hbuild⟩ : ∃ m, crowded.build ⟨.empty, .empty⟩ = .ok (some (.menu m)) := ⟨_, rfl⟩
  obtain ⟨hget, -, hfollow⟩ := menu_answers_first hbuild
  refine ⟨m, hbuild, ?_, ?_, ?_, ?_, ?_, ?_⟩
  · rw [hget]; decide +kernel
  · rw [hget]; decide +kernel
  · rw [hget]; decide +kernel
  · rw [hget]; decide +kernel
  · rw [(hfollow _ _).1]; decide +kernel
  · rw [(hfollow _ _).1]; decide +kernel

end Description

end CommandBot
