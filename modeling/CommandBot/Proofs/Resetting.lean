import CommandBot.Proofs.Building
import CommandBot.Proofs.TableHistory

/-!
# What a reset undoes

Loading merges rows by the same means by which a menu is extended later, and a reset does not tell
the two apart: it goes back to the commands as their rows built them. So it undoes all extensions,
and with them what loading had merged.
-/

namespace CommandBot

lemma Description.reset_build {v : Vocabulary} {d : Description} {a : Action}
    (h : d.build v = .ok (some a)) : a.reset = a := by
  have hbuilds := d.builds_build v
  generalize d.build v = result at hbuilds h
  cases hbuilds with
  | say | whisper | menu =>
    obtain rfl := Option.some.inj (Except.ok.inj h)
    rfl
  | func =>
    obtain ⟨c, -, rfl⟩ := Option.map_eq_some_iff.mp (Except.ok.inj h)
    rfl
  | child | fault => cases h

namespace CommandTable

lemma isFresh_of_ofStored? {v : Vocabulary} {s : StoredCommand} {row : Row}
    (h : ofStored? v s = some row) : row.2.IsFresh := by
  obtain ⟨d, a, -, hbuild, rfl⟩ := ofStored?_eq_some_iff.mp h
  simp only [Command.IsFresh, Command.reset, Description.reset_build hbuild]

lemma isFresh_of_mem_rowsToAdd {v : Vocabulary} {stored : List StoredCommand} {row : Row}
    (h : row ∈ rowsToAdd v stored) : row.2.IsFresh := by
  rcases List.mem_append.mp h with hbuiltIn | hstored
  · have hfresh : ∀ row ∈ builtIn, row.2.IsFresh :=
      List.forall_mem_cons.mpr ⟨rfl, List.forall_mem_singleton.mpr rfl⟩
    exact hfresh row hbuiltIn
  · obtain ⟨s, -, hs⟩ := List.mem_filterMap.mp hstored
    exact isFresh_of_ofStored? hs

/-- The rows merged into a menu bring no child that the menu does not have itself. -/
def AddNoChild (owner : Row) (merged : List Row) : Prop :=
  owner.2.IsMenu → ∀ name, (provider? (owner :: merged) name).map Prod.snd = owner.2.child? name

lemma agrees_extend_iff (owner : Row) (merged : List Row) :
    owner.2.Agrees (owner.2.extend merged) ↔ AddNoChild owner merged := by
  have hshows := shows_extend owner merged
  constructor
  · intro hagrees hmenu name
    rw [← hmenu.child?_extend]
    exact (hagrees.child?_eq name).symm
  · intro hnone
    refine ⟨hshows.level.symm, ?_, hshows.description.symm⟩
    cases howner : owner.2.action with
    | leaf l =>
      rw [hshows.leaf l howner]
      exact .leaf l
    | menu m =>
      obtain ⟨n, hn, hdefault, hfallback, hinitial, hlive⟩ := hshows.menu m howner
      rw [hn]
      refine .menu ⟨?_, ?_, hdefault.symm, hfallback.symm⟩
      · intro name
        rw [hlive name, hnone ⟨m, howner⟩ name, Command.child?, howner]
      · intro name
        exact (hinitial name).symm

variable {v : Vocabulary} {stored : List StoredCommand} {t u : CommandTable} {more : List Row}

lemma exists_addRows_of_bound {rows : List Row} (hloaded : Loaded rows t) (hplaced : t.Placed)
    (hbound : ∀ row ∈ more, ∀ x ∈ aliases row.1, t.triggers.contains x = true) :
    ∃ u, t.addRows more = .ok u := by
  refine (addRows_eq_ok_iff hplaced hloaded.bound more).mpr ?_
  intro earlier row later hmore
  have hnone : (aliases row.1).filter (· ∉ listed rows ++ listed earlier) = [] := by
    rw [List.filter_eq_nil_iff]
    intro x hx
    have hlisted := (hloaded.bound x).mp (hbound row (by simp [hmore]) x hx)
    simp [hlisted]
  rw [hnone]
  exact List.nodup_nil

/-- Rows whose aliases are all listed before own nothing, so the owners stay those of the first
rows. -/
lemma freshOwners_append {rows : List Row} (hfresh : ∀ row ∈ rows, row.2.IsFresh)
    (hlisted : ∀ row ∈ more, ∀ x ∈ aliases row.1, x ∈ listed rows) :
    FreshOwners ((rows ++ more).map .add) := by
  rintro before row after hhistory ⟨x, hx, hfirst⟩
  obtain ⟨earlier, later, hsplit, rfl, hlater⟩ := List.map_eq_append_iff.mp hhistory
  obtain ⟨first, later, rfl, hrow, -⟩ := List.map_eq_cons_iff.mp hlater
  obtain rfl := Change.add.inj hrow
  rw [added_map_add] at hfirst
  -- The split is among the old rows, or at a new row, which would own what an old one lists.
  by_cases hmem : first ∈ rows
  · exact hfresh first hmem
  · have hnew : ∃ between, earlier = rows ++ between := by
      rcases List.append_eq_append_iff.mp hsplit with ⟨between, hearlier, -⟩ | ⟨rest, hrows, hrest⟩
      · exact ⟨between, hearlier⟩
      · cases rest with
        | nil => exact ⟨[], by simp [hrows]⟩
        | cons other rest =>
          obtain ⟨rfl, -⟩ := List.cons.inj hrest
          exact absurd (by simp [hrows]) hmem
    obtain ⟨between, rfl⟩ := hnew
    have hmore : first ∈ more := by
      have hall : first ∈ rows ++ more := by simp [hsplit]
      exact (List.mem_append.mp hall).resolve_left hmem
    rw [listed_append, List.mem_append, not_or] at hfirst
    exact absurd (hlisted first hmore x hx) hfirst.1

/-- Commands that are added under triggers of a loaded table always go through, and a reset goes back
to the command of the row that owns the trigger, as the row built it. That is what the trigger showed
before if and only if no later row had brought a child into it. -/
theorem reset_shows_loaded_iff (hload : load v stored = .ok t)
    (hbound : ∀ row ∈ more, ∀ x ∈ aliases row.1, t.triggers.contains x = true) :
    ∃ u, t.addRows more = .ok u ∧ ∀ trigger,
      (trigger.lower ∉ listed (rowsToAdd v stored) →
        t.get? trigger = none ∧ u.reset.get? trigger = none) ∧
      ∀ earlier row later, rowsToAdd v stored = earlier ++ row :: later →
        Owns earlier row trigger.lower →
        ∃ c d, t.get? trigger = some c ∧ u.reset.get? trigger = some d ∧ d.Agrees row.2 ∧
          (d.Agrees c ↔ AddNoChild row (extensions earlier row later)) := by
  have hrecorded := recorded_of_load hload
  obtain ⟨u, hadd⟩ := exists_addRows_of_bound hrecorded.loaded hrecorded.placed hbound
  have hlisted : ∀ row ∈ more, ∀ x ∈ aliases row.1, x ∈ listed (rowsToAdd v stored) :=
    fun row hrow x hx => (hrecorded.loaded.bound x).mp (hbound row hrow x hx)
  have hfresh : FreshOwners ((rowsToAdd v stored ++ more).map .add) :=
    freshOwners_append (fun row hrow => isFresh_of_mem_rowsToAdd hrow) hlisted
  have hextended : Recorded ((rowsToAdd v stored ++ more).map .add) u := by
    rw [List.map_append]
    exact hrecorded.replay (by simp) (by rwa [replay_map_add])
  have hreset := hextended.reset hfresh
  refine ⟨u, hadd, fun trigger => ⟨?_, ?_⟩⟩
  · intro hfree
    refine ⟨hrecorded.get?_eq_none (by rwa [added_map_add]), hreset.get?_eq_none ?_⟩
    rw [added_append_reset, added_map_add, listed_append, List.mem_append, not_or]
    refine ⟨hfree, fun hmem => ?_⟩
    obtain ⟨row, hrow, hx⟩ := List.mem_flatMap.mp hmem
    exact hfree (hlisted row hrow _ hx)
  · intro earlier row later hrows howns
    have howns' : Owns (added (earlier.map .add)) row trigger.lower := by rwa [added_map_add]
    have hloaded : (rowsToAdd v stored).map Change.add =
        earlier.map .add ++ .add row :: later.map .add := by simp [hrows]
    have hgone : (rowsToAdd v stored ++ more).map Change.add ++ [.reset] =
        earlier.map .add ++ .add row :: ((later ++ more).map .add ++ [.reset]) := by simp [hrows]
    obtain ⟨c, hc, hshown⟩ := hrecorded.get?_of_owns hloaded howns'
    obtain ⟨d, hd, hbuilt⟩ := hreset.get?_of_owns hgone howns'
    rw [added_map_add, sinceReset_map_add] at hshown
    rw [sinceReset_append_reset] at hbuilt
    have hown : d.Agrees row.2 := hbuilt
    refine ⟨c, d, hc, hd, hown, ?_⟩
    rw [← agrees_extend_iff]
    constructor
    · intro hsame
      exact hown.symm.trans (hsame.trans hshown)
    · intro hsame
      exact hown.trans (hsame.trans hshown.symm)

/-- A later extension of the open menu. -/
def extension : Row := ("M".toList, menuOf [("late".toList, note "bye")])

/-- A menu that no other row was merged into is the same after an extension and a reset. -/
theorem openRow_restored :
    ∃ t, load Bot.standardVocabulary [Bot.openRow] = .ok t ∧
      (∀ row ∈ [extension], ∀ x ∈ aliases row.1, t.triggers.contains x = true) ∧
      ∃ u c d, t.addRows [extension] = .ok u ∧ t.get? "m".toList = some c ∧
        u.reset.get? "m".toList = some d ∧ d.Agrees c := by
  have hcomputed : (load Bot.standardVocabulary [Bot.openRow]).isOk = true ∧
      (ofStored? Bot.standardVocabulary Bot.openRow).map Prod.fst = some "m".toList := by
    decide +kernel
  obtain ⟨hok, hread⟩ := hcomputed
  obtain ⟨row, hrow, hnames⟩ := Option.map_eq_some_iff.mp hread
  have hrows : rowsToAdd Bot.standardVocabulary [Bot.openRow] = builtIn ++ row :: [] := by
    simp [rowsToAdd, hrow]
  have howns : Owns builtIn row (Text.lower "m".toList) := by
    rw [Owns, hnames]
    decide
  cases hload : load Bot.standardVocabulary [Bot.openRow] with
  | error e => simp [hload, Except.isOk, Except.toBool] at hok
  | ok t =>
    have hbound : ∀ row ∈ [extension], ∀ x ∈ aliases row.1, t.triggers.contains x = true := by
      intro other hother x hx
      obtain rfl := List.mem_singleton.mp hother
      obtain rfl : x = "m".toList := List.mem_singleton.mp hx
      rw [(loaded_of_load hload).1.bound, hrows, listed_append, List.mem_append]
      exact .inr (List.mem_flatMap.mpr ⟨row, List.mem_singleton_self row, howns.1⟩)
    obtain ⟨u, hadd, hshown⟩ := reset_shows_loaded_iff hload hbound
    obtain ⟨c, d, hc, hd, -, hiff⟩ := (hshown "m".toList).2 builtIn row [] hrows howns
    have hnone : AddNoChild row (extensions builtIn row []) :=
      (agrees_extend_iff row []).mp (.refl _)
    exact ⟨t, rfl, hbound, u, c, d, hadd, hc, hd, hiff.mpr hnone⟩

/-- A child that loading had merged into a menu is gone after a reset. -/
theorem merger_loses_child :
    load Bot.standardVocabulary [Bot.openRow, Bot.secretRow] = .ok Bot.merger.commands ∧
      Bot.merger.commands.addRows [] = .ok Bot.merger.commands ∧
      ∃ c d, Bot.merger.commands.get? "m".toList = some c ∧
        Bot.merger.commands.reset.get? "m".toList = some d ∧ ¬d.Agrees c := by
  have hcomputed :
      (Bot.merger.commands.get? "m".toList).any (fun c => (c.child? "secret".toList).isSome) = true ∧
      (Bot.merger.commands.reset.get? "m".toList).any (fun d =>
        (d.child? "secret".toList).isNone) = true := by decide +kernel
  obtain ⟨hbefore, hafter⟩ := hcomputed
  obtain ⟨c, hc, hsome⟩ := (Option.any_eq_true _ _).mp hbefore
  obtain ⟨d, hd, hnone⟩ := (Option.any_eq_true _ _).mp hafter
  refine ⟨Bot.load_merger, rfl, c, d, hc, hd, fun hagrees => ?_⟩
  rw [← hagrees.child?_eq, Option.isNone_iff_eq_none.mp hnone] at hsome
  cases hsome

end CommandTable

end CommandBot
