import CommandBot.Proofs.Building

/-!
# Failing

An action fails in one way: the message is led to a raw callback, the user has the levels on the way,
and the callback fails. Descriptions make no raw callbacks, and the built-in one replies without
fail, so handling a message on a loaded table does not fail either, whatever the platform answers.
-/

namespace CommandBot

lemma Template.exists_result_deliver (t : Template) (host : Host) (i : Invocation) (d : Destination) :
    ∃ acted, (t.deliver host i d).result = .ok acted := by
  unfold deliver
  split
  · exact ⟨false, rfl⟩
  · split
    · exact ⟨false, rfl⟩
    · split
      · exact ⟨_, rfl⟩
      · exact ⟨true, rfl⟩

lemma Leaf.run_eq_error_iff {l : Leaf} {host : Host} {i : Invocation} {e : CallbackError} :
    (l.run host i).result = .error e ↔
      ∃ name callback, l = .rawFunc name callback ∧ (callback host i).result = .error e := by
  cases l with
  | say t =>
    obtain ⟨acted, hacted⟩ := t.exists_result_deliver host i (.channel i.channel)
    exact iff_of_false (by simp [run, hacted]) (by simp)
  | whisper t =>
    obtain ⟨acted, hacted⟩ := t.exists_result_deliver host i (.privately i.user)
    exact iff_of_false (by simp [run, hacted]) (by simp)
  | func name callback =>
    refine iff_of_false ?_ (by simp)
    rw [run]
    cases (callback host i).result <;> simp
  | rawFunc name callback => simp [run]

lemma runReached_eq_error_iff {host : Host} {reached : Option (Leaf × Invocation)} {e : CallbackError} :
    (runReached host reached).result = .error e ↔
      ∃ l i, reached = some (l, i) ∧ (l.run host i).result = .error e := by
  cases reached with
  | none => exact iff_of_false nofun (by simp)
  | some pair => simp [runReached, Prod.ext_iff]

/-- An action fails exactly if routing leads to a raw callback, the user has the levels of all commands
on the way, and the callback fails. -/
theorem Action.run_eq_error_iff {a : Action} {host : Host} {i : Invocation} {e : CallbackError} :
    (a.run host i).result = .error e ↔
      ∃ r name callback, a.Leads i.message r ∧ (∀ level ∈ r.levels, level ≤ i.level) ∧
        r.leaf = .rawFunc name callback ∧
        (callback host { i with message := r.message }).result = .error e := by
  rw [run, runReached_eq_error_iff]
  constructor
  · rintro ⟨l, j, hreach, hfails⟩
    obtain ⟨r, hleads, hlevels, rfl, rfl⟩ := reach?_eq_some_iff.mp hreach
    obtain ⟨name, callback, hleaf, hfails⟩ := Leaf.run_eq_error_iff.mp hfails
    exact ⟨r, name, callback, hleads, hlevels, hleaf, hfails⟩
  · rintro ⟨r, name, callback, hleads, hlevels, hleaf, hfails⟩
    have hreach := reach?_eq_some_iff.mpr ⟨r, hleads, hlevels, rfl, rfl⟩
    exact ⟨_, _, hreach, Leaf.run_eq_error_iff.mpr ⟨name, callback, hleaf, hfails⟩⟩

/-- A leaf without a raw callback, or with that of the ping. -/
def Leaf.IsSafe (l : Leaf) : Prop :=
  ∀ name callback, l = .rawFunc name callback → callback = Callback.ping

lemma Leaf.IsBuilt.ne_rawFunc {v : Vocabulary} {l : Leaf} (h : l.IsBuilt v) (name : Text)
    (callback : Callback) : l ≠ .rawFunc name callback := by
  cases h <;> simp

lemma Leaf.IsSafe.result_ne_error {l : Leaf} (h : l.IsSafe) (host : Host) (i : Invocation)
    (e : CallbackError) : (l.run host i).result ≠ .error e := by
  rw [Ne, run_eq_error_iff]
  rintro ⟨name, callback, hleaf, hfails⟩
  obtain rfl := h name callback hleaf
  cases hfails

namespace CommandTable

lemma isSafe_of_mem_builtIn {row : Row} (hrow : row ∈ builtIn) {l : Leaf}
    (hl : l ∈ row.2.action.leaves) : l.IsSafe := by
  rcases List.mem_cons.mp hrow with rfl | hrow
  · obtain rfl := List.mem_singleton.mp hl
    rintro name callback ⟨⟩
    rfl
  · obtain rfl := List.mem_singleton.mp hrow
    obtain rfl := List.mem_singleton.mp hl
    rintro name callback ⟨⟩

lemma isSafe_of_mem_rowsToAdd {v : Vocabulary} {stored : List StoredCommand} {row : Row}
    (hrow : row ∈ rowsToAdd v stored) {l : Leaf} (hl : l ∈ row.2.action.leaves) : l.IsSafe := by
  rcases List.mem_append.mp hrow with hbuiltIn | hstored
  · exact isSafe_of_mem_builtIn hbuiltIn hl
  · obtain ⟨s, -, hs⟩ := List.mem_filterMap.mp hstored
    obtain ⟨d, a, -, hbuild, rfl⟩ := ofStored?_eq_some_iff.mp hs
    intro name callback hleaf
    exact absurd hleaf ((d.isBuilt_of_build v hbuild hl).ne_rawFunc name callback)

end CommandTable

namespace Bot

open CommandTable

/-- Loaded commands never fail. An action fails exactly if it comes to a raw callback that fails.
Descriptions make no such callbacks, at any depth, and the one of the built-in commands succeeds. So
handling a message on a loaded table goes through, also when the author's roles are not found. -/
theorem loaded_never_fails {v : Vocabulary} {stored : List StoredCommand} {bot : Bot}
    (hload : load v stored = .ok bot.commands) :
    (∀ (a : Action) host i error, (a.run host i).result = .error error ↔
      ∃ r name callback, a.Leads i.message r ∧ (∀ level ∈ r.levels, level ≤ i.level) ∧
        r.leaf = .rawFunc name callback ∧
        (callback host { i with message := r.message }).result = .error error) ∧
      (∀ (d : Description) a, d.build v = .ok (some a) →
        ∀ name callback, .rawFunc name callback ∉ a.leaves) ∧
      (∀ row ∈ builtIn, ∀ name callback, .rawFunc name callback ∈ row.2.action.leaves →
        callback = Callback.ping) ∧
      (∀ host i, ∃ acted, (Callback.ping host i).result = .ok acted) ∧
      ∀ world e, (bot.handle world e).result = .ok () := by
  refine ⟨fun _ _ _ _ => Action.run_eq_error_iff, ?_, ?_, fun _ _ => ⟨_, rfl⟩, ?_⟩
  · intro d a hbuild name callback hmem
    exact (d.isBuilt_of_build v hbuild hmem).ne_rawFunc name callback rfl
  · intro row hrow name callback hmem
    exact isSafe_of_mem_builtIn hrow hmem name callback rfl
  · intro world e
    obtain ⟨hloaded, hplaced⟩ := loaded_of_load hload
    rw [handle_eq, run]
    cases hresult : (runReached (Platform.host bot.filters) (bot.reach? world e)).result with
    | ok acted => rfl
    | error error =>
      obtain ⟨l, i, hreach, hfails⟩ := runReached_eq_error_iff.mp hresult
      obtain ⟨row, hrow, hl⟩ := exists_row_of_reach? hloaded hplaced hreach
      exact absurd hfails ((isSafe_of_mem_rowsToAdd hrow hl).result_ne_error _ i error)

def strangerPing : MessageEvent := { greet with roles := none, content := "!ping".toList }

def outOfOrder : Callback := fun _ _ => ⟨[], .error ⟨"broken"⟩⟩

/-- The stranger's roles are asked for in vain, and the ping is still answered. A raw callback that fails
makes an action fail. -/
theorem merger_answers_stranger :
    load standardVocabulary [openRow, secretRow] = .ok merger.commands ∧
      (merger.handle silence strangerPing).requests =
        [.member one one, .message one "Pong!".toList] ∧
      (merger.handle silence strangerPing).result = .ok () ∧
      ((Action.leaf (.rawFunc "broken".toList outOfOrder)).run (Platform.host .empty)
        (merger.invocation strangerPing "broken".toList none none)).result = .error ⟨"broken"⟩ := by
  obtain ⟨hfails, -, -, -, hok⟩ := loaded_never_fails load_merger
  refine ⟨load_merger, by decide +kernel, hok silence strangerPing, (hfails _ _ _ _).mpr ?_⟩
  exact ⟨_, "broken".toList, outOfOrder, .leaf _ _, by simp, rfl, rfl⟩

end Bot

end CommandBot
