import CommandBot.Proofs.Access
import CommandBot.Proofs.Lowering
import CommandBot.Proofs.SettingsReading
import CommandBot.Proofs.TableLoading

/-!
# Invoking by a trigger

The content of a message is read by one written form: blanks, the command prefix, a word right after
it, and the text after the word. Settings have no prefix that trimming would change, and tables bind
no trigger that trimming or lowering would change, so every bound trigger without blanks inside can be
invoked, in any case and with any spacing.
-/

namespace CommandBot

open Text (IsWord Trimmed Blanks Opens)

lemma Settings.trimmed_commandPrefix {lookUp : String → Option Text} {s : Settings}
    (h : ofLookup lookUp = .ok s) : s.commandPrefix ≠ [] ∧ s.commandPrefix.Trimmed := by
  rw [(ofLookup_eq_ok_iff.mp h).commandPrefix]
  cases hset : (lookUp "COMMAND_PREFIX").bind fun t => Text.nonEmpty? t.trim with
  | none => exact ⟨List.cons_ne_nil _ _, .of_not_blank (List.forall_mem_singleton.mpr rfl)⟩
  | some commandPrefix =>
    obtain ⟨t, -, ht⟩ := Option.bind_eq_some_iff.mp hset
    obtain ⟨hne, rfl⟩ := Text.nonEmpty?_eq_some_iff.mp ht
    exact ⟨hne, t.trimmed_trim⟩

/-- An alias is not empty, and neither trimming nor lowering changes it. -/
lemma normal_of_mem_aliases {aliasList x : Text} (hx : x ∈ aliases aliasList) :
    x ≠ [] ∧ x.Trimmed ∧ x.lower = x := by
  obtain ⟨piece, hpiece, rfl⟩ := List.mem_map.mp hx
  obtain ⟨hmem, hne⟩ := List.mem_filter.mp hpiece
  obtain ⟨part, -, rfl⟩ := List.mem_map.mp hmem
  refine ⟨?_, part.trimmed_trim.lower, Text.lower_lower _⟩
  rw [Ne, Text.lower_eq_nil_iff]
  simpa using hne

namespace CommandTable

/-- Whatever happens to a table, its triggers are aliases that some command was added under. -/
lemma Reachable.exists_aliases {t : CommandTable} (ht : t.Reachable) {x : Text}
    (hx : t.triggers.contains x = true) : ∃ aliasList, x ∈ aliases aliasList := by
  induction ht with
  | empty => simp [CommandTable.empty, Registry.contains] at hx
  | @add t t' aliasList c ht hadd ih =>
    rcases ((added_of_add ht.placed hadd).contains_iff x).mp hx with hbound | hlisted
    · exact ih hbound
    · exact ⟨aliasList, hlisted⟩
  | reset _ ih => exact ih hx

end CommandTable

/-- The blanks at the end of an opened text can be taken off, and what remains is trimmed. -/
lemma Text.Opens.exists_trimmed {word rest tail : Text} (h : Opens word rest tail)
    (hword : word.IsWord) (hrest : rest.Trimmed) :
    ∃ body after, Blanks after ∧ tail = body ++ after ∧ body ≠ [] ∧ body.Trimmed ∧
      Opens word rest body := by
  obtain ⟨gap, after, hgap, hafter, hseparated, rfl⟩ := h
  by_cases hnone : rest = []
  · subst hnone
    refine ⟨word, gap ++ after, hgap.append hafter, by simp, hword.1, hword.trimmed, ?_⟩
    exact ⟨[], [], Text.blanks_nil, Text.blanks_nil, by simp, by simp⟩
  · refine ⟨word ++ gap ++ rest, after, hafter, rfl, by simp [hnone], ?_, ?_⟩
    · exact hword.trimmed.append_append hrest hword.1 hnone gap
    · exact ⟨gap, [], hgap, Text.blanks_nil, hseparated, by simp⟩

lemma Text.Opens.append_blanks {word rest tail after : Text} (h : Opens word rest tail)
    (hafter : Blanks after) : Opens word rest (tail ++ after) := by
  obtain ⟨gap, end', hgap, hend, hseparated, rfl⟩ := h
  exact ⟨gap, end' ++ after, hgap, hend.append hafter, hseparated, by simp⟩

namespace Bot

lemma parseInvocation_eq_some_iff_read {commandPrefix content trigger : Text}
    {message : Option Text} :
    parseInvocation commandPrefix content = some (trigger, message) ↔
      ∃ rest word, content.trim = commandPrefix ++ rest ∧
        (∀ c ∈ rest.head?, Text.isBlank c = false) ∧ rest.firstWord? = some (word, message) ∧
        trigger = word.lower := by
  have hhead : ∀ rest : Text, ¬rest.head?.any Text.isBlank = true ↔
      ∀ c ∈ rest.head?, Text.isBlank c = false := by
    intro rest
    cases rest <;> simp
  simp only [parseInvocation, Option.bind_eq_bind, Option.bind_eq_some_iff, Text.after?_eq_some_iff]
  constructor
  · rintro ⟨rest, htrim, h⟩
    split at h
    · cases h
    · rename_i hstart
      obtain ⟨⟨word, message'⟩, hfirst, hpair⟩ := Option.bind_eq_some_iff.mp h
      obtain ⟨rfl, rfl⟩ := Prod.mk.inj (Option.some.inj hpair)
      exact ⟨rest, word, htrim, (hhead rest).mp hstart, hfirst, rfl⟩
  · rintro ⟨rest, word, htrim, hstart, hfirst, rfl⟩
    refine ⟨rest, htrim, ?_⟩
    rw [if_neg ((hhead rest).mpr hstart), hfirst]
    rfl

/-- The contents that invoke a trigger are those of the written form: the prefix, a word with the
trigger as its lower case, and the message after it, with blanks around them and a gap before a
message. -/
theorem parseInvocation_eq_some_iff {commandPrefix content trigger : Text} {message : Option Text}
    (hne : commandPrefix ≠ []) (hpre : commandPrefix.Trimmed) :
    parseInvocation commandPrefix content = some (trigger, message) ↔
      ∃ word rest before tail, word.IsWord ∧ rest.Trimmed ∧ Blanks before ∧ Opens word rest tail ∧
        content = before ++ commandPrefix ++ tail ∧ trigger = word.lower ∧
        message = Text.nonEmpty? rest := by
  rw [parseInvocation_eq_some_iff_read]
  constructor
  · rintro ⟨left, word, htrim, hstart, hfirst, rfl⟩
    obtain ⟨hword, skipped, tail, rest, hskipped, rfl, hopens, hrest, rfl⟩ :=
      Text.firstWord?_eq_some_iff.mp hfirst
    obtain ⟨before, after, hbefore, hafter, hcontent⟩ := content.exists_trim
    -- The word stands right after the prefix, since what follows the prefix is not blank.
    obtain rfl : skipped = [] := by
      cases skipped with
      | nil => rfl
      | cons c r =>
        have hblank : Text.isBlank c = true := hskipped c List.mem_cons_self
        simp [hstart c rfl] at hblank
    refine ⟨word, rest, before, tail ++ after, hword, hrest, hbefore, hopens.append_blanks hafter, ?_,
      rfl, rfl⟩
    rw [hcontent, htrim]
    simp
  · rintro ⟨word, rest, before, tail, hword, hrest, hbefore, hopens, rfl, rfl, rfl⟩
    obtain ⟨body, after, hafter, rfl, hbody, htrimmed, hopens'⟩ := hopens.exists_trimmed hword hrest
    have hwhole : (commandPrefix ++ body).Trimmed := by
      simpa using hpre.append_append htrimmed hne hbody []
    refine ⟨body, word, ?_, htrimmed.start, ?_, rfl⟩
    · rw [← List.append_assoc, List.append_assoc before]
      exact hwhole.trim_between hbefore hafter
    · rw [Text.firstWord?_eq_some_iff]
      exact ⟨hword, [], body, rest, Text.blanks_nil, rfl, hopens', hrest, rfl⟩

/-- Every bound trigger without blanks inside can be invoked: after the prefix of any settings, in any
case and with any spacing, it is read as itself, with the message after it, and found in the table.
And whatever is read from a content is a word in lower case, with a trimmed message if any. -/
theorem bound_trigger_invocable {lookUp : String → Option Text} {settings : Settings}
    (hsettings : Settings.ofLookup lookUp = .ok settings) {table : CommandTable}
    (htable : table.Reachable) :
    (∀ trigger word before gap message after : Text, table.triggers.contains trigger = true →
      (∀ c ∈ trigger.trim, Text.isBlank c = false) → word.lower = trigger → Blanks before →
      Blanks gap → Blanks after → message.trim = message → (message ≠ [] → gap ≠ []) →
      parseInvocation settings.commandPrefix
          (before ++ settings.commandPrefix ++ word ++ gap ++ message ++ after) =
        some (trigger, Text.nonEmpty? message) ∧
      ∃ i c, table.triggers.get? trigger = some i ∧ table.commands[i]? = some c ∧
        table.get? trigger = some c) ∧
    ∀ commandPrefix content trigger message,
      parseInvocation commandPrefix content = some (trigger, message) →
      trigger ≠ [] ∧ (∀ c ∈ trigger, Text.isBlank c = false) ∧ trigger.lower = trigger ∧
        ∀ text, message = some text → text ≠ [] ∧ text.trim = text := by
  refine ⟨?_, ?_⟩
  · rintro trigger word before gap message after hbound hinner rfl hbefore hgap hafter hmessage
      hseparated
    obtain ⟨aliasList, halias⟩ := htable.exists_aliases hbound
    obtain ⟨hne, htrimmed, hlower⟩ := normal_of_mem_aliases halias
    rw [Text.trim_eq_self_iff.mpr htrimmed] at hinner
    have hword : word.IsWord := Text.isWord_lower_iff.mp ⟨hne, hinner⟩
    obtain ⟨hpreNe, hpre⟩ := Settings.trimmed_commandPrefix hsettings
    refine ⟨(parseInvocation_eq_some_iff hpreNe hpre).mpr ?_, ?_⟩
    · refine ⟨word, message, before, word ++ gap ++ message ++ after, hword,
        Text.trim_eq_self_iff.mp hmessage, hbefore, ⟨gap, after, hgap, hafter, hseparated, rfl⟩, ?_, rfl,
        rfl⟩
      simp only [List.append_assoc]
    · obtain ⟨i, hi⟩ := (Registry.contains_iff _ _).mp hbound
      have hlt : i < table.commands.length := htable.placed _ i hi
      exact ⟨i, table.commands[i], hi, List.getElem?_eq_getElem hlt,
        by simp [CommandTable.get?, hi, hlt]⟩
  · intro commandPrefix content trigger message h
    obtain ⟨left, word, -, -, hfirst, rfl⟩ := parseInvocation_eq_some_iff_read.mp h
    obtain ⟨hword, -, -, rest, -, -, -, hrest, rfl⟩ := Text.firstWord?_eq_some_iff.mp hfirst
    obtain ⟨hne, hblank⟩ := Text.isWord_lower_iff.mpr hword
    refine ⟨hne, hblank, Text.lower_lower word, fun text htext => ?_⟩
    obtain ⟨hne', rfl⟩ := Text.nonEmpty?_eq_some_iff.mp htext
    exact ⟨hne', Text.trim_eq_self_iff.mpr hrest⟩

/-- An environment with a prefix of two characters, and blanks around it. -/
def questioning (key : String) : Option Text :=
  if key = "COMMAND_PREFIX" then some " ?! ".toList
  else if key = "ADMIN_ROLES" ∨ key = "LISTEN_CHANNELS" then none
  else some "7".toList

/-- A trigger in capitals, of which the last one lowers to a final sigma. -/
theorem greek_trigger_read :
    ∃ (settings : Settings) (table : CommandTable), Settings.ofLookup questioning = .ok settings ∧
      table.Reachable ∧ table.triggers.contains "οδος".toList = true ∧
      parseInvocation settings.commandPrefix
          (['\n'] ++ settings.commandPrefix ++ "ΟΔΟΣ".toList ++ [' '] ++ "Κυρ Σ".toList ++ [' ']) =
        some ("οδος".toList, some "Κυρ Σ".toList) := by
  obtain ⟨settings, hsettings⟩ : ∃ settings, Settings.ofLookup questioning = .ok settings := ⟨_, rfl⟩
  obtain ⟨table, hadd⟩ : ∃ table, CommandTable.empty.add " ΟΔΟΣ|b".toList hello = .ok table :=
    (CommandTable.add_eq_ok_iff CommandTable.Reachable.empty.placed hello _).mpr (by decide +kernel)
  have htable : table.Reachable := .add .empty hadd
  have hbound : table.triggers.contains "οδος".toList = true :=
    ((CommandTable.added_of_add CommandTable.Reachable.empty.placed hadd).contains_iff _).mpr
      (.inr (by decide +kernel))
  have hblank : Blanks ['\n'] ∧ Blanks [' '] :=
    ⟨List.forall_mem_singleton.mpr rfl, List.forall_mem_singleton.mpr rfl⟩
  have hinner : ∀ c ∈ Text.trim "οδος".toList, Text.isBlank c = false := by
    have hall : (Text.trim "οδος".toList).all (!Text.isBlank ·) = true := by decide +kernel
    simpa only [List.all_eq_true, Bool.not_eq_true'] using hall
  refine ⟨settings, table, hsettings, htable, hbound, ?_⟩
  exact ((bound_trigger_invocable hsettings htable).1 _ _ _ _ _ _ hbound hinner (by decide +kernel)
    hblank.1 hblank.2 hblank.2 (by decide) (by decide)).1

end Bot

end CommandBot
