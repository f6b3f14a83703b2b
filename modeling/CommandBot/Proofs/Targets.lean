import CommandBot.Proofs.Numerals
import CommandBot.Proofs.Replying
import CommandBot.Proofs.Trimming
import CommandBot.Variable

/-!
# Named users

A text names a user by a spelling of the user's number, bare or in a mention, and every mention that is
printed is one of these texts. A ban falls on the user that the first word of the message names and on
nobody else. Which user that is does not depend on how the number is spelled, so users cannot ban
themselves under another spelling.
-/

namespace CommandBot

open Numeral (Spells)
open Text (Blanks IsWord Opens Trimmed)

namespace Snowflake

/-- The texts that name the user of a number: a spelling of the number by itself, or in a mention of
either form. -/
inductive Names (n : Nat) : Text → Prop
  | bare {t : Text} : Spells n t → Names n t
  | mention {t : Text} : Spells n t → Names n (['<', '@'] ++ t ++ ['>'])
  | exclaimed {t : Text} : Spells n t → Names n (['<', '@'] ++ ('!' :: t) ++ ['>'])

lemma withoutMention_enclosed (inner : Text) :
    withoutMention (['<', '@'] ++ inner ++ ['>']) = (inner.after? ['!']).getD inner := by
  have hafter : Text.after? (['<', '@'] ++ inner ++ ['>']) ['<', '@'] = some (inner ++ ['>']) :=
    Text.after?_eq_some_iff.mpr (List.append_assoc _ _ _)
  have hbefore : Text.before? (inner ++ ['>']) ['>'] = some inner :=
    Text.before?_eq_some_iff.mpr rfl
  simp only [withoutMention, hafter, Option.bind_some, hbefore]

lemma withoutMention_of_not_mem {t : Text} (h : '<' ∉ t) : withoutMention t = t := by
  have hafter : t.after? ['<', '@'] = none := by
    rw [Option.eq_none_iff_forall_ne_some]
    intro r hr
    rw [Text.after?_eq_some_iff] at hr
    simp [hr] at h
  simp only [withoutMention, hafter, Option.bind_none]

lemma names_iff_spells {n : Nat} {t : Text} : Names n t ↔ Spells n (withoutMention t) := by
  have hbang : ∀ u : Text, Spells n u → u.after? ['!'] = none := by
    intro u hu
    rw [Option.eq_none_iff_forall_ne_some]
    intro r hr
    rw [Text.after?_eq_some_iff] at hr
    exact hu.not_mem (c := '!') (by decide) (by decide) (by simp [hr])
  constructor
  · rintro (ht | ht | ht)
    · rwa [withoutMention_of_not_mem (ht.not_mem (by decide) (by decide))]
    · rename_i u
      rwa [withoutMention_enclosed, hbang u ht, Option.getD_none]
    · rename_i u
      have hafter : Text.after? ('!' :: u) ['!'] = some u := Text.after?_eq_some_iff.mpr rfl
      rwa [withoutMention_enclosed, hafter, Option.getD_some]
  · intro h
    cases hinner : (t.after? ['<', '@']).bind (Text.before? · ['>']) with
    | none =>
      simp only [withoutMention, hinner] at h
      exact .bare h
    | some inner =>
      obtain ⟨r, hr, hend⟩ := Option.bind_eq_some_iff.mp hinner
      rw [Text.after?_eq_some_iff] at hr
      rw [Text.before?_eq_some_iff] at hend
      obtain rfl : t = ['<', '@'] ++ inner ++ ['>'] := by rw [hr, hend, List.append_assoc]
      rw [withoutMention_enclosed] at h
      cases hmark : inner.after? ['!'] with
      | none =>
        rw [hmark] at h
        exact .mention h
      | some u =>
        rw [hmark] at h
        rw [Text.after?_eq_some_iff] at hmark
        exact hmark ▸ .exclaimed h

/-- A user is read from the texts that name the user, with any blanks around them. -/
theorem ofTarget?_eq_some_iff {t : Text} {user : Snowflake} :
    ofTarget? t = some user ↔ Names user.val t.trim := by
  rw [names_iff_spells, ← exists_readNat_iff, ofTarget?]
  cases Numeral.readNat Numeral.maxWord (withoutMention t.trim) <;> simp

lemma map_val_ofTarget?_eq_some_iff (t : Text) (n : Nat) :
    (ofTarget? t).map val = some n ↔ 0 < n ∧ n ≤ Numeral.maxWord ∧ Names n t.trim := by
  rw [Option.map_eq_some_iff]
  constructor
  · rintro ⟨user, huser, rfl⟩
    exact ⟨user.pos, user.le_max, ofTarget?_eq_some_iff.mp huser⟩
  · rintro ⟨hpos, hle, hnames⟩
    exact ⟨⟨n, hpos, hle⟩, ofTarget?_eq_some_iff.mpr hnames, rfl⟩

lemma trimmed_mention (user : Snowflake) : user.mention.Trimmed := by
  constructor
  · intro c hc
    obtain rfl : '<' = c := by simpa [mention] using hc
    rfl
  · intro c hc
    rw [mention, List.getLast?_concat] at hc
    obtain rfl := Option.some.inj hc
    rfl

/-- A printed mention is read back. -/
theorem ofTarget?_mention (user : Snowflake) : ofTarget? user.mention = some user := by
  rw [ofTarget?_eq_some_iff, Text.trim_eq_self_iff.mpr user.trimmed_mention]
  exact .mention (Numeral.spells_printNat user.val)

end Snowflake

/-! ### Bans -/

/-- The message of an invocation names a user first: blanks, a word that names the user, and the reason
after a gap, with nothing but blanks around it. There need not be a reason. -/
def Invocation.Targets (i : Invocation) (user : Snowflake) (reason : Option Text) : Prop :=
  ∃ before word rest tail, i.message.getD [] = before ++ tail ∧ Blanks before ∧ word.IsWord ∧
    Opens word rest tail ∧ rest.Trimmed ∧ reason = Text.nonEmpty? rest ∧
    Snowflake.Names user.val word

/-- Bans, and what lifts them. -/
def Event.isModeration : Event → Bool
  | .ban _ _ | .unban _ _ => true
  | .say _ _ | .whisper _ _ | .schedule _ => false

/-- The bans of an outcome, and those that it lifts, in order. -/
def Outcome.moderation (o : Outcome) : List Event := o.events.filter Event.isModeration

lemma Destination.isModeration_event (d : Destination) (t : Text) :
    (d.event t).isModeration = false := by
  cases d <;> rfl

namespace Callback

lemma target?_eq_some_iff {i : Invocation} {user : Snowflake} {reason : Option Text} :
    target? i = some (user, reason) ↔ i.Targets user reason := by
  simp only [target?, Option.bind_eq_bind, Option.bind_eq_some_iff, Option.pure_def, Option.some.injEq]
  constructor
  · rintro ⟨⟨word, left⟩, hfirst, target, htarget, hpair⟩
    obtain ⟨rfl, rfl⟩ := Prod.mk.inj hpair
    obtain ⟨hword, before, tail, rest, hbefore, hmessage, hopens, hrest, rfl⟩ :=
      Text.firstWord?_eq_some_iff.mp hfirst
    rw [Snowflake.ofTarget?_eq_some_iff, Text.trim_eq_self_iff.mpr hword.trimmed] at htarget
    exact ⟨before, word, rest, tail, hmessage, hbefore, hword, hopens, hrest, rfl, htarget⟩
  · rintro ⟨before, word, rest, tail, hmessage, hbefore, hword, hopens, hrest, rfl, hnames⟩
    refine ⟨(word, Text.nonEmpty? rest), ?_, user, ?_, rfl⟩
    · exact Text.firstWord?_eq_some_iff.mpr
        ⟨hword, before, tail, rest, hbefore, hmessage, hopens, hrest, rfl⟩
    · rwa [Snowflake.ofTarget?_eq_some_iff, Text.trim_eq_self_iff.mpr hword.trimmed]

lemma events_ban {host : Host} {i : Invocation} {user : Snowflake} {reason : Option Text}
    (h : i.Targets user reason) (hother : user ≠ i.user) :
    (ban host i).events =
      [.ban user reason, i.origin.event ("Ban requested for ".toList ++ user.mention ++ ['.'])] := by
  rw [← target?_eq_some_iff] at h
  simp only [ban, h, if_neg hother]
  rfl

lemma events_unban {host : Host} {i : Invocation} {user : Snowflake} {reason : Option Text}
    (h : i.Targets user reason) :
    (unban host i).events =
      [.unban user reason, i.origin.event ("Unban requested for ".toList ++ user.mention ++ ['.'])] := by
  rw [← target?_eq_some_iff] at h
  simp only [unban, h]
  rfl

lemma moderation_reply (host : Host) (i : Invocation) (t : Text) :
    (reply host i t).moderation = [] := by
  have hevents : (reply host i t).events = [i.origin.event t] := rfl
  simp [Outcome.moderation, hevents, i.origin.isModeration_event t]

lemma moderation_before {event : Event} (h : event.isModeration = true) (host : Host) (i : Invocation)
    (t : Text) : (before event (reply host i t)).moderation = [event] := by
  rw [Outcome.moderation, before, List.filter_cons_of_pos h, ← Outcome.moderation, moderation_reply]

/-- The user to ban and the reason. -/
def banned? (i : Invocation) : Option (Snowflake × Option Text) :=
  (target? i).filter (·.1 ≠ i.user)

lemma banned?_eq_some_iff {i : Invocation} {user : Snowflake} {reason : Option Text} :
    banned? i = some (user, reason) ↔ i.Targets user reason ∧ user ≠ i.user := by
  simp [banned?, Option.filter_eq_some_iff, target?_eq_some_iff]

lemma moderation_ban (host : Host) (i : Invocation) :
    (ban host i).moderation = (banned? i).toList.map fun named => .ban named.1 named.2 := by
  unfold ban
  split
  · rename_i hnone
    rw [moderation_reply, banned?, hnone]
    rfl
  · rename_i user reason hsome
    rw [banned?, hsome]
    by_cases hself : user = i.user
    · rw [if_pos hself, moderation_reply]
      simp [hself]
    · rw [if_neg hself, moderation_before rfl]
      simp [Option.filter_some, hself]

lemma moderation_unban (host : Host) (i : Invocation) :
    (unban host i).moderation = (target? i).toList.map fun named => .unban named.1 named.2 := by
  unfold unban
  split
  · rename_i hnone
    rw [moderation_reply, hnone]
    rfl
  · rename_i user reason hsome
    rw [moderation_before rfl, hsome]
    rfl

lemma moderation_ban_eq_iff {host : Host} {i : Invocation} {user : Snowflake} {reason : Option Text} :
    (ban host i).moderation = [.ban user reason] ↔ i.Targets user reason ∧ user ≠ i.user := by
  rw [moderation_ban, ← banned?_eq_some_iff]
  cases banned? i <;> simp [Prod.ext_iff]

lemma moderation_unban_eq_iff {host : Host} {i : Invocation} {user : Snowflake}
    {reason : Option Text} :
    (unban host i).moderation = [.unban user reason] ↔ i.Targets user reason := by
  rw [moderation_unban, ← target?_eq_some_iff]
  cases target? i <;> simp [Prod.ext_iff]

lemma moderation_ban_eq_nil {host : Host} {i : Invocation}
    (h : ¬∃ user reason, i.Targets user reason ∧ user ≠ i.user) : (ban host i).moderation = [] := by
  rw [moderation_ban]
  cases hbanned : banned? i with
  | none => rfl
  | some named => exact absurd ⟨_, _, banned?_eq_some_iff.mp hbanned⟩ h

lemma moderation_unban_eq_nil {host : Host} {i : Invocation}
    (h : ¬∃ user reason, i.Targets user reason) : (unban host i).moderation = [] := by
  rw [moderation_unban]
  cases htarget : target? i with
  | none => rfl
  | some named => exact absurd ⟨_, _, target?_eq_some_iff.mp htarget⟩ h

lemma moderation_ban_self {host : Host} {i : Invocation} {reason : Option Text}
    (h : i.Targets i.user reason) : (ban host i).moderation = [] := by
  refine moderation_ban_eq_nil ?_
  rintro ⟨user, other, hother, hne⟩
  rw [← target?_eq_some_iff] at h hother
  rw [h] at hother
  exact hne (Prod.mk.inj (Option.some.inj hother)).1.symm

/-- A text names the user of a number exactly if, without the blanks around it, it is a spelling of the
number, bare or in a mention, and the number is a positive one of 64 bits. So every mention that a
family or a callback prints is read back as the user whose mention it is. A ban falls on the user that
the message names first, unless users name themselves, with the rest of the message for its reason, and
on nobody else; lifting a ban is the same without the exception. -/
theorem bans_named_user (host : Host) (i : Invocation) :
    (∀ t n, (Snowflake.ofTarget? t).map Snowflake.val = some n ↔
      0 < n ∧ n ≤ Numeral.maxWord ∧ Snowflake.Names n t.trim) ∧
    ((∀ ctx, ∃ v, Family.source "mention".toList ctx = some v ∧
        Snowflake.ofTarget? v.text = some ctx.invocation.user) ∧
      (∀ ctx word user, ctx.argument = some word → Snowflake.ofTarget? word = some user →
        ∃ v, Family.user "mention".toList ctx = some v ∧ Snowflake.ofTarget? v.text = some user) ∧
      ∃ mention, Snowflake.ofTarget? mention = some i.user ∧ (level host i).events =
        [i.origin.event (mention ++ ", your level is ".toList ++ Numeral.printInt i.level)]) ∧
    ((∀ user reason, (ban host i).moderation = [.ban user reason] ↔
        i.Targets user reason ∧ user ≠ i.user) ∧
      ((¬∃ user reason, i.Targets user reason ∧ user ≠ i.user) → (ban host i).moderation = []) ∧
      (∀ reason, i.Targets i.user reason → (ban host i).moderation = []) ∧
      ∀ user reason, i.Targets user reason → user ≠ i.user →
        ∃ mention, Snowflake.ofTarget? mention = some user ∧ (ban host i).events =
          [.ban user reason, i.origin.event ("Ban requested for ".toList ++ mention ++ ['.'])]) ∧
    (∀ user reason, (unban host i).moderation = [.unban user reason] ↔ i.Targets user reason) ∧
      ((¬∃ user reason, i.Targets user reason) → (unban host i).moderation = []) ∧
      ∀ user reason, i.Targets user reason →
        ∃ mention, Snowflake.ofTarget? mention = some user ∧ (unban host i).events =
          [.unban user reason,
            i.origin.event ("Unban requested for ".toList ++ mention ++ ['.'])] := by
  refine ⟨Snowflake.map_val_ofTarget?_eq_some_iff, ⟨?_, ?_, ?_⟩, ⟨?_, ?_, ?_, ?_⟩, ?_, ?_, ?_⟩
  · intro ctx
    exact ⟨_, rfl, ctx.invocation.user.ofTarget?_mention⟩
  · intro ctx word user hword huser
    refine ⟨.string user.mention, ?_, user.ofTarget?_mention⟩
    simp [Family.user, hword, huser]
  · exact ⟨i.user.mention, i.user.ofTarget?_mention, rfl⟩
  · exact fun user reason => moderation_ban_eq_iff
  · exact moderation_ban_eq_nil
  · exact fun reason => moderation_ban_self
  · intro user reason h hother
    exact ⟨user.mention, user.ofTarget?_mention, events_ban h hother⟩
  · exact fun user reason => moderation_unban_eq_iff
  · exact moderation_unban_eq_nil
  · intro user reason h
    exact ⟨user.mention, user.ofTarget?_mention, events_unban h⟩

def nine : Snowflake := ⟨9, by decide, by decide⟩

/-- An invocation by user 9 with some message. -/
def moderating (message : String) : Invocation :=
  ⟨nine, Bot.one, some message.toList, false, "ban".toList, 200⟩

/-- Another user is banned under any spelling, and users themselves under none. -/
theorem spellings_banned :
    (moderating " <@!+0042>\tbad  links ").Targets ⟨42, by decide, by decide⟩
        (some "bad  links".toList) ∧
      (ban (Platform.host .empty) (moderating " <@!+0042>\tbad  links ")).moderation =
        [.ban ⟨42, by decide, by decide⟩ (some "bad  links".toList)] ∧
      (moderating "<@+009>").Targets nine none ∧
      (ban (Platform.host .empty) (moderating "<@+009>")).moderation = [] := by
  have hother : (moderating " <@!+0042>\tbad  links ").Targets ⟨42, by decide, by decide⟩
      (some "bad  links".toList) := target?_eq_some_iff.mp (by decide +kernel)
  have hself : (moderating "<@+009>").Targets nine none := target?_eq_some_iff.mp (by decide +kernel)
  obtain ⟨-, -, ⟨hbans, -⟩, -⟩ :=
    bans_named_user (Platform.host .empty) (moderating " <@!+0042>\tbad  links ")
  obtain ⟨-, -, ⟨-, -, hspares, -⟩, -⟩ :=
    bans_named_user (Platform.host .empty) (moderating "<@+009>")
  exact ⟨hother, (hbans _ _).mpr ⟨hother, by decide⟩, hself, hspares _ hself⟩

end Callback

end CommandBot
