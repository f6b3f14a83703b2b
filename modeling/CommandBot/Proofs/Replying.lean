import CommandBot.Proofs.FetchOrigin
import CommandBot.Proofs.Provenance

/-!
# Replies

A run replies at most once: a response to the place that its kind of action names, a callback to where
the invocation came from. A ban, or the lifting of one, comes before the reply and never alone. On a
host that takes every message a run has acted exactly if it replied, and otherwise there is no trace
of it.
-/

namespace CommandBot

/-- Where an event sends a text, at once or after its fetches. -/
def Event.destination? : Event → Option Destination
  | .say id _ => some (.channel id)
  | .whisper user _ => some (.privately user)
  | .schedule m => some m.destination
  | .ban _ _ | .unban _ _ => none

/-- Where an outcome sends its texts, in order. -/
def Outcome.deliveries (o : Outcome) : List Destination := o.events.filterMap Event.destination?

/-- Events with one reply, at the end, and at most one ban or lifting of a ban before it. -/
inductive Replies (d : Destination) : List Event → Prop
  | only {reply : Event} : reply.destination? = some d → Replies d [reply]
  | afterBan {reply : Event} (user : Snowflake) (reason : Option Text) :
      reply.destination? = some d → Replies d [.ban user reason, reply]
  | afterUnban {reply : Event} (user : Snowflake) (reason : Option Text) :
      reply.destination? = some d → Replies d [.unban user reason, reply]

/-- A host that takes every message. -/
def Host.TakesAll (host : Host) : Prop := ∀ d t, host.accepts d t = true

/-- An outcome without an event that did not act, or one with a single reply, which acted if the host
takes every message. -/
inductive Outcome.Settled (host : Host) (d : Destination) (o : Outcome) : Prop
  | idle : o.events = [] → o.result ≠ .ok true → Settled host d o
  | replied : Replies d o.events → (host.TakesAll → o.result = .ok true) → Settled host d o

lemma Destination.destination?_event (d : Destination) (t : Text) :
    (d.event t).destination? = some d := by
  cases d <;> rfl

lemma Destination.event_ne_schedule (d : Destination) (t : Text) (m : PendingMessage) :
    d.event t ≠ .schedule m := by
  cases d <;> simp [event]

lemma Replies.filterMap_destination? {d : Destination} {events : List Event} (h : Replies d events) :
    events.filterMap Event.destination? = [d] := by
  cases h with
  | only hreply => simp [hreply]
  | afterBan _ _ hreply =>
    rw [List.filterMap_cons_none rfl]
    simp [hreply]
  | afterUnban _ _ hreply =>
    rw [List.filterMap_cons_none rfl]
    simp [hreply]

lemma settled_nothing (host : Host) (d : Destination) : Outcome.nothing.Settled host d :=
  .idle rfl (by simp [Outcome.nothing])

lemma settled_send (host : Host) (d : Destination) (t : Text) : (d.send host t).Settled host d := by
  refine .replied (.only (d.destination?_event t)) fun hall => ?_
  rw [Destination.send, hall d t]

lemma Template.settled_deliver (t : Template) (host : Host) (i : Invocation) (d : Destination) :
    (t.deliver host i d).Settled host d := by
  rw [deliver_eq]
  cases t.admitted? host i with
  | none => exact settled_nothing host d
  | some response =>
    by_cases hnone : t.fetchCeiling = 0
    · simp only [hnone, if_true]
      exact settled_send host d response
    · simp only [hnone, if_false]
      exact .replied (.only rfl) fun _ => rfl

/-- Where a callback replies: privately to a private message, and else in its channel. -/
def Invocation.origin (i : Invocation) : Destination :=
  if i.whisper then .privately i.user else .channel i.channel

namespace Callback

/-- One of the standard callbacks, or one that fails without having done anything. -/
def IsOrdinary (callback : Callback) : Prop :=
  (∃ name, standard.get? name = some callback) ∨ ∀ host i, ∃ e, callback host i = ⟨[], .error e⟩

/-- What an ordinary callback can do: fail, reply, or reply after a ban or the lifting of one. -/
inductive Does (host : Host) (i : Invocation) : Outcome → Prop
  | fail (e : CallbackError) : Does host i ⟨[], .error e⟩
  | reply (t : Text) : Does host i (reply host i t)
  | ban (user : Snowflake) (reason : Option Text) (t : Text) :
      Does host i (before (.ban user reason) (reply host i t))
  | unban (user : Snowflake) (reason : Option Text) (t : Text) :
      Does host i (before (.unban user reason) (reply host i t))

lemma does_ban (host : Host) (i : Invocation) : Does host i (ban host i) := by
  unfold ban
  split
  · exact .reply _
  · split
    · exact .reply _
    · exact .ban _ _ _

lemma does_unban (host : Host) (i : Invocation) : Does host i (unban host i) := by
  unfold unban
  split
  · exact .reply _
  · exact .unban _ _ _

lemma eq_of_get?_standard {name : Text} {callback : Callback}
    (h : standard.get? name = some callback) :
    callback = ping ∨ callback = level ∨ callback = ban ∨ callback = unban := by
  have hmem := Registry.mem_of_lookUp h
  simp only [standard, Registry.ofList, List.mem_reverse, List.mem_cons, Prod.mk.injEq,
    List.not_mem_nil, or_false] at hmem
  tauto

theorem IsOrdinary.does {callback : Callback} (h : callback.IsOrdinary) (host : Host)
    (i : Invocation) : Does host i (callback host i) := by
  rcases h with ⟨name, hname⟩ | hfails
  · rcases eq_of_get?_standard hname with rfl | rfl | rfl | rfl
    · exact .reply _
    · exact .reply _
    · exact does_ban host i
    · exact does_unban host i
  · obtain ⟨e, he⟩ := hfails host i
    exact he ▸ .fail e

lemma Does.settled {host : Host} {i : Invocation} {o : Outcome} (h : Does host i o) :
    o.Settled host i.origin := by
  have hacted : host.TakesAll → ∀ t, (Callback.reply host i t).result = .ok true :=
    fun hall t => congrArg Except.ok (hall _ t)
  cases h with
  | fail e => exact .idle rfl (by simp)
  | reply t => exact settled_send host i.origin t
  | ban user reason t =>
    exact .replied (.afterBan _ _ (i.origin.destination?_event t)) fun hall => hacted hall t
  | unban user reason t =>
    exact .replied (.afterUnban _ _ (i.origin.destination?_event t)) fun hall => hacted hall t

lemma Does.schedule_not_mem {host : Host} {i : Invocation} {o : Outcome} (h : Does host i o)
    (m : PendingMessage) : .schedule m ∉ o.events := by
  have hreply : ∀ t, .schedule m ∉ (Callback.reply host i t).events := fun t hmem =>
    i.origin.event_ne_schedule t m (List.mem_singleton.mp hmem).symm
  cases h with
  | fail e => simp
  | reply t => exact hreply t
  | ban user reason t => simpa [before] using hreply t
  | unban user reason t => simpa [before] using hreply t

end Callback

namespace Leaf

def template? : Leaf → Option Template
  | .say t | .whisper t => some t
  | .func _ _ | .rawFunc _ _ => none

def callback? : Leaf → Option Callback
  | .say _ | .whisper _ => none
  | .func _ callback | .rawFunc _ callback => some callback

def IsOrdinary (l : Leaf) : Prop := ∀ callback, l.callback? = some callback → callback.IsOrdinary

/-- Where a leaf may send a text. The text of the message has no part in it. -/
def destination (i : Invocation) : Leaf → Destination
  | .say _ => .channel i.channel
  | .whisper _ => .privately i.user
  | .func _ _ | .rawFunc _ _ => i.origin

lemma destination_message (i : Invocation) (message : Option Text) (l : Leaf) :
    l.destination { i with message := message } = l.destination i := by
  cases l <;> rfl

lemma IsOrdinary.settled {l : Leaf} (h : l.IsOrdinary) (host : Host) (i : Invocation) :
    (l.run host i).Settled host (l.destination i) := by
  cases l with
  | say t => exact t.settled_deliver host i _
  | whisper t => exact t.settled_deliver host i _
  | rawFunc name callback => exact ((h callback rfl).does host i).settled
  | func name callback =>
    -- An error is swallowed, which leaves the events and turns no result into success.
    cases ((h callback rfl).does host i).settled with
    | idle hevents hresult =>
      refine .idle hevents ?_
      rw [run]
      cases hcase : (callback host i).result with
      | ok acted => simpa [hcase] using hresult
      | error e => simp
    | replied hreplies hacted =>
      refine .replied hreplies fun hall => ?_
      rw [run, hacted hall]

end Leaf

/-- One run, one reply, in the right place: the run of an action leaves no event, or it replies once,
where the leaf that was reached sends its texts. On a host that takes every message a run has acted
exactly if it sent one text, and it left no event if it has not. -/
theorem run_replies_once {a : Action} (ha : ∀ l ∈ a.leaves, l.IsOrdinary) (host : Host)
    (i : Invocation) :
    ((a.run host i).events = [] ∨
      ∃ l j, a.reach? i = some (l, j) ∧ Replies (l.destination i) (a.run host i).events) ∧
    (host.TakesAll →
      ((a.run host i).result = .ok true ↔ (a.run host i).deliveries.length = 1) ∧
      ((a.run host i).result ≠ .ok true → (a.run host i).events = [])) := by
  -- Both parts are read off the shape of the run of the leaf that is reached, if any.
  have hsettled : (a.run host i).events = [] ∧ (a.run host i).result ≠ .ok true ∨
      ∃ l j, a.reach? i = some (l, j) ∧ Replies (l.destination i) (a.run host i).events ∧
        (host.TakesAll → (a.run host i).result = .ok true) := by
    rw [Action.run]
    cases hreach : a.reach? i with
    | none => exact .inl ⟨rfl, by simp [runReached, Outcome.nothing]⟩
    | some reached =>
      obtain ⟨l, j⟩ := reached
      obtain ⟨r, hleads, -, rfl, rfl⟩ := Action.reach?_eq_some_iff.mp hreach
      have hleaf := (ha _ hleads.leaf_mem).settled host { i with message := r.message }
      rw [Leaf.destination_message] at hleaf
      cases hleaf with
      | idle hevents hresult => exact .inl ⟨hevents, hresult⟩
      | replied hreplies hacted => exact .inr ⟨_, _, rfl, hreplies, hacted⟩
  rcases hsettled with ⟨hevents, hresult⟩ | ⟨l, j, hreach, hreplies, hacted⟩
  · refine ⟨.inl hevents, fun _ => ⟨?_, fun _ => hevents⟩⟩
    exact iff_of_false hresult (by simp [Outcome.deliveries, hevents])
  · refine ⟨.inr ⟨l, j, hreach, hreplies⟩, fun hall => ⟨?_, fun hnot => absurd (hacted hall) hnot⟩⟩
    exact iff_of_true (hacted hall) (by simp [Outcome.deliveries, hreplies.filterMap_destination?])

def banLeaf : Leaf := .func "ban".toList Callback.ban

/-- A menu with a ban for some users and a greeting for all. -/
def moderation : Action :=
  .menu (.ofChildren [("ban".toList, ⟨200, .leaf banLeaf, none⟩), ("hi".toList, Bot.hello)] none none)

def banning : Invocation := ⟨Bot.one, Bot.one, some "Ban 42 spam".toList, false, "mod".toList, 200⟩

/-- A ban through that menu is followed by one reply in the channel. -/
theorem moderation_bans_and_replies :
    (∀ l ∈ moderation.leaves, l.IsOrdinary) ∧ (Platform.host .empty).TakesAll ∧
      (∃ l j, moderation.reach? banning = some (l, j) ∧
        Replies (l.destination banning) (moderation.run (Platform.host .empty) banning).events) ∧
      (moderation.run (Platform.host .empty) banning).deliveries = [.channel Bot.one] ∧
      (moderation.run (Platform.host .empty) banning).result = .ok true := by
  have hleaves : ∀ l ∈ moderation.leaves, l.IsOrdinary := by
    intro l hl callback hcallback
    obtain rfl | rfl : l = banLeaf ∨ l = Bot.hi := by
      have hall : moderation.leaves = [banLeaf, Bot.hi] := rfl
      simpa [hall] using hl
    · obtain rfl := Option.some.inj hcallback
      exact .inl ⟨"ban".toList, rfl⟩
    · cases hcallback
  have htakes : (Platform.host .empty).TakesAll := fun _ _ => rfl
  have hevents : (moderation.run (Platform.host .empty) banning).events ≠ [] := by decide +kernel
  have hdeliveries : (moderation.run (Platform.host .empty) banning).deliveries = [.channel Bot.one] := by
    decide +kernel
  obtain ⟨hreplies, hacted⟩ := run_replies_once hleaves (Platform.host .empty) banning
  refine ⟨hleaves, htakes, hreplies.resolve_left hevents, hdeliveries, ?_⟩
  exact (hacted htakes).1.mpr (by rw [hdeliveries]; rfl)

end CommandBot
