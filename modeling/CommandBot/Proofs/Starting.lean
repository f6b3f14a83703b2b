import CommandBot.Proofs.Access
import CommandBot.Proofs.PrivateMessages
import CommandBot.Proofs.SettingsReading
import CommandBot.Proofs.TableLoading

/-!
# Starting the bot

A bot starts exactly if its settings can be read, its user agent can be sent and its stored commands
can be loaded. From then on it handles messages with a table in use, and whatever it requests from the
web has the headers that were made at the start.
-/

namespace CommandBot

namespace Fetch

/-- Every value in some headers can be sent. -/
def Headers.Sendable (headers : Headers) : Prop :=
  ∀ value ∈ [headers.accept, headers.acceptLanguage, headers.userAgent], isHeaderValue value = true

lemma Headers.sendable_ofUserAgent_iff {userAgent : Text} :
    (ofUserAgent userAgent).Sendable ↔ isHeaderValue userAgent = true := by
  have haccept : isHeaderValue "text/plain".toList = true := by decide
  have hlanguage : isHeaderValue "en-US, en;q=0.9, *;q=0.5".toList = true := by decide
  constructor
  · intro h
    exact h userAgent (List.mem_of_getLast? rfl)
  · intro h
    exact List.forall_mem_cons.mpr
      ⟨haccept, List.forall_mem_cons.mpr ⟨hlanguage, List.forall_mem_singleton.mpr h⟩⟩

/-- Headers are made exactly if all of them can be sent. -/
lemma makeHeaders_eq_ok_iff {userAgent : Text} {headers : Headers} :
    makeHeaders userAgent = .ok headers ↔
      headers = .ofUserAgent userAgent ∧ headers.Sendable := by
  rw [makeHeaders]
  split
  case isTrue h =>
    rw [Except.ok.injEq, eq_comm]
    refine (and_iff_left_of_imp ?_).symm
    rintro rfl
    exact Headers.sendable_ofUserAgent_iff.mpr h
  case isFalse h =>
    refine iff_of_false nofun ?_
    rintro ⟨rfl, hsendable⟩
    exact h (Headers.sendable_ofUserAgent_iff.mp hsendable)

lemma sendable_defaultUserAgent : (Headers.ofUserAgent Settings.defaultUserAgent).Sendable :=
  Headers.sendable_ofUserAgent_iff.mpr (by decide)

end Fetch

namespace CommandTable

lemma Reachable.addRows {t t' : CommandTable} (ht : t.Reachable) {rows : List (Text × Command)}
    (h : t.addRows rows = .ok t') : t'.Reachable := by
  induction rows generalizing t with
  | nil => exact Except.ok.inj h ▸ ht
  | cons row rows ih =>
    obtain ⟨next, hadd, hrest⟩ := exists_of_bind_eq_ok h
    exact ih (ht.add hadd) hrest

/-- A loaded table is in use. -/
theorem reachable_of_load {v : Vocabulary} {stored : List StoredCommand} {t : CommandTable}
    (h : load v stored = .ok t) : t.Reachable :=
  Reachable.empty.addRows h

end CommandTable

namespace Platform

variable {settings : Settings} {world : World} {url : Text} {headers : Fetch.Headers}

lemma fetch_not_mem_performNow (settings : Settings) (world : World) (e : Event) :
    .fetch url headers ∉ performNow settings world e := by
  fun_cases performNow settings world e with
  | case1 channel t => exact fetch_not_mem_send _ t
  | case2 user t => exact fetch_not_mem_send _ t
  | _ => simp

/-- What an event requests from the web has the headers of the user agent. -/
lemma headers_of_fetch_mem_perform {filters : Registry Filter} {e : Event}
    (h : .fetch url headers ∈ perform settings world filters e) :
    headers = .ofUserAgent settings.userAgent := by
  cases e with
  | schedule m =>
    rcases mem_perform_schedule_iff.mp h with hfetch | ⟨-, hsend⟩
    · obtain ⟨_, -, _, -, he⟩ := mem_fetches_iff.mp hfetch
      exact (Request.fetch.inj he).2
    · exact absurd hsend (fetch_not_mem_send _ _)
  | _ =>
    rw [perform] at h
    · exact absurd h (fetch_not_mem_performNow settings world _)
    · nofun

end Platform

namespace Bot

variable {filters : Registry Filter} {v : Vocabulary} {lookUp : String → Option Text}
  {stored : List StoredCommand} {bot : Bot}

theorem start_eq_ok_iff :
    start filters v lookUp stored = .ok bot ↔
      Settings.ofLookup lookUp = .ok bot.settings ∧
        (Fetch.Headers.ofUserAgent bot.settings.userAgent).Sendable ∧
        CommandTable.load v stored = .ok bot.commands ∧ bot.filters = filters := by
  constructor
  · intro h
    obtain ⟨settings, hsettings, h⟩ := exists_of_bind_eq_ok h
    obtain ⟨headers, hheaders, h⟩ := exists_of_bind_eq_ok h
    obtain ⟨commands, hcommands, h⟩ := exists_of_bind_eq_ok h
    obtain rfl := Except.ok.inj h
    rw [mapError_eq_ok_iff] at hsettings hheaders hcommands
    obtain ⟨rfl, hsendable⟩ := Fetch.makeHeaders_eq_ok_iff.mp hheaders
    exact ⟨hsettings, hsendable, hcommands, rfl⟩
  · rintro ⟨hsettings, hsendable, hcommands, rfl⟩
    rw [start, hsettings, hcommands]
    have hheaders := Fetch.makeHeaders_eq_ok_iff.mpr ⟨rfl, hsendable⟩
    simp only [bind, Except.bind, Except.mapError, hheaders]
    rfl

/-- Settings that name no user agent never keep a bot from starting for the sake of its client. -/
theorem start_ne_client_error (h : lookUp "BOT_USER_AGENT" = none) (e : FetchError) :
    start filters v lookUp stored ≠ .error (.client e) := by
  rw [start]
  cases hsettings : Settings.ofLookup lookUp with
  | error e => nofun
  | ok settings =>
    have hagent : settings.userAgent = Settings.defaultUserAgent := by
      rw [(Settings.ofLookup_eq_ok_iff.mp hsettings).userAgent, h, Option.getD_none]
    have hheaders := Fetch.makeHeaders_eq_ok_iff.mpr ⟨rfl, Fetch.sendable_defaultUserAgent⟩
    simp only [bind, Except.bind, Except.mapError, hagent, hheaders]
    cases CommandTable.load v stored <;> nofun

/-- A bot that has started handles every message with a table in use, and all that it requests from
the web has the headers that were made at the start, which can be sent. -/
theorem start_spec (h : start filters v lookUp stored = .ok bot) :
    bot.commands.Reachable ∧
      ∀ world e url headers, .fetch url headers ∈ (bot.handle world e).requests →
        Fetch.makeHeaders bot.settings.userAgent = .ok headers ∧ headers.Sendable := by
  obtain ⟨-, hsendable, hcommands, -⟩ := start_eq_ok_iff.mp h
  refine ⟨CommandTable.reachable_of_load hcommands, fun world e url headers hmem => ?_⟩
  rw [handle_eq, List.mem_append, List.mem_flatMap] at hmem
  rcases hmem with hlookUp | ⟨event, -, hperform⟩
  · cases eq_member_of_mem_lookUps hlookUp
  · obtain rfl := Platform.headers_of_fetch_mem_perform hperform
    exact ⟨Fetch.makeHeaders_eq_ok_iff.mpr ⟨rfl, hsendable⟩, hsendable⟩

example : (start .empty ⟨.empty, .empty⟩
    (fun key => if key = "ADMIN_ROLES" then none else some ['7']) []).toOption.map
      (·.commands.size) = some 2 := by decide +kernel

end Bot

end CommandBot
