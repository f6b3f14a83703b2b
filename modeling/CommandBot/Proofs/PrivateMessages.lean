import CommandBot.Proofs.WaitingResponses

/-!
# Private messages

The text of a private message is escaped when the message is requested, and not before. So it is
escaped once, whether it is sent at once or after its fetches, and with the fetched bodies in it. Taken
literally, what arrives is what the response came to, while URLs are read from the response as it is.
-/

namespace CommandBot

namespace Text

/-- The characters that are not literal by themselves; the backtick is code point 96. -/
def markdownControls : List Char := ['\\', '*', '_', '~', '\x60', '|', '>']

/-- A text read from left to right with a backslash making the next character literal. There is no
reading if a control character is left that no backslash makes literal. -/
def readLiteral : Text → Option Text
  | [] => some []
  | '\\' :: c :: r => (readLiteral r).map (c :: ·)
  | c :: r => if c ∈ markdownControls then none else (readLiteral r).map (c :: ·)

lemma isMarkdownControl_iff {c : Char} : isMarkdownControl c = true ↔ c ∈ markdownControls := by
  simp [isMarkdownControl, markdownControls, or_assoc]

lemma readLiteral_cons_of_not_mem {c : Char} (hc : c ∉ markdownControls) (r : Text) :
    readLiteral (c :: r) = (readLiteral r).map (c :: ·) := by
  have hne : c ≠ '\\' := by
    rintro rfl
    exact hc (by decide)
  rw [readLiteral, if_neg hc]
  rintro _ _ rfl
  exact absurd rfl hne

/-- An escaped text reads as it was. -/
theorem readLiteral_escapeMarkdown (t : Text) : t.escapeMarkdown.readLiteral = some t := by
  induction t with
  | nil => rfl
  | cons c t ih =>
    rw [escapeMarkdown] at ih ⊢
    rw [List.flatMap_cons]
    split
    · simp only [List.cons_append, List.nil_append, readLiteral, ih, Option.map_some]
    · rename_i hc
      rw [isMarkdownControl_iff] at hc
      rw [List.singleton_append, readLiteral_cons_of_not_mem hc, ih, Option.map_some]

end Text

namespace Fetch

/-- The URL of a fetch is requested before anything that it redirects to. -/
lemma head?_requests (web : Web) (url : Text) :
    (fetch web url).1.requests.head? = (web url).map fun _ => url := by
  rw [fetch]
  cases web url <;> rfl

lemma head?_requests_of_mem {web : Web} {url requested : Text}
    (h : requested ∈ (fetch web url).1.requests) :
    (fetch web url).1.requests.head? = some url := by
  have hhead := head?_requests web url
  cases hweb : web url with
  | none =>
    rw [hweb, Option.map_none, List.head?_eq_none_iff] at hhead
    simp [hhead] at h
  | some visit => rw [hhead, hweb, Option.map_some]

lemma mem_requests_of_succeeds {web : Web} {url : Text} (h : Succeeds web url) :
    url ∈ (fetch web url).1.requests := by
  obtain ⟨body, hbody⟩ := h
  obtain ⟨visit, -, -, hvisit, -⟩ := fetch_eq_ok_iff.mp hbody
  exact List.mem_of_head? ((head?_requests web url).trans (by rw [hvisit, Option.map_some]))

/-- The attempts of resolution are fetches of the URLs that it reads in the text. -/
lemma exists_url_of_mem_attempts {web : Web} {t : Text} {ceiling : Nat} {attempt : Attempt}
    (h : attempt ∈ (resolve web t ceiling).1) : ∃ url ∈ urls t, attempt = (fetch web url).1 := by
  by_cases hcount : count t ≤ ceiling
  · rw [resolve_of_count_le hcount] at h
    obtain ⟨target, htarget, rfl⟩ :=
      List.mem_map.mp ((attempts_resolveTargets_isPrefix web (targets t) t).subset h)
    exact ⟨target.url, map_url_targets t ▸ List.mem_map_of_mem htarget, rfl⟩
  · rw [resolve, if_pos (Nat.lt_of_not_le hcount)] at h
    cases h

lemma fetch_mem_attempts {web : Web} {t : Text} {ceiling : Nat} (hcount : count t ≤ ceiling)
    (h : ∀ url ∈ urls t, Succeeds web url) {url : Text} (hurl : url ∈ urls t) :
    (fetch web url).1 ∈ (resolve web t ceiling).1 := by
  rw [← (resolve_of_succeeds hcount h).1] at hurl
  obtain ⟨attempt, hattempt, rfl⟩ := List.mem_map.mp hurl
  obtain ⟨url, -, rfl⟩ := exists_url_of_mem_attempts hattempt
  exact hattempt

end Fetch

/-- The requests that the run of a leaf leads to. -/
def Leaf.requests (l : Leaf) (settings : Settings) (world : World) (filters : Registry Filter)
    (i : Invocation) : List Request :=
  (l.run (Platform.host filters) i).events.flatMap (Platform.perform settings world filters)

namespace Template

/-- The text that the response of a template comes to: itself, or with the bodies of its fetches in
place if all of them succeed. -/
inductive ComesTo (t : Template) (web : Web) (host : Host) (i : Invocation) : Text → Prop
  | atOnce {response : Text} : t.admitted? host i = some response → t.fetchCeiling = 0 →
      ComesTo t web host i response
  | afterFetches {response : Text} : t.admitted? host i = some response → t.fetchCeiling ≠ 0 →
      (∀ url ∈ Fetch.urls response, Fetch.Succeeds web url) →
      ComesTo t web host i (Fetch.filled web response)

end Template

namespace Platform

variable {settings : Settings} {world : World} {filters : Registry Filter} {r : Request}

lemma mem_post_iff {channel : Snowflake} {content : Text} :
    r ∈ post channel content ↔ r = .message channel content ∧ content.length ≤ maxMessageLength := by
  unfold post
  split <;> simp_all

/-- A private message takes a private channel, and the text is escaped on the way there. -/
lemma mem_send_privately_iff {user : Snowflake} {text : Text} :
    r ∈ send world (.privately user) text ↔ r = .openPrivate user ∨
      ∃ channel, world.privateChannel? user = some channel ∧
        r = .message channel text.escapeMarkdown ∧
        text.escapeMarkdown.length ≤ maxMessageLength := by
  rw [send, List.mem_cons]
  cases world.privateChannel? user with
  | none => simp
  | some channel => simp [mem_post_iff]

lemma fetch_not_mem_post {url : Text} {headers : Fetch.Headers} (channel : Snowflake)
    (content : Text) : .fetch url headers ∉ post channel content := by
  intro hmem
  cases (mem_post_iff.mp hmem).1

lemma fetch_not_mem_send {url : Text} {headers : Fetch.Headers} (d : Destination) (t : Text) :
    .fetch url headers ∉ send world d t := by
  cases d with
  | channel id => exact fetch_not_mem_post id t
  | privately user =>
    rw [mem_send_privately_iff]
    simp

lemma mem_fetches_iff {attempts : List Attempt} :
    r ∈ fetches settings attempts ↔
      ∃ attempt ∈ attempts, ∃ url ∈ attempt.requests,
        r = .fetch url (.ofUserAgent settings.userAgent) := by
  simp [fetches, eq_comm]

lemma performNow_event (settings : Settings) (world : World) (d : Destination) (text : Text) :
    performNow settings world (d.event text) = send world d text := by
  cases d <;> rfl

lemma mem_perform_schedule_iff {m : PendingMessage} :
    r ∈ perform settings world filters (.schedule m) ↔
      r ∈ fetches settings (Fetch.resolve world.web m.text m.ceiling).1 ∨
        m.Resolves world.web ∧ r ∈ send world m.destination (Fetch.filled world.web m.text) := by
  change r ∈ fetches settings (m.execute world.web (host filters)).1 ++
    (m.execute world.web (host filters)).2.events.flatMap (performNow settings world) ↔ _
  rw [List.mem_append]
  refine or_congr Iff.rfl ?_
  by_cases hresolves : m.Resolves world.web
  · rw [(PendingMessage.execute_of_resolves hresolves _).2]
    simp [Destination.send, performNow_event, hresolves]
  · rw [PendingMessage.execute_of_not_resolves hresolves]
    simp [Outcome.nothing, hresolves]

end Platform

namespace Leaf

variable {t : Template} {settings : Settings} {world : World} {filters : Registry Filter}
  {i : Invocation} {r : Request}

/-- A whisper sends what its response comes to, and fetches for the response if it waits. -/
lemma mem_requests_whisper_iff :
    r ∈ (whisper t).requests settings world filters i ↔
      (∃ text, t.ComesTo world.web (Platform.host filters) i text ∧
        r ∈ Platform.send world (.privately i.user) text) ∨
      ∃ response, t.admitted? (Platform.host filters) i = some response ∧ t.fetchCeiling ≠ 0 ∧
        r ∈ Platform.fetches settings (Fetch.resolve world.web response t.fetchCeiling).1 := by
  rw [requests, run_of_template? rfl]
  simp only [List.mem_flatMap, Template.mem_events_deliver_iff]
  constructor
  · rintro ⟨_, ⟨response, hadmitted, ⟨hnone, rfl⟩ | ⟨hsome, rfl⟩⟩, hr⟩
    · exact .inl ⟨response, .atOnce hadmitted hnone, hr⟩
    · rcases Platform.mem_perform_schedule_iff.mp hr with hr | ⟨hresolves, hr⟩
      · exact .inr ⟨response, hadmitted, hsome, hr⟩
      · exact .inl ⟨_, .afterFetches hadmitted hsome hresolves.2, hr⟩
  · rintro (⟨text, hcomes, hr⟩ | ⟨response, hadmitted, hsome, hr⟩)
    · cases hcomes with
      | atOnce hadmitted hnone => exact ⟨_, ⟨text, hadmitted, .inl ⟨hnone, rfl⟩⟩, hr⟩
      | @afterFetches response hadmitted hsome hsucceed =>
        have hcount := (Template.admitted?_eq_some_iff.mp hadmitted).2.2
        exact ⟨_, ⟨response, hadmitted, .inr ⟨hsome, rfl⟩⟩,
          Platform.mem_perform_schedule_iff.mpr (.inr ⟨⟨hcount, hsucceed⟩, hr⟩)⟩
    · exact ⟨_, ⟨response, hadmitted, .inr ⟨hsome, rfl⟩⟩,
        Platform.mem_perform_schedule_iff.mpr (.inl hr)⟩

lemma message_mem_requests_whisper_iff {channel : Snowflake} {content : Text} :
    .message channel content ∈ (whisper t).requests settings world filters i ↔
      ∃ text, t.ComesTo world.web (Platform.host filters) i text ∧
        world.privateChannel? i.user = some channel ∧ content = text.escapeMarkdown ∧
        content.length ≤ Platform.maxMessageLength := by
  constructor
  · intro hmem
    rcases mem_requests_whisper_iff.mp hmem with ⟨text, hcomes, hsend⟩ | ⟨response, -, -, hfetch⟩
    · rcases Platform.mem_send_privately_iff.mp hsend with hopen | ⟨other, hchannel, he, hlength⟩
      · cases hopen
      · obtain ⟨rfl, rfl⟩ := Request.message.inj he
        exact ⟨text, hcomes, hchannel, rfl, hlength⟩
    · obtain ⟨_, -, _, -, he⟩ := Platform.mem_fetches_iff.mp hfetch
      cases he
  · rintro ⟨text, hcomes, hchannel, rfl, hlength⟩
    exact mem_requests_whisper_iff.mpr (.inl ⟨text, hcomes,
      Platform.mem_send_privately_iff.mpr (.inr ⟨channel, hchannel, rfl, hlength⟩)⟩)

/-- A whisper arrives literally. A direct message is the escaped form of what the response comes to,
fetched bodies in place, and read literally it is that text; there is one exactly if the user has a
private channel and the escaped text is not too long. What is requested for its fetches begins with
URLs of the response as it is before any escaping, and with all of them if none fails. -/
theorem whisper_arrives_literally (t : Template) (settings : Settings) (world : World)
    (filters : Registry Filter) (i : Invocation) :
    (∀ text : Text, text.escapeMarkdown.readLiteral = some text) ∧
    (∀ channel content,
      .message channel content ∈ (whisper t).requests settings world filters i ↔
        ∃ text, t.ComesTo world.web (Platform.host filters) i text ∧
          world.privateChannel? i.user = some channel ∧ content = text.escapeMarkdown ∧
          content.length ≤ Platform.maxMessageLength) ∧
    (∀ channel content,
      .message channel content ∈ (whisper t).requests settings world filters i →
        ∃ text, t.ComesTo world.web (Platform.host filters) i text ∧
          content.readLiteral = some text) ∧
    (∀ requested headers,
      .fetch requested headers ∈ (whisper t).requests settings world filters i →
        headers = .ofUserAgent settings.userAgent ∧
        ∃ response, t.admitted? (Platform.host filters) i = some response ∧
          ∃ url ∈ Fetch.urls response, requested ∈ (Fetch.fetch world.web url).1.requests ∧
            (Fetch.fetch world.web url).1.requests.head? = some url) ∧
    ∀ response, t.admitted? (Platform.host filters) i = some response → t.fetchCeiling ≠ 0 →
      (∀ url ∈ Fetch.urls response, Fetch.Succeeds world.web url) →
      ∀ url ∈ Fetch.urls response,
        .fetch url (.ofUserAgent settings.userAgent) ∈
          (whisper t).requests settings world filters i := by
  refine ⟨Text.readLiteral_escapeMarkdown, fun channel content => message_mem_requests_whisper_iff,
    ?_, ?_, ?_⟩
  · intro channel content hmem
    obtain ⟨text, hcomes, -, rfl, -⟩ := message_mem_requests_whisper_iff.mp hmem
    exact ⟨text, hcomes, text.readLiteral_escapeMarkdown⟩
  · intro requested headers hmem
    rcases mem_requests_whisper_iff.mp hmem with
      ⟨text, -, hsend⟩ | ⟨response, hadmitted, -, hfetch⟩
    · exact absurd hsend (Platform.fetch_not_mem_send _ text)
    · obtain ⟨attempt, hattempt, url, hrequested, he⟩ := Platform.mem_fetches_iff.mp hfetch
      cases he
      obtain ⟨url, hurl, rfl⟩ := Fetch.exists_url_of_mem_attempts hattempt
      exact ⟨rfl, response, hadmitted, url, hurl, hrequested, Fetch.head?_requests_of_mem hrequested⟩
  · intro response hadmitted hsome hsucceed url hurl
    have hcount := (Template.admitted?_eq_some_iff.mp hadmitted).2.2
    refine mem_requests_whisper_iff.mpr (.inr ⟨response, hadmitted, hsome, ?_⟩)
    exact Platform.mem_fetches_iff.mpr ⟨_, Fetch.fetch_mem_attempts hcount hsucceed hurl, url,
      Fetch.mem_requests_of_succeeds (hsucceed url hurl), rfl⟩

/-- A page between two stars. -/
def starredPage : Template := ⟨"*$(urlfetch http://a.example/x_y)*".toList, .empty⟩

/-- A world in which every page has markdown in it. -/
def markedWorld : World :=
  ⟨fun _ => some ⟨[], some ⟨200, some "_b_".toList⟩⟩, fun _ => none, some⟩

example (settings : Settings) : (whisper starredPage).requests settings markedWorld .empty asking =
    [.fetch "http://a.example/x_y".toList (.ofUserAgent settings.userAgent),
      .openPrivate asking.user, .message asking.user "\\*\\_b\\_\\*".toList] := rfl

end Leaf

end CommandBot
