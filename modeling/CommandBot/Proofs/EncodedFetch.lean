import CommandBot.Filter.Standard
import CommandBot.Proofs.Decomposing
import CommandBot.Proofs.Executing
import CommandBot.Proofs.FetchOrigin
import CommandBot.Proofs.HandingOn

/-!
# Encoded values in URLs

A percent-encoded text has none of the characters that scanning and the two readings of fetch
placeholders look for, and all of its characters may stand in a URL. So a value that is encoded into
the URL of a fetch placeholder stays inside it: the response has the same single placeholder for both
readings, and its URL is the template's up to the value, followed by the encoded value.
-/

namespace CommandBot

namespace Text

/-- The characters of percent-encoded texts. -/
def isEncodedChar (c : Char) : Bool := c.isAlphanum || "-._~%".toList.contains c

lemma isEncodedChar_capitalHexDigit {n : Nat} (h : n < 16) :
    isEncodedChar (capitalHexDigit n) = true := by
  have hall : ∀ n : Fin 16, isEncodedChar (capitalHexDigit n) = true := by decide
  exact hall ⟨n, h⟩

lemma isEncodedChar_of_mem_percentByte {b : UInt8} {c : Char} (h : c ∈ percentByte b) :
    isEncodedChar c = true := by
  have hbyte : b.toNat < 256 := b.toNat_lt
  rw [percentByte] at h
  split at h
  · rename_i hfree
    obtain rfl := List.mem_singleton.mp h
    simp only [isUnreserved, Bool.and_eq_true, Bool.or_eq_true, beq_iff_eq] at hfree
    simp only [isEncodedChar, Bool.or_eq_true]
    rcases hfree.2 with (((halnum | h) | h) | h) | h
    · exact .inl halnum
    all_goals exact .inr (h ▸ by decide)
  · simp only [List.mem_cons, List.not_mem_nil, or_false] at h
    rcases h with rfl | rfl | rfl
    · decide
    · exact isEncodedChar_capitalHexDigit (by omega)
    · exact isEncodedChar_capitalHexDigit (by omega)

/-- Whatever a text is, its encoding has letters, digits and a few marks alone. -/
theorem isEncodedChar_of_mem_percentEncode {t : Text} {c : Char} (h : c ∈ percentEncode t) :
    isEncodedChar c = true := by
  obtain ⟨b, -, hb⟩ := List.mem_flatMap.mp h
  exact isEncodedChar_of_mem_percentByte hb

lemma not_mem_percentEncode {c : Char} (hc : isEncodedChar c = false) (t : Text) :
    c ∉ percentEncode t := fun h => by
  simp [isEncodedChar_of_mem_percentEncode h] at hc

lemma isUrlChar_of_isEncodedChar {c : Char} (h : isEncodedChar c = true) :
    Fetch.isUrlChar c = true := by
  have hmarks : "-._~%".toList.all Fetch.isUrlChar = true := by decide
  rw [isEncodedChar, Bool.or_eq_true, List.contains_iff_mem] at h
  rcases h with halnum | hmark
  · simp [Fetch.isUrlChar, halnum]
  · exact List.all_eq_true.mp hmarks c hmark

end Text

namespace Fetch

lemma eq_dollar_of_eq_placeholder {c : Char} {r body rest : Text}
    (h : c :: r = placeholder body ++ rest) : c = '$' := by
  rw [placeholder_append] at h
  exact (List.cons.inj h).1

lemma detect_of_ne {c : Char} (hc : c ≠ '$') (r : Text) : detect (c :: r) = none := by
  rw [Option.eq_none_iff_forall_ne_some]
  rintro ⟨body, rest⟩ hread
  exact hc (eq_dollar_of_eq_placeholder (detect_eq_some_iff.mp hread).2)

lemma resolvable_of_ne {c : Char} (hc : c ≠ '$') (r : Text) : resolvable (c :: r) = none := by
  rw [Option.eq_none_iff_forall_ne_some]
  rintro ⟨url, rest⟩ hread
  exact hc (eq_dollar_of_eq_placeholder (resolvable_eq_some_iff.mp hread).2.2)

lemma occurrences_eq_nil {m : Text.Matcher Text} (hm : ∀ c r, c ≠ '$' → m (c :: r) = none) {t : Text}
    (ht : '$' ∉ t) : Text.occurrences m t = [] := by
  simpa using Template.occurrences_append_of_not_mem hm ht []

lemma count_placeholder_append {body rest : Text} (hbody : IsBody body) (hrest : '$' ∉ rest) :
    count (placeholder body ++ rest) = 1 := by
  rw [count, Text.occurrences_of_some (detect_placeholder hbody rest) rfl (placeholder_ne_nil body),
    occurrences_eq_nil (fun c r hc => detect_of_ne hc r) hrest]
  rfl

lemma urls_placeholder_append {url rest : Text} (hurl : IsUrl url) (hends : ¬RunsOn rest)
    (hrest : '$' ∉ rest) : urls (placeholder url ++ rest) = [url] := by
  rw [urls, Text.occurrences_of_some (resolvable_placeholder hurl hends) rfl (placeholder_ne_nil url),
    occurrences_eq_nil (fun c r hc => resolvable_of_ne hc r) hrest]
  rfl

lemma not_runsOn_of_space {rest : Text} (h : rest = [] ∨ rest.head? = some ' ') :
    ¬RunsOn rest := by
  rcases h with rfl | h
  · exact List.not_mem_nil
  · obtain ⟨r, rfl⟩ := List.head?_eq_some_iff.mp h
    have hstop : isUrlChar ' ' = false := by decide
    simp [RunsOn, hstop]

end Fetch

lemma PendingMessage.urls_execute_of_singleton {m : PendingMessage} {url : Text}
    (hcount : Fetch.count m.text ≤ m.ceiling) (hurls : Fetch.urls m.text = [url]) (web : Web)
    (host : Host) : (m.execute web host).1.map Attempt.url = [url] := by
  by_cases hsucceeds : Fetch.Succeeds web url
  · have hresolves : m.Resolves web := ⟨hcount, by simpa [hurls] using hsucceeds⟩
    rw [(execute_of_resolves hresolves host).1, hurls]
  · have hsplit : Fetch.urls m.text = [] ++ url :: [] := hurls
    exact (execute_of_fails hcount hsplit (by simp) hsucceeds host).1

namespace Template

variable {families : Registry Family} {family : Family} {p : Placeholder} {url rest : Text}

-- A blank follows what would be the path, and no part of a placeholder begins with one.
lemma Placeholder.read_opening (t : Text) : Placeholder.read (Fetch.opening ++ t) = none := rfl

lemma Positional.read_opening (t : Text) : Positional.read (Fetch.opening ++ t) = none := rfl

lemma opening_eq : Fetch.opening = '$' :: "(urlfetch ".toList := by decide

/-- What follows the opening of a fetch with a placeholder at the end of its URL. -/
def fetchBody (p : Placeholder) (url rest : Text) : List Segment :=
  [.literal url, .named p, .literal (')' :: rest)]

lemma placeholder_eq (p : Placeholder) (url rest : Text) :
    Fetch.placeholder (url ++ p.print) ++ rest = Fetch.opening ++ printAll (fetchBody p url rest) := by
  simp [Fetch.placeholder, fetchBody, printAll, Segment.print]

section

variable (hp : p.IsSimple) (hurl : '$' ∉ url) (hrest : '$' ∉ rest)
include hp hurl hrest

lemma wellFormed_fetchBody : ∀ s ∈ fetchBody p url rest, s.WellFormed := by
  have hlast : '$' ∉ ')' :: rest := by simp [hrest]
  exact List.forall_mem_cons.mpr ⟨hurl, List.forall_mem_cons.mpr
    ⟨hp, List.forall_mem_singleton.mpr hlast⟩⟩

lemma placeholders_fetch : placeholders (Fetch.placeholder (url ++ p.print) ++ rest) = [p] := by
  have hm : ∀ c r, c ≠ '$' → Placeholder.read (c :: r) = none := fun c r hc =>
    Placeholder.read_of_ne hc r
  rw [placeholder_eq, placeholders, occurrences_append_of_none hm opening_eq (by decide)
    (Placeholder.read_opening _)]
  exact placeholders_printAll (wellFormed_fetchBody hp hurl hrest)

lemma positionals_fetch : positionals (Fetch.placeholder (url ++ p.print) ++ rest) = [] := by
  have hm : ∀ c r, c ≠ '$' → Positional.read (c :: r) = none := fun c r hc =>
    Positional.read_of_ne hc r
  rw [placeholder_eq, positionals, occurrences_append_of_none hm opening_eq (by decide)
    (Positional.read_opening _)]
  exact positionals_printAll (wellFormed_fetchBody hp hurl hrest)

lemma substitutions_fetch (hfamily : p.family? families = some family) :
    substitutions families (Fetch.placeholder (url ++ p.print) ++ rest) =
      [.variable (.ofPlaceholder p) family] := by
  obtain ⟨hpath, hentry⟩ := Placeholder.variableOf?_eq hfamily
  have hsubstitution : p.substitution? families = some (.variable (.ofPlaceholder p) family) := by
    rw [Placeholder.substitution?, if_neg hpath, hentry]
  rw [substitutions_eq, placeholders_fetch hp hurl hrest]
  simp [conditionalsFirst, hpath, List.eraseDups_cons, hsubstitution]

omit hurl hrest in
lemma avoids_opening : Text.Avoids p.print Fetch.opening := by
  obtain ⟨v, hv, -⟩ := hp.exists_print_eq
  rw [hv, opening_eq]
  refine .cons (by decide) fun more hstart => ?_
  -- The placeholder would be read where a fetch opens.
  obtain ⟨after, he⟩ := hstart
  rw [← hv, ← opening_eq] at he
  have hread := Placeholder.read_opening more
  rw [← he, Placeholder.read_print hp.1] at hread
  cases hread

/-- The placeholder gives way inside the URL, and nothing else does. -/
lemma replaceAll_fetch (value : Text) :
    (Fetch.placeholder (url ++ p.print) ++ rest).replaceAll p.print value =
      Fetch.placeholder (url ++ value) ++ rest := by
  obtain ⟨v, hv, -⟩ := hp.exists_print_eq
  have hne := p.enclosed_print.ne_nil
  have hopening := avoids_opening hp
  have hbefore : Text.Avoids p.print url := hv ▸ .of_not_mem hurl
  have hafter : Text.Avoids p.print (')' :: rest) := hv ▸ .of_not_mem (by simp [hrest])
  have hpieces : ∀ x ∈ [Fetch.opening, url, p.print, ')' :: rest],
      x = p.print ∨ Text.Avoids p.print x := by
    simp [hopening, hbefore, hafter]
  have hsplit : Fetch.placeholder (url ++ p.print) ++ rest =
      [Fetch.opening, url, p.print, ')' :: rest].flatten := by
    simp [Fetch.placeholder]
  rw [hsplit, Text.replaceAll_flatten hne value hpieces]
  simp [hopening.ne_needle hne, hbefore.ne_needle hne, hafter.ne_needle hne, Fetch.placeholder]

/-- A response with a value in the URL of its fetch. -/
theorem render_fetch (hfamily : p.family? families = some family) (apply : FilterCaller)
    (ctx : Context) :
    (render apply ⟨Fetch.placeholder (url ++ p.print) ++ rest, families⟩ ctx).1 =
      (p.value? apply family ctx).map fun v => Fetch.placeholder (url ++ v.text) ++ rest := by
  rw [render_of_no_positionals (positionals_fetch hp hurl hrest),
    substitutions_fetch hp hurl hrest hfamily, fillTable_cons, p.text?_variable]
  cases p.value? apply family ctx with
  | none => rfl
  | some v =>
    simp only [Option.map_some, fillTable, Substitution.slot, Slot.ofPlaceholder,
      replaceAll_fetch hp hurl hrest]

end

/-- `$(path:key|urlencode)` -/
def encoded (path key : Text) : Placeholder :=
  ⟨path, none, some (.literal key), [⟨"urlencode".toList, none⟩], []⟩

/-- The template `$(urlfetch URL$(path:key|urlencode))`, and text after it. -/
def encodedFetch (url path key rest : Text) : Text :=
  "$(urlfetch ".toList ++ url ++ "$(".toList ++ path ++ ":".toList ++ key ++ "|urlencode)".toList ++
    [')'] ++ rest

lemma encodedFetch_eq (url path key rest : Text) :
    encodedFetch url path key rest = Fetch.placeholder (url ++ (encoded path key).print) ++ rest := by
  have hprint : (encoded path key).print =
      "$(".toList ++ path ++ ":".toList ++ key ++ "|urlencode)".toList := by
    simp [encoded, Placeholder.print, Key.text, FilterCall.print]
  unfold encodedFetch Fetch.placeholder Fetch.opening
  simp only [hprint, List.append_assoc]

variable {path key : Text}

lemma isSimple_encoded (hpath : IsRun isPathChar path) (hkey : IsRun isKeyChar key) :
    (encoded path key).IsSimple := by
  have hfilter : FilterCall.WellFormed ⟨"urlencode".toList, none⟩ := by decide
  exact ⟨⟨hpath, by simp [encoded], by simpa [encoded, Key.WellFormed] using hkey,
    by simpa [encoded] using hfilter, by simp [encoded], by simp [encoded]⟩,
    by simp [encoded, Key.IsLiteral], rfl⟩

lemma value?_encoded (path key : Text) (family : Family) (ctx : Context) :
    (encoded path key).value? Filter.standard.callFilter family ctx =
      (family key ctx).map fun v => .string v.text.percentEncode := by
  have hresolve : (encoded path key).resolve? family ctx = family key ctx := rfl
  rw [Placeholder.value?, hresolve]
  cases family key ctx <;> rfl

/-- Detection ends the template's fetch placeholder at the placeholder inside it. -/
lemma fetchCeiling_encodedFetch (hpath : IsRun isPathChar path) (hkey : IsRun isKeyChar key)
    (hurl : Fetch.IsUrl url) (hclose : ')' ∉ url) (hrest : '$' ∉ rest) :
    fetchCeiling ⟨encodedFetch url path key rest, families⟩ = 1 := by
  have hlast : "|urlencode)".toList = "|urlencode".toList ++ [')'] := by decide
  have hshift : encodedFetch url path key rest =
      Fetch.placeholder (url ++ ("$(".toList ++ path ++ ":".toList ++ key ++ "|urlencode".toList)) ++
        ')' :: rest := by
    unfold encodedFetch Fetch.placeholder Fetch.opening
    simp only [hlast, List.append_assoc, List.cons_append, List.nil_append]
  have hline := hurl.oneLine
  have hpathLine : '\n' ∉ path := hpath.not_mem (by decide)
  have hpathClose : ')' ∉ path := hpath.not_mem (by decide)
  have hkeyLine : '\n' ∉ key := hkey.not_mem (by decide)
  have hkeyClose : ')' ∉ key := hkey.not_mem (by decide)
  have hbody : Fetch.IsBody
      (url ++ ("$(".toList ++ path ++ ":".toList ++ key ++ "|urlencode".toList)) :=
    ⟨by simp [hurl.1], by simp [hline, hpathLine, hkeyLine],
      fun h => by simpa [hclose, hpathClose, hkeyClose] using List.mem_of_mem_tail h⟩
  have hmore : '$' ∉ ')' :: rest := by simp [hrest]
  rw [fetchCeiling, hshift]
  exact Fetch.count_placeholder_append hbody hmore

lemma isUrl_append_percentEncode (hurl : Fetch.IsUrl url) (t : Text) :
    Fetch.IsUrl (url ++ t.percentEncode) := by
  refine ⟨by simp [hurl.1], fun c hc => ?_⟩
  rcases List.mem_append.mp hc with hc | hc
  · exact hurl.2 c hc
  · exact Text.isUrlChar_of_isEncodedChar (Text.isEncodedChar_of_mem_percentEncode hc)

/-- A value that is encoded into the URL of a fetch does not get out of it. Whatever its text is, the
response waits for one fetch, and the only URL that is fetched for it is the template's up to the value
with the encoded text after it. -/
theorem encodedFetch_fetches_one {host : Host} {i : Invocation} {v : Json}
    (hfilter : host.filter = Filter.standard.callFilter) (hpath : IsRun isPathChar path)
    (hkey : IsRun isKeyChar key) (hfamily : families.get? path = some family)
    (hvariable : path ≠ conditionalPath) (hurl : Fetch.IsUrl url) (hdollar : '$' ∉ url)
    (hclose : ')' ∉ url) (hspace : rest = [] ∨ rest.head? = some ' ') (hrest : '$' ∉ rest)
    (hvalue : family key (.ofInvocation i) = some v) :
    ∃ m : PendingMessage,
      (Leaf.say ⟨encodedFetch url path key rest, families⟩).run host i =
        ⟨[.schedule m], .ok true⟩ ∧
      m.text = "$(urlfetch ".toList ++ (url ++ v.text.percentEncode) ++ ")".toList ++ rest ∧
      ∀ web host', (m.execute web host').1.map Attempt.url = [url ++ v.text.percentEncode] := by
  have hp := isSimple_encoded hpath hkey
  have hfamily? : (encoded path key).family? families = some family :=
    (if_neg hvariable).trans hfamily
  have hlong := isUrl_append_percentEncode hurl v.text
  have hbody : Fetch.IsBody (url ++ v.text.percentEncode) := by
    refine hlong.isBody fun h => ?_
    simpa [hclose, Text.not_mem_percentEncode (c := ')') (by decide)] using List.mem_of_mem_tail h
  have hcount := Fetch.count_placeholder_append hbody hrest
  have hceiling : fetchCeiling ⟨encodedFetch url path key rest, families⟩ = 1 :=
    fetchCeiling_encodedFetch hpath hkey hurl hclose hrest
  have hadmitted : admitted? ⟨encodedFetch url path key rest, families⟩ host i =
      some (Fetch.placeholder (url ++ v.text.percentEncode) ++ rest) := by
    rw [admitted?_eq_some_iff, hceiling, hcount, encodedFetch_eq, hfilter,
      render_fetch hp hdollar hrest hfamily?, value?_encoded, hvalue]
    exact ⟨rfl, by simp [Fetch.placeholder], Nat.le_refl 1⟩
  refine ⟨⟨.channel i.channel, Fetch.placeholder (url ++ v.text.percentEncode) ++ rest, 1⟩, ?_, rfl,
    fun web host' => ?_⟩
  · rw [Leaf.run, deliver_eq, hadmitted, hceiling]
    rfl
  · have hurls := Fetch.urls_placeholder_append hlong (Fetch.not_runsOn_of_space hspace) hrest
    exact PendingMessage.urls_execute_of_singleton hcount.le hurls web host'

/-- An invocation whose message ends a fetch placeholder, opens another one and breaks the line. -/
def breakingOut : Invocation :=
  { smuggling with message := some "\") $(urlfetch http://evil.example/)\n".toList }

def search : Template :=
  ⟨encodedFetch "http://good.example/?q=".toList "message".toList "text".toList " (as found)".toList,
    Family.standard⟩

/-- The message is looked up at the URL of the template. -/
theorem search_breakingOut :
    ∃ m : PendingMessage,
      (Leaf.say search).run (Platform.host Filter.standard) breakingOut =
        ⟨[.schedule m], .ok true⟩ ∧
      ∀ web host', (m.execute web host').1.map Attempt.url =
        ["http://good.example/?q=%22%29%20%24%28urlfetch%20http%3A%2F%2Fevil.example%2F%29%0A".toList] := by
  have hfilter : (Platform.host Filter.standard).filter = Filter.standard.callFilter := rfl
  have hpath : IsRun isPathChar "message".toList := by decide +kernel
  have hkey : IsRun isKeyChar "text".toList := by decide +kernel
  have hfamily : Family.standard.get? "message".toList = some Family.message := rfl
  have hurl : Fetch.IsUrl "http://good.example/?q=".toList :=
    ⟨by decide, List.all_eq_true.mp (by decide)⟩
  have hspace : " (as found)".toList.head? = some ' ' := by decide
  have hvalue : Family.message "text".toList (.ofInvocation breakingOut) =
      some (.string "\") $(urlfetch http://evil.example/)\n".toList) := rfl
  obtain ⟨m, hrun, -, hfetched⟩ := encodedFetch_fetches_one hfilter hpath hkey hfamily (by decide) hurl
    (by decide) (by decide) (.inr hspace) (by decide) hvalue
  refine ⟨m, hrun, fun web host' => (hfetched web host').trans ?_⟩
  decide +kernel

end Template

end CommandBot
