import CommandBot.Filter.Standard
import CommandBot.Proofs.Rendering

/-!
# Responses of templates in segments

A template in segments has no response exactly if one of its placeholders lacks a value. Otherwise
every segment is replaced by itself, and nothing that is put in is looked at again: neither the
values, if they have no dollar sign, nor the words of the message, if they bring in no positional
placeholder that is filled in after theirs.
-/

namespace CommandBot.Template

variable {families : Registry Family} {apply : FilterCaller} {ctx : Context}
  {segments : List Segment}

/-- Why a placeholder has no value: there is nothing to look up, its family has no such variable, or
its filters drop what it has. -/
inductive Placeholder.LacksValue (apply : FilterCaller) (p : Placeholder) (family : Family)
    (ctx : Context) : Prop
  | bare (hkey : p.keyText? = none) (hnumber : p.number? = none)
  | unknown (h : p.resolve? family ctx = none)
  | dropped (v : Json) (h : p.resolve? family ctx = some v) (hdrop : pipeline apply p.filters v = none)

lemma Placeholder.value?_eq_none_iff {p : Placeholder} {family : Family} :
    p.value? apply family ctx = none ↔ p.LacksValue apply family ctx := by
  rw [value?]
  constructor
  · intro h
    cases hvalue : p.resolve? family ctx with
    | none => exact .unknown hvalue
    | some v => exact .dropped v hvalue (by rwa [hvalue] at h)
  · rintro (⟨hkey, hnumber⟩ | h | ⟨v, h, hdrop⟩)
    · rw [resolve?, hkey, hnumber]
      rfl
    · rw [h, Option.bind_none]
    · rw [h, Option.bind_some, hdrop]

/-- Some placeholder of a registered family lacks a value. -/
def Unresolved (families : Registry Family) (apply : FilterCaller) (ctx : Context)
    (segments : List Segment) : Prop :=
  ∃ p family, .named p ∈ segments ∧ p.family? families = some family ∧ p.LacksValue apply family ctx

lemma all_resolves_iff :
    segments.all (Segment.resolves families apply ctx) = true ↔
      ¬Unresolved families apply ctx segments := by
  rw [List.all_eq_true]
  constructor
  · rintro h ⟨p, family, hp, hfamily, hlacks⟩
    have hsome := h _ hp
    simp [Segment.resolves, hfamily, Placeholder.value?_eq_none_iff.mpr hlacks] at hsome
  · intro h s hs
    cases s with
    | literal t => rfl
    | positional digits => rfl
    | named p =>
      rw [Segment.resolves, Option.all_eq_true]
      intro family hfamily
      rw [Option.isSome_iff_ne_none]
      exact fun hnone => h ⟨p, family, hs, hfamily, Placeholder.value?_eq_none_iff.mp hnone⟩

/-- The words of a positional table bring in no placeholder that is filled in after theirs. -/
def InertWords (message : Option Text) (table : List Positional) : Prop :=
  table.Pairwise fun p q => Text.Avoids q.print (argumentValue message p.number)

instance (message : Option Text) (table : List Positional) : Decidable (InertWords message table) :=
  inferInstanceAs (Decidable (List.Pairwise _ table))

/-- A template in segments is filled in segment by segment, unless a placeholder lacks a value. -/
theorem render_printAll (h : ∀ s ∈ segments, s.WellFormed)
    (hspelling : OneSpelling (segments.filterMap Segment.digits?))
    (hboth : (∀ p, .named p ∈ segments → p.HasBoth) ∨ ∀ p, .named p ∈ segments → ¬p.HasBoth)
    (hvalues : PlainValues families apply ctx segments)
    (hwords : InertWords ctx.invocation.message (positionalTable (printAll segments))) :
    (render apply ⟨printAll segments, families⟩ ctx).1 =
      if segments.all (Segment.resolves families apply ctx) then
        some (segments.map (Segment.text families apply ctx)).flatten
      else none := by
  have hdigits : ∀ d ∈ segments.filterMap Segment.digits?, (Segment.positional d).WellFormed :=
    fun d hd => h _ (mem_filterMap_digits?.mp hd)
  have hcover : ∀ d, .positional d ∈ segments → d ∈ segments.filterMap Segment.digits? :=
    fun d hd => mem_filterMap_digits?.mpr hd
  rw [render_fst, substitutions, fillTable_printAll h hboth hvalues]
  split
  · rw [Option.map_some, fillPositionals_filled h hvalues (positionals_printAll h) hspelling hdigits
      hcover]
    refine List.Pairwise.imp ?_ hwords
    exact fun havoids _ => havoids
  · rfl

/-- Words without a dollar sign are inert. -/
lemma inertWords_of_not_mem {message : Option Text} {table : List Positional}
    (h : ∀ p ∈ table, '$' ∉ argumentValue message p.number) : InertWords message table :=
  List.pairwise_of_forall_mem_list fun p hp _ _ => .of_not_mem (h p hp)

/-- As long as nothing that is put in has a dollar sign, a template in segments has no response
exactly if one of its placeholders lacks a value, and otherwise its response is what stands for its
segments, one after the other. -/
theorem render_segments (h : ∀ s ∈ segments, s.WellFormed)
    (hspelling : OneSpelling (segments.filterMap Segment.digits?))
    (hboth : (∀ p, .named p ∈ segments → p.HasBoth) ∨ ∀ p, .named p ∈ segments → ¬p.HasBoth)
    (hplain : ∀ s ∈ segments, ∀ t ∈ s.substitute? families apply ctx, '$' ∉ t) :
    ((render apply ⟨printAll segments, families⟩ ctx).1 = none ↔
        Unresolved families apply ctx segments) ∧
      (¬Unresolved families apply ctx segments →
        (render apply ⟨printAll segments, families⟩ ctx).1 =
          some (segments.map (Segment.text families apply ctx)).flatten) := by
  have hvalues : PlainValues families apply ctx segments := fun p hp => hplain _ hp
  have hwords : InertWords ctx.invocation.message (positionalTable (printAll segments)) := by
    refine inertWords_of_not_mem fun p hp => ?_
    obtain ⟨d, hd, rfl⟩ := (mem_positionalTable_iff (positionals_printAll h) hspelling p).mp hp
    exact hplain _ (mem_filterMap_digits?.mp hd) _ rfl
  rw [render_printAll h hspelling hboth hvalues hwords]
  by_cases hall : segments.all (Segment.resolves families apply ctx) = true
  · have hresolved := all_resolves_iff.mp hall
    rw [if_pos hall]
    exact ⟨iff_of_false (by simp) hresolved, fun _ => rfl⟩
  · have hunresolved := not_not.mp (mt all_resolves_iff.mpr hall)
    rw [if_neg hall]
    exact ⟨iff_of_true rfl hunresolved, fun hresolved => absurd hunresolved hresolved⟩

/-- `Hi $(1), $(message:text|urlencode) $(mystery:x)` -/
def greeting : List Segment :=
  [.literal "Hi ".toList, .positional "1".toList, .literal ", ".toList,
    .named ⟨"message".toList, none, some (.literal "text".toList), [⟨"urlencode".toList, none⟩], []⟩,
    .literal " ".toList,
    .named ⟨"mystery".toList, none, some (.literal "x".toList), [], []⟩]

/-- What a command is told if it is invoked with a message. -/
def told (message : Text) : Context := .ofInvocation
  { user := ⟨21, by decide, by decide⟩
    channel := ⟨22, by decide, by decide⟩
    message := some message
    whisper := false
    trigger := "cmd".toList
    level := 100 }

/-- A value is filtered, and a placeholder of no family stands as it is written. -/
theorem greeting_response :
    (∀ s ∈ greeting, s.WellFormed) ∧ OneSpelling (greeting.filterMap Segment.digits?) ∧
      (∀ p, .named p ∈ greeting → ¬p.HasBoth) ∧
      (∀ s ∈ greeting, ∀ t ∈ s.substitute? Family.standard Filter.standard.callFilter
        (told "Ada b".toList), '$' ∉ t) ∧
      ¬Unresolved Family.standard Filter.standard.callFilter (told "Ada b".toList) greeting ∧
      (render Filter.standard.callFilter ⟨printAll greeting, Family.standard⟩
        (told "Ada b".toList)).1 = some "Hi Ada, Ada%20b $(mystery:x)".toList := by
  have hformed : ∀ s ∈ greeting, s.WellFormed := by decide +kernel
  have hspelling : OneSpelling (greeting.filterMap Segment.digits?) := by decide +kernel
  have hboth : ∀ p ∈ greeting.filterMap Segment.placeholder?, ¬p.HasBoth := by decide +kernel
  have hboth : ∀ p, .named p ∈ greeting → ¬p.HasBoth :=
    fun p hp => hboth p (mem_filterMap_placeholder?.mpr hp)
  have hplain : ∀ s ∈ greeting, ∀ t ∈ s.substitute? Family.standard Filter.standard.callFilter
      (told "Ada b".toList), '$' ∉ t := by decide +kernel
  have hresolved : ¬Unresolved Family.standard Filter.standard.callFilter
      (told "Ada b".toList) greeting := all_resolves_iff.mp (by decide +kernel)
  have hresponse := (render_segments hformed hspelling (.inr hboth) hplain).2 hresolved
  exact ⟨hformed, hspelling, hboth, hplain, hresolved, hresponse.trans (by decide +kernel)⟩

/-- A template of literal text and positional placeholders has its words put in all at once, whatever
they are, as long as they bring in no placeholder that is filled in after theirs. -/
theorem render_words (h : ∀ s ∈ segments, s.WellFormed) (hnamed : ∀ p, .named p ∉ segments)
    (hspelling : OneSpelling (segments.filterMap Segment.digits?))
    (hwords : InertWords ctx.invocation.message (positionalTable (printAll segments))) :
    (render apply ⟨printAll segments, families⟩ ctx).1 =
      some (segments.map (Segment.text families apply ctx)).flatten := by
  have hresolves : segments.all (Segment.resolves families apply ctx) = true := by
    rw [all_resolves_iff]
    rintro ⟨p, -, hp, -⟩
    exact hnamed p hp
  rw [render_printAll h hspelling (.inl fun p hp => absurd hp (hnamed p))
    (fun p hp => absurd hp (hnamed p)) hwords, if_pos hresolves]

/-- `$(1) $(2)` -/
def twoWords : List Segment := [.positional "1".toList, .literal " ".toList, .positional "2".toList]

/-- Words that are placeholders themselves stand in the response, if they are filled in already. -/
theorem twoWords_inert :
    (∀ s ∈ twoWords, s.WellFormed) ∧ (∀ p, .named p ∉ twoWords) ∧
      OneSpelling (twoWords.filterMap Segment.digits?) ∧
      InertWords (told "$(1) $(1)".toList).invocation.message
        (positionalTable (printAll twoWords)) ∧
      (render Filter.standard.callFilter ⟨printAll twoWords, Family.standard⟩
        (told "$(1) $(1)".toList)).1 = some "$(1) $(1)".toList := by
  have hformed : ∀ s ∈ twoWords, s.WellFormed := by decide +kernel
  have hnamed : ∀ p, .named p ∉ twoWords := by simp [twoWords]
  have hspelling : OneSpelling (twoWords.filterMap Segment.digits?) := by decide +kernel
  have hwords : InertWords (told "$(1) $(1)".toList).invocation.message
      (positionalTable (printAll twoWords)) := by decide +kernel
  have hresponse : (render Filter.standard.callFilter ⟨printAll twoWords, Family.standard⟩
      (told "$(1) $(1)".toList)).1 = _ := render_words hformed hnamed hspelling hwords
  exact ⟨hformed, hnamed, hspelling, hwords, hresponse.trans (by decide +kernel)⟩

/-- A word that is a placeholder filled in after it gives way to that placeholder's word. -/
theorem twoWords_expanded :
    (∀ s ∈ twoWords, s.WellFormed) ∧ OneSpelling (twoWords.filterMap Segment.digits?) ∧
      (twoWords.map (Segment.text Family.standard Filter.standard.callFilter
        (told "$(2) x".toList))).flatten = "$(2) x".toList ∧
      (render Filter.standard.callFilter ⟨printAll twoWords, Family.standard⟩
        (told "$(2) x".toList)).1 = some "x x".toList := by
  decide +kernel

end CommandBot.Template
