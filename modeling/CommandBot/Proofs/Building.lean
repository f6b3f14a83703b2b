import CommandBot.Proofs.Provenance

/-!
# Building actions

A description is built together with those of a menu's children, at any depth. Building fails exactly if
one of these names an unknown type or lacks the field that its type takes, with the error of the first
one. Otherwise it makes an action, unless the description as a whole names a callback that does not
exist. Every leaf of the action is a response, or a callback that the vocabulary has.
-/

namespace CommandBot

mutual

/-- The descriptions that are built along with one: itself and, of a menu, those of its children, in
order. -/
def Description.parts : Description → List Description
  | ⟨type, message, callback, children, default, fallback⟩ =>
    ⟨type, message, callback, children, default, fallback⟩ ::
      if type = "multi".toList then childParts children else []

def childParts : List ChildDescription → List Description
  | [] => []
  | ⟨_, _, action, _⟩ :: r => action.parts ++ childParts r

end

def missing? (value : Option Text) (type field : String) : Option DescriptionError :=
  if value.isNone then some (.missingField type field) else none

/-- What is wrong with a description by itself: its type is unknown, or the field of its type is
missing. -/
def Description.fault? (d : Description) : Option DescriptionError :=
  if d.type = "channelmessage".toList then missing? d.message "channelmessage" "message"
  else if d.type = "privatemessage".toList then missing? d.message "privatemessage" "message"
  else if d.type = "func".toList then missing? d.callback "func" "cb"
  else if d.type = "multi".toList then none
  else some (.unknownType d.type)

/-- What building makes of a description, given what it makes of the children. -/
inductive Description.Builds (v : Vocabulary) (d : Description) :
    Except DescriptionError (Option Action) → Prop
  | say {text : Text} : d.type = "channelmessage".toList → d.message = some text →
      Builds v d (.ok (some (.leaf (.say ⟨text, v.families⟩))))
  | whisper {text : Text} : d.type = "privatemessage".toList → d.message = some text →
      Builds v d (.ok (some (.leaf (.whisper ⟨text, v.families⟩))))
  | func {name : Text} : d.type = "func".toList → d.callback = some name →
      Builds v d (.ok ((v.callbacks.get? name).map fun c => .leaf (.func name c)))
  | menu {children : List (Text × Command)} : d.type = "multi".toList →
      buildChildren v d.children = .ok children →
      Builds v d (.ok (some (.menu (.ofChildren children d.default d.fallback))))
  | child {e : DescriptionError} : d.type = "multi".toList →
      buildChildren v d.children = .error e → Builds v d (.error e)
  | fault {e : DescriptionError} : d.fault? = some e → Builds v d (.error e)

theorem Description.builds_build (v : Vocabulary) (d : Description) : d.Builds v (d.build v) := by
  obtain ⟨type, message, callback, children, default, fallback⟩ := d
  rw [build]
  split
  · rename_i htype
    cases message with
    | some text => exact .say htype rfl
    | none => exact .fault (if_pos htype)
  split
  · rename_i hsay htype
    cases message with
    | some text => exact .whisper htype rfl
    | none => exact .fault ((if_neg hsay).trans (if_pos htype))
  split
  · rename_i hsay hwhisper htype
    cases callback with
    | some name => exact .func htype rfl
    | none => exact .fault ((if_neg hsay).trans ((if_neg hwhisper).trans (if_pos htype)))
  split
  · rename_i hsay hwhisper hfunc htype
    cases hchildren : buildChildren v children with
    | ok built => exact .menu htype hchildren
    | error e => exact .child htype hchildren
  · rename_i hsay hwhisper hfunc hmenu
    exact .fault ((if_neg hsay).trans ((if_neg hwhisper).trans ((if_neg hfunc).trans (if_neg hmenu))))

namespace Description

variable {d : Description}

lemma parts_eq (d : Description) :
    d.parts = d :: if d.type = "multi".toList then childParts d.children else [] := by
  obtain ⟨type, message, callback, children, default, fallback⟩ := d
  rw [parts]

lemma findSome?_parts (h : d.type ≠ "multi".toList) : d.parts.findSome? fault? = d.fault? := by
  rw [parts_eq, if_neg h, List.findSome?_cons]
  cases d.fault? <;> rfl

lemma findSome?_parts_menu (h : d.type = "multi".toList) :
    d.parts.findSome? fault? = (childParts d.children).findSome? fault? := by
  have hfault : d.fault? = none := by
    rw [fault?, h]
    rfl
  rw [parts_eq, if_pos h, List.findSome?_cons, hfault]

lemma findSome?_parts_of_fault? {e : DescriptionError} (h : d.fault? = some e) :
    d.parts.findSome? fault? = some e := by
  rw [parts_eq, List.findSome?_cons, h]

end Description

mutual

/-- Building fails with the error of the first faulty description among those that are built along. -/
theorem Description.build_eq_error_iff (v : Vocabulary) : (d : Description) →
    ∀ {e : DescriptionError}, d.build v = .error e ↔ d.parts.findSome? Description.fault? = some e
  | ⟨type, message, callback, children, default, fallback⟩, e => by
    have hbuilds := Description.builds_build v ⟨type, message, callback, children, default, fallback⟩
    have hchildren := buildChildren_eq_error_iff v children (e := e)
    generalize Description.build v ⟨type, message, callback, children, default, fallback⟩ = result
      at hbuilds ⊢
    cases hbuilds with
    | say htype hfield | whisper htype hfield | func htype hfield =>
      obtain rfl : type = _ := htype
      obtain rfl : _ = some _ := hfield
      rw [Description.findSome?_parts (by simp)]
      exact iff_of_false nofun nofun
    | menu htype hbuilt =>
      rw [Description.findSome?_parts_menu htype, ← hchildren, hbuilt]
      exact iff_of_false nofun nofun
    | child htype hbuilt =>
      rw [Description.findSome?_parts_menu htype, ← hchildren, hbuilt, Except.error.injEq,
        Except.error.injEq]
    | fault hfault =>
      rw [Description.findSome?_parts_of_fault? hfault, Except.error.injEq, Option.some_inj]

theorem buildChildren_eq_error_iff (v : Vocabulary) : (children : List ChildDescription) →
    ∀ {e : DescriptionError}, buildChildren v children = .error e ↔
      (childParts children).findSome? Description.fault? = some e
  | [], e => by simp [buildChildren, childParts]
  | ⟨aliasList, level, action, description⟩ :: r, e => by
    have hfirst : ∀ {e}, action.build v = .error e ↔
      action.parts.findSome? Description.fault? = some e := action.build_eq_error_iff v
    have hrest := buildChildren_eq_error_iff v r (e := e)
    rw [buildChildren, childParts, List.findSome?_append]
    cases hbuild : action.build v with
    | error e' =>
      rw [hfirst.mp hbuild, Option.some_or, Option.some_inj]
      exact Except.error.injEq e' e ▸ Iff.rfl
    | ok child =>
      have hnone : action.parts.findSome? Description.fault? = none := by
        rw [Option.eq_none_iff_forall_ne_some]
        intro e' he'
        simp [hfirst.mpr he'] at hbuild
      rw [hnone, Option.none_or, ← hrest]
      cases buildChildren v r with
      | error e' => rfl
      | ok rest => exact iff_of_false nofun nofun

end

/-- No action is made, without an error, exactly if the description as a whole names a callback that does
not exist. -/
theorem Description.build_eq_ok_none_iff {v : Vocabulary} {d : Description} :
    d.build v = .ok none ↔
      d.type = "func".toList ∧ ∃ name, d.callback = some name ∧ v.callbacks.get? name = none := by
  have hbuilds := d.builds_build v
  constructor
  · intro h
    generalize d.build v = result at hbuilds h
    cases hbuilds with
    | func htype hcallback =>
      exact ⟨htype, _, hcallback, Option.map_eq_none_iff.mp (Except.ok.inj h)⟩
    | say | whisper | menu | child | fault => cases h
  · rintro ⟨htype, name, hcallback, hunknown⟩
    obtain ⟨type, message, callback, children, default, fallback⟩ := d
    obtain rfl : type = _ := htype
    obtain rfl : callback = _ := hcallback
    simp [build, required, hunknown]

namespace Description

/-- The faults that a description can have by itself. -/
inductive IsFault (d : Description) : DescriptionError → Prop
  | unknownType : (∀ type ∈ ["channelmessage", "privatemessage", "func", "multi"],
      d.type ≠ type.toList) → IsFault d (.unknownType d.type)
  | noMessage {type : String} : type ∈ ["channelmessage", "privatemessage"] →
      d.type = type.toList → d.message = none → IsFault d (.missingField type "message")
  | noCallback : d.type = "func".toList → d.callback = none →
      IsFault d (.missingField "func" "cb")

lemma missing?_eq_some_iff {value : Option Text} {type field : String} {e : DescriptionError} :
    missing? value type field = some e ↔ value = none ∧ .missingField type field = e := by
  simp [missing?]

lemma fault?_eq_some_iff {d : Description} {e : DescriptionError} :
    d.fault? = some e ↔ d.IsFault e := by
  constructor
  · intro h
    rw [fault?] at h
    split at h
    · rename_i htype
      obtain ⟨hfield, rfl⟩ := missing?_eq_some_iff.mp h
      exact .noMessage (by simp) htype hfield
    split at h
    · rename_i htype
      obtain ⟨hfield, rfl⟩ := missing?_eq_some_iff.mp h
      exact .noMessage (by simp) htype hfield
    split at h
    · rename_i htype
      obtain ⟨hfield, rfl⟩ := missing?_eq_some_iff.mp h
      exact .noCallback htype hfield
    split at h
    · cases h
    · rename_i hsay hwhisper hfunc hmenu
      obtain rfl := Option.some.inj h
      exact .unknownType (by simpa using ⟨hsay, hwhisper, hfunc, hmenu⟩)
  · intro h
    cases h with
    | unknownType hunknown =>
      simp only [List.forall_mem_cons, List.not_mem_nil, false_imp_iff, implies_true,
        and_true] at hunknown
      obtain ⟨hsay, hwhisper, hfunc, hmenu⟩ := hunknown
      simp only [fault?, hsay, hwhisper, hfunc, hmenu, if_false]
    | noMessage hmem htype hfield =>
      simp only [List.mem_cons, List.not_mem_nil, or_false] at hmem
      rcases hmem with rfl | rfl <;> simp [fault?, htype, missing?, hfield]
    | noCallback htype hfield => simp [fault?, htype, missing?, hfield]

lemma fault?_eq_none_iff {d : Description} : d.fault? = none ↔ ∀ e, ¬d.IsFault e := by
  rw [Option.eq_none_iff_forall_ne_some]
  exact forall_congr' fun e => not_congr fault?_eq_some_iff

/-- Building goes through the descriptions that are built along, depth first and left to right. It
fails with the error of the first one that has a fault, and with no other error. Without a fault it
makes an action, unless the description as a whole names a callback that does not exist. -/
theorem build_outcome (v : Vocabulary) (d : Description) :
    (∀ e, d.build v = .error e ↔ ∃ before part after, d.parts = before ++ part :: after ∧
      part.IsFault e ∧ ∀ other ∈ before, ∀ e', ¬other.IsFault e') ∧
    (d.build v = .ok none ↔
      d.type = "func".toList ∧ ∃ name, d.callback = some name ∧ v.callbacks.get? name = none) ∧
    ((∃ a, d.build v = .ok (some a)) ↔ (∀ part ∈ d.parts, ∀ e, ¬part.IsFault e) ∧
      ¬(d.type = "func".toList ∧ ∃ name, d.callback = some name ∧ v.callbacks.get? name = none)) := by
  refine ⟨fun e => ?_, build_eq_ok_none_iff, ?_⟩
  · simp only [build_eq_error_iff, List.findSome?_eq_some_iff, fault?_eq_some_iff, fault?_eq_none_iff]
  · rw [← build_eq_ok_none_iff (v := v)]
    have hclean : (∀ part ∈ d.parts, ∀ e, ¬part.IsFault e) ↔ ∀ e, d.build v ≠ .error e := by
      simp only [← fault?_eq_none_iff, Ne, build_eq_error_iff]
      rw [← List.findSome?_eq_none_iff, Option.eq_none_iff_forall_ne_some]
    rw [hclean]
    cases d.build v with
    | error e => simp
    | ok made => cases made <;> simp

end Description

/-- The leaves that descriptions stand for. -/
inductive Leaf.IsBuilt (v : Vocabulary) : Leaf → Prop
  | say (text : Text) : IsBuilt v (.say ⟨text, v.families⟩)
  | whisper (text : Text) : IsBuilt v (.whisper ⟨text, v.families⟩)
  | func {name : Text} {callback : Callback} : v.callbacks.get? name = some callback →
      IsBuilt v (.func name callback)

lemma Menu.leaves_ofChildren {children : List (Text × Command)} {default fallback : Option Text}
    {l : Leaf} (h : l ∈ (Action.menu (.ofChildren children default fallback)).leaves) :
    ∃ name c, (name, c) ∈ children ∧ l ∈ c.action.leaves := by
  obtain ⟨name, c, hc, hl⟩ := mem_childLeaves_iff.mp h
  obtain ⟨⟨other, d⟩, hd, hpair⟩ := List.mem_map.mp hc
  obtain ⟨-, rfl⟩ := Prod.mk.inj hpair
  exact ⟨other, d, hd, hl⟩

mutual

/-- Every leaf of an action that was built, at any depth, stands for a description. -/
theorem Description.isBuilt_of_build (v : Vocabulary) : (d : Description) →
    ∀ {a : Action} {l : Leaf}, d.build v = .ok (some a) → l ∈ a.leaves → l.IsBuilt v
  | ⟨type, message, callback, children, default, fallback⟩, a, l, h, hl => by
    have hbuilds := Description.builds_build v ⟨type, message, callback, children, default, fallback⟩
    generalize Description.build v ⟨type, message, callback, children, default, fallback⟩ = result
      at hbuilds h
    cases hbuilds with
    | say =>
      obtain rfl := Option.some.inj (Except.ok.inj h)
      obtain rfl := List.mem_singleton.mp hl
      exact .say _
    | whisper =>
      obtain rfl := Option.some.inj (Except.ok.inj h)
      obtain rfl := List.mem_singleton.mp hl
      exact .whisper _
    | func =>
      obtain ⟨callback, hget, rfl⟩ := Option.map_eq_some_iff.mp (Except.ok.inj h)
      obtain rfl := List.mem_singleton.mp hl
      exact .func hget
    | menu _ hbuilt =>
      obtain rfl := Option.some.inj (Except.ok.inj h)
      obtain ⟨name, c, hc, hl⟩ := Menu.leaves_ofChildren hl
      exact isBuilt_of_buildChildren v children hbuilt hc hl
    | child | fault => cases h

theorem isBuilt_of_buildChildren (v : Vocabulary) : (children : List ChildDescription) →
    ∀ {built : List (Text × Command)} {name : Text} {c : Command} {l : Leaf},
      buildChildren v children = .ok built → (name, c) ∈ built → l ∈ c.action.leaves → l.IsBuilt v
  | [], built, name, c, l, h, hc, hl => by
    obtain rfl := Except.ok.inj h
    cases hc
  | ⟨aliasList, level, action, description⟩ :: r, built, name, c, l, h, hc, hl => by
    obtain ⟨child, hchild, h⟩ := exists_of_bind_eq_ok h
    obtain ⟨rest, hrest, h⟩ := exists_of_bind_eq_ok h
    obtain rfl := Except.ok.inj h
    cases child with
    | none => exact isBuilt_of_buildChildren v r hrest hc hl
    | some a =>
      rcases List.mem_append.mp hc with hown | hc
      · obtain ⟨x, -, hpair⟩ := List.mem_map.mp hown
        obtain ⟨-, rfl⟩ := Prod.mk.inj hpair
        exact action.isBuilt_of_build v hchild hl
      · exact isBuilt_of_buildChildren v r hrest hc hl

end

/-- A stored command stands for a row exactly if its text is a description that makes an action. -/
theorem CommandTable.ofStored?_eq_some_iff {v : Vocabulary} {s : StoredCommand} {row : Row} :
    ofStored? v s = some row ↔
      ∃ d a, Description.ofText s.action = .ok d ∧ d.build v = .ok (some a) ∧
        row = (s.aliasList, ⟨s.level, a, s.description⟩) := by
  rw [ofStored?, Action.ofText]
  constructor
  · intro h
    split at h
    · rename_i a ha
      split at ha
      · rename_i d hread
        exact ⟨d, a, hread, ha, (Option.some.inj h).symm⟩
      · cases ha
    · cases h
  · rintro ⟨d, a, hread, hbuild, rfl⟩
    simp only [hread, hbuild]

end CommandBot
