import CommandBot.Text.Basic

/-!
# Registries

A registry binds values to names. A later binding of a name hides the earlier ones.
-/

namespace CommandBot

/-- Names with their values, the latest binding first. -/
structure Registry (α : Type) where
  entries : List (Text × α)

namespace Registry

variable {α : Type}

/-- The registry without bindings. -/
def empty : Registry α := ⟨[]⟩

/-- The registry with the given bindings, of which a later one hides an earlier one of its name. -/
def ofList (entries : List (Text × α)) : Registry α := ⟨entries.reverse⟩

/-- The value of the first entry with a name. -/
def lookUp (name : Text) : List (Text × α) → Option α
  | [] => none
  | (other, a) :: r => if other = name then some a else lookUp name r

/-- The value bound to a name. -/
def get? (r : Registry α) (name : Text) : Option α := lookUp name r.entries

/-- Whether a name is bound. -/
def contains (r : Registry α) (name : Text) : Bool := (r.get? name).isSome

/-- Binds a value to a name. -/
def insert (r : Registry α) (name : Text) (a : α) : Registry α := ⟨(name, a) :: r.entries⟩

/-- The bindings of two registries, those of the second hiding those of the first. -/
def overlay (r upper : Registry α) : Registry α := ⟨upper.entries ++ r.entries⟩

/-- The bound names, each once, in order of their code points. -/
def names (r : Registry α) : List Text :=
  (r.entries.map (·.1)).eraseDups.mergeSort fun a b => !decide (b < a)

/-! ## Look-up after each operation -/

theorem lookUp_append (name : Text) (xs ys : List (Text × α)) :
    lookUp name (xs ++ ys) = (lookUp name xs).or (lookUp name ys) := by
  induction xs with
  | nil => rfl
  | cons x xs ih =>
    obtain ⟨other, a⟩ := x
    by_cases h : other = name <;> simp [lookUp, h, ih]

@[simp] theorem get?_empty (name : Text) : (empty : Registry α).get? name = none := rfl

@[simp] theorem get?_insert (r : Registry α) (name other : Text) (a : α) :
    (r.insert name a).get? other = if name = other then some a else r.get? other := rfl

@[simp] theorem get?_overlay (r upper : Registry α) (name : Text) :
    (r.overlay upper).get? name = (upper.get? name).or (r.get? name) :=
  lookUp_append name upper.entries r.entries

theorem contains_iff (r : Registry α) (name : Text) :
    r.contains name ↔ ∃ a, r.get? name = some a := by
  simp [contains, Option.isSome_iff_exists]

end Registry

end CommandBot
