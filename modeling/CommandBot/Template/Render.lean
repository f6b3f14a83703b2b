import CommandBot.Fetch.Pattern
import CommandBot.Template.Substitution

/-!
# Filling in templates

The substitutions of a table are made one after the other, each replacing every occurrence of its
written form in the text so far; the first that yields no value leaves no text at all. Positional
placeholders are replaced last. The context is handed from one substitution to the next, since a
placeholder with both a key and a number leaves its word of the message there.
-/

namespace CommandBot

/-- A response text with the variables that it may use. -/
structure Template where
  text : Text
  families : Registry Family

namespace Template

/-- What a substitution is looked up by, and the context afterwards: its key, for which the word
that it numbers goes into the context if it has both, or else that word. -/
def Slot.parameter (slot : Slot) (ctx : Context) : Option Text × Context :=
  match slot.key, slot.number with
  | some key, some number =>
    (some key, { ctx with argument := some (argumentValue ctx.invocation.message number) })
  | some key, none => (some key, ctx)
  | none, some number => (some (argumentValue ctx.invocation.message number), ctx)
  | none, none => (none, ctx)

mutual

/-- The value of a substitution for a parameter, and the context afterwards. -/
def Substitution.resolve (apply : FilterCaller) :
    Substitution → Text → Context → Option Json × Context
  | .variable _ family, parameter, ctx => (family parameter ctx, ctx)
  | .conditional _ condition whenTrue whenFalse, _, ctx =>
    let (holds, ctx) := condition.holds apply ctx
    let (text, ctx) := if holds then whenTrue.fill apply ctx else whenFalse.fill apply ctx
    (text.map .string, ctx)

/-- Whether a condition holds, and the context afterwards. A variable without a value counts as
false, and its filters do not matter. -/
def Condition.holds (apply : FilterCaller) : Condition → Context → Bool × Context
  | .argument number, ctx => (!(argumentValue ctx.invocation.message number).isEmpty, ctx)
  | .variable s, ctx =>
    match s.slot.parameter ctx with
    | (none, ctx) => (false, ctx)
    | (some parameter, ctx) =>
      let (value, ctx) := s.resolve apply parameter ctx
      ((value.map Json.truthy).getD false, ctx)

/-- The text of a branch with its own table filled in, and the context afterwards. -/
def Response.fill (apply : FilterCaller) : Response → Context → Option Text × Context
  | ⟨text, table⟩, ctx => fillTable apply table text ctx

/-- A text with the substitutions of a table made in order, and the context afterwards. -/
def fillTable (apply : FilterCaller) :
    List Substitution → Text → Context → Option Text × Context
  | [], text, ctx => (some text, ctx)
  | s :: rest, text, ctx =>
    match s.slot.parameter ctx with
    | (none, ctx) => (none, ctx)
    | (some parameter, ctx) =>
      match s.resolve apply parameter ctx with
      | (none, ctx) => (none, ctx)
      | (some value, ctx) =>
        match pipeline apply s.slot.filters value with
        | none => (none, ctx)
        | some value => fillTable apply rest (text.replaceAll s.slot.needle value.text) ctx

end

/-- A text with each positional placeholder of a table replaced by its word of the message. -/
def fillPositionals (message : Option Text) (table : List Positional) (t : Text) : Text :=
  table.foldl (fun t p => t.replaceAll p.print (argumentValue message p.number)) t

/-- The response of a template, if every substitution has a value, and the context afterwards. -/
def render (apply : FilterCaller) (t : Template) (ctx : Context) : Option Text × Context :=
  let (text, ctx) := fillTable apply (substitutions t.families t.text) t.text ctx
  (text.map (fillPositionals ctx.invocation.message (positionalTable t.text)), ctx)

/-- The number of fetch placeholders that the template itself has. -/
def fetchCeiling (t : Template) : Nat := Fetch.count t.text

end Template

end CommandBot
