import CommandBot.Filter.Basic
import CommandBot.Template.Positional
import CommandBot.Variable

/-!
# Substitutions

A substitution is a placeholder made ready to be filled in: a variable with its family, or a
conditional with its condition and branches. The table of a text lists its conditionals first and
its variables after them, each in order of appearance and each written form once. Placeholders
that name no family, and conditionals without a usable condition, have no entry.
-/

namespace CommandBot.Template

/-- The parts of a placeholder that every substitution has: the text to replace, the key, the
number and the filters. -/
structure Slot where
  needle : Text
  key : Option Text
  number : Option Nat
  filters : List FilterCall
  deriving Repr, DecidableEq

/-- The slot of a placeholder. -/
def Slot.ofPlaceholder (p : Placeholder) : Slot := ⟨p.print, p.keyText?, p.number?, p.filters⟩

mutual

/-- A placeholder ready to be filled in. -/
inductive Substitution where
  | variable (slot : Slot) (family : Family)
  | conditional (slot : Slot) (condition : Condition) (whenTrue whenFalse : Response)

/-- What decides a conditional: a word of the message, or a variable. -/
inductive Condition where
  | argument (number : Nat)
  | variable (substitution : Substitution)

/-- A branch of a conditional with the table of its text. -/
inductive Response where
  | mk (text : Text) (table : List Substitution)

end

/-- The slot of a substitution. -/
def Substitution.slot : Substitution → Slot
  | .variable slot _ => slot
  | .conditional slot _ _ _ => slot

/-- The path of conditionals. -/
def conditionalPath : Text := "if".toList

/-- The second branch of a conditional that has only one. -/
def defaultBranch : Text := "No".toList

/-- One positional placeholder for each number in a text, as first written. -/
def positionalTable (t : Text) : List Positional :=
  (positionals t).foldl (fun table p =>
    if table.any (·.number == p.number) then table else table ++ [p]) []

/-- The condition that a conditional's key stands for, given the key's own table: its only
substitution if that has a key, the word that it numbers if it has none, or else the only
positional placeholder in the key. -/
def Condition.ofKey? (key : Text) : List Substitution → Option Condition
  | [s] =>
    match s.slot.key, s.slot.number with
    | some _, _ => some (.variable s)
    | none, some number => some (.argument number)
    | none, none => none
  | _ =>
    match positionalTable key with
    | [p] => some (.argument p.number)
    | _ => none

/-- Puts the entry that `build` makes of a placeholder at the end of a table, unless the table has
its written form already. -/
def addEntry (build : Placeholder → Option Substitution) (table : List Substitution)
    (p : Placeholder) : List Substitution :=
  if table.any (·.slot.needle == p.print) then table else table ++ (build p).toList

/-- The conditional that a placeholder stands for, with `tableOf` for the tables of its parts. -/
def conditionalOf? (tableOf : Text → List Substitution) (p : Placeholder) :
    Option Substitution := do
  let key ← p.keyText?
  let first ← p.branches.head?
  let second := ((p.branches[1]?).map (·.body)).getD defaultBranch
  let condition ← Condition.ofKey? key (tableOf key)
  some (.conditional (.ofPlaceholder p) condition ⟨first.body, tableOf first.body⟩
    ⟨second, tableOf second⟩)

/-- The variable that a placeholder stands for. -/
def variableOf? (families : Registry Family) (p : Placeholder) : Option Substitution :=
  (families.get? p.path).map (.variable (.ofPlaceholder p))

/-- The table of a text; the first argument bounds the nesting. -/
def substitutionsFrom (families : Registry Family) : Nat → Text → List Substitution
  | 0, _ => []
  | depth + 1, t =>
    let ps := placeholders t
    let conditionals := (ps.filter (·.path == conditionalPath)).foldl
      (addEntry (conditionalOf? (substitutionsFrom families depth))) []
    (ps.filter (·.path != conditionalPath)).foldl (addEntry (variableOf? families)) conditionals

/-- The table of a text. The key and the branches of a placeholder are shorter than the text around
it, so the nesting is bounded by the length. -/
def substitutions (families : Registry Family) (t : Text) : List Substitution :=
  substitutionsFrom families (t.length + 1) t

end CommandBot.Template
