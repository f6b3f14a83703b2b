import CommandBot.Description.Basic
import CommandBot.Json.Skipping

/-!
# Reading descriptions

A description is JSON text of a fixed shape: an object with known members in any order, or an array
of their values in a fixed order. Unknown members are skipped. The text is read from the left, and
the first fault counts: it may break the grammar, end early, or have a value of another shape. Known
members may be missing if they have a default, and may not occur twice. Containers may be nested to
a fixed depth; what is skipped may be nested to any.
-/

namespace CommandBot

namespace Description

open Json

/-- The number of containers that may stand inside each other. -/
def maxDepth : Nat := 127

/-- The fault of a text whose next value has another shape than the wanted one. Except for
containers, the value is read first, and may have a fault of its own. -/
def mismatch (t : Text) : Fault :=
  let afterReading {α : Type} (r : Except Fault α) : Fault := match r with
    | .ok _ => .mistyped
    | .error fault => fault
  match t with
  | [] => .truncated
  | 'n' :: r => afterReading (skipWord "ull".toList r)
  | 't' :: r => afterReading (skipWord "rue".toList r)
  | 'f' :: r => afterReading (skipWord "alse".toList r)
  | '"' :: r => afterReading (readString r)
  | '-' :: r => afterReading (readNumber true r)
  | '[' :: _ | '{' :: _ => .mistyped
  | c :: r => if c.isDigit then afterReading (readNumber false (c :: r)) else .malformed

/-- Reads a string. -/
def readText : Reader Text := fun t =>
  match skipSpace t with
  | '"' :: r => readString r
  | t => .error (mismatch t)

/-- Reads a string or null. -/
def readOptionalText : Reader (Option Text) := fun t =>
  match skipSpace t with
  | 'n' :: r => (skipWord "ull".toList r).map fun r => (none, r)
  | t => (readText t).map fun (s, r) => (some s, r)

/-- Accepts an integer of 32 bits. -/
def levelOf : Number → Except Fault Level
  | .int n =>
    if -Int.ofNat (Numeral.maxInt32 + 1) ≤ n ∧ n ≤ Int.ofNat Numeral.maxInt32 then .ok n
    else .error .mistyped
  | .float _ => .error .mistyped

/-- Reads a level. -/
def readLevel : Reader Level := fun t =>
  let read (negative : Bool) (t : Text) : Except Fault (Level × Text) := do
    let (n, t) ← readNumber negative t
    .ok (← levelOf n, t)
  match skipSpace t with
  | '-' :: r => read true r
  | c :: r => if c.isDigit then read false (c :: r) else .error (mismatch (c :: r))
  | [] => .error .truncated

/-- Reads the items of an array after its opening bracket; the first argument after the item reader
bounds the steps and exceeds the length of the text. -/
def readItems {α : Type} (item : Reader α) : Nat → Reader (List α)
  | 0, _ => .error .truncated
  | fuel + 1, t => do
    let (a, r) ← item t
    match skipSpace r with
    | [] => .error .truncated
    | ']' :: r => .ok ([a], r)
    | ',' :: r =>
      match skipSpace r with
      | ']' :: _ => .error .malformed
      | r => do
        let (more, r) ← readItems item fuel r
        .ok (a :: more, r)
    | _ => .error .malformed

/-- Reads an array of any length. The first argument is the number of containers that may still be
opened. -/
def readArray {α : Type} (depth : Nat) (item : Reader α) : Reader (List α) := fun t =>
  match skipSpace t with
  | '[' :: r =>
    if depth = 0 then .error .malformed
    else
      match skipSpace r with
      | [] => .error .truncated
      | ']' :: r => .ok ([], r)
      | r => readItems item (r.length + 1) r
  | t => .error (mismatch t)

/-- A kind of object whose members are known: where a record starts, the members in the order that
an array of their values has, those of them that must not be missing, and how to read the value of
a known member into a record. -/
structure Shape (α : Type) where
  start : α
  names : List Text
  required : List Text
  read : Text → α → Reader α

variable {α : Type}

/-- Reads the members of an object from a name on, up to the closing brace. The numeric argument
bounds the steps and exceeds the length of the text; the list holds the names read before. -/
def readMembers (shape : Shape α) : Nat → List Text → α → Reader α
  | 0, _, _, _ => .error .truncated
  | fuel + 1, seen, a, t =>
    match skipSpace t with
    | [] => .error .truncated
    | '"' :: r => do
      let (name, r) ← readString r
      if shape.names.contains name && seen.contains name then .error .mistyped
      let r ← match skipSpace r with
        | [] => .error .truncated
        | ':' :: r => .ok r
        | _ => .error .malformed
      let (a, r) ← if shape.names.contains name then shape.read name a r
        else (skipValue r).map (a, ·)
      match skipSpace r with
      | [] => .error .truncated
      | '}' :: r =>
        if shape.required.all (name :: seen).contains then .ok (a, r) else .error .mistyped
      | ',' :: r => readMembers shape fuel (name :: seen) a r
      | _ => .error .malformed
    | _ => .error .malformed

/-- Reads the values of an array, each for the next of the names, up to the closing bracket; the
flag tells whether the next value would be the first one. -/
def readPositions (shape : Shape α) : List Text → Bool → α → Reader α
  | [], _, a, t =>
    match skipSpace t with
    | [] => .error .truncated
    | ']' :: r => .ok (a, r)
    | _ => .error .malformed
  | name :: names, first, a, t =>
    match skipSpace t, first with
    | [], _ => .error .truncated
    | ']' :: r, _ =>
      if (name :: names).all fun n => !shape.required.contains n then .ok (a, r)
      else .error .mistyped
    | r, true => do
      let (a, r) ← shape.read name a r
      readPositions shape names false a r
    | ',' :: r, false =>
      match skipSpace r with
      | [] => .error .truncated
      | ']' :: _ => .error .malformed
      | r => do
        let (a, r) ← shape.read name a r
        readPositions shape names false a r
    | _, false => .error .malformed

/-- Reads an object, or an array of its values. The first argument is the number of containers that
may still be opened. -/
def readObject (depth : Nat) (shape : Shape α) : Reader α := fun t =>
  match skipSpace t with
  | '{' :: r =>
    if depth = 0 then .error .malformed
    else
      match skipSpace r with
      | '}' :: r => if shape.required.isEmpty then .ok (shape.start, r) else .error .mistyped
      | r => readMembers shape (r.length + 1) [] shape.start r
  | '[' :: r =>
    if depth = 0 then .error .malformed else readPositions shape shape.names true shape.start r
  | t => .error (mismatch t)

/-- A description without any member. -/
def blank : Description := ⟨[], none, none, [], none, none⟩

/-- The members of a description, given the reader of its children. -/
def actionShape (children : Reader (List ChildDescription)) : Shape Description where
  start := blank
  names := ["type".toList, "message".toList, "cb".toList, "args".toList, "default".toList,
    "fallback".toList]
  required := ["type".toList]
  read name a t :=
    if name = "type".toList then (readText t).map fun (v, r) => ({ a with type := v }, r)
    else if name = "message".toList then
      (readOptionalText t).map fun (v, r) => ({ a with message := v }, r)
    else if name = "cb".toList then
      (readOptionalText t).map fun (v, r) => ({ a with callback := v }, r)
    else if name = "args".toList then (children t).map fun (v, r) => ({ a with children := v }, r)
    else if name = "default".toList then
      (readOptionalText t).map fun (v, r) => ({ a with default := v }, r)
    else (readOptionalText t).map fun (v, r) => ({ a with fallback := v }, r)

/-- The members of a child's description, given the reader of its action. -/
def childShape (action : Reader Description) : Shape ChildDescription where
  start := ⟨[], Command.defaultLevel, blank, none⟩
  names := ["command".toList, "level".toList, "action".toList, "description".toList]
  required := ["command".toList, "action".toList]
  read name c t :=
    if name = "command".toList then (readText t).map fun (v, r) => ({ c with aliasList := v }, r)
    else if name = "level".toList then (readLevel t).map fun (v, r) => ({ c with level := v }, r)
    else if name = "action".toList then (action t).map fun (v, r) => ({ c with action := v }, r)
    else (readOptionalText t).map fun (v, r) => ({ c with description := v }, r)

/-- Reads a description. The first argument is the number of containers that may still be opened;
children stand in an array of objects inside it. -/
def read : Nat → Reader Description
  | depth + 3 => readObject (depth + 3) <| actionShape <| readArray (depth + 2) <|
      readObject (depth + 1) <| childShape <| read depth
  | depth => readObject depth <| actionShape <| readArray (depth - 1) <|
      readObject 0 <| childShape fun _ => .error .malformed

/-- Reads the description that a text holds. -/
def ofText (t : Text) : Except Json.Fault Description := readWhole (read maxDepth) t

end Description

/-- The action that the description in a text makes. -/
def Action.ofText (v : Vocabulary) (t : Text) : Except DescriptionError (Option Action) :=
  match Description.ofText t with
  | .ok d => d.build v
  | .error fault => .error (.json fault)

end CommandBot
