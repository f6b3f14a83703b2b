import CommandBot.Json.Lexer

/-!
# Skipping JSON values

A value of no interest is skipped, whatever its kind is. Its containers may be nested to any depth, so
the ones that are still open are kept in a list.
-/

namespace CommandBot.Json

/-- A container whose end is still to come. -/
inductive Container where
  | array
  | object
  deriving DecidableEq

/-- Skips a member's name and the colon after it. -/
def skipName (t : Text) : Except Fault Text :=
  match skipSpace t with
  | [] => .error .truncated
  | '"' :: r => do
    match skipSpace (← skipString r) with
    | [] => .error .truncated
    | ':' :: r => .ok r
    | _ => .error .malformed
  | _ => .error .malformed

/-- Skips a value that is no container. -/
def skipScalar : Text → Except Fault Text
  | 'n' :: r => skipWord "ull".toList r
  | 't' :: r => skipWord "rue".toList r
  | 'f' :: r => skipWord "alse".toList r
  | '"' :: r => skipString r
  | '-' :: r => skipNumber r
  | c :: r => if c.isDigit then skipNumber (c :: r) else .error .malformed
  | [] => .error .truncated

/-- After a value, closes the containers that end here, the innermost first, and hands on those
that a comma continues. -/
def closeContainers : List Container → Text → Except Fault (List Container × Text)
  | [], t => .ok ([], t)
  | k :: outer, t =>
    match k, skipSpace t with
    | _, [] => .error .truncated
    | _, ',' :: r => .ok (k :: outer, r)
    | .array, ']' :: r => closeContainers outer r
    | .object, '}' :: r => closeContainers outer r
    | _, _ => .error .malformed

/-- Skips a value inside containers and everything up to the end of the outermost one. The first
argument bounds the steps and exceeds the length of the text. -/
def skipFrom : Nat → List Container → Text → Except Fault Text
  | 0, _, _ => .error .truncated
  | fuel + 1, enclosing, t =>
    let next : List Container × Text → Except Fault Text
      | ([], r) => .ok r
      | (.array :: outer, r) => skipFrom fuel (.array :: outer) r
      | (.object :: outer, r) => do skipFrom fuel (.object :: outer) (← skipName r)
    match skipSpace t with
    | '[' :: r =>
      match skipSpace r with
      | ']' :: r => do next (← closeContainers enclosing r)
      | r => skipFrom fuel (.array :: enclosing) r
    | '{' :: r =>
      match skipSpace r with
      | '}' :: r => do next (← closeContainers enclosing r)
      | r => do skipFrom fuel (.object :: enclosing) (← skipName r)
    | r => do next (← closeContainers enclosing (← skipScalar r))

/-- Skips a value of any kind; containers may be nested to any depth. -/
def skipValue (t : Text) : Except Fault Text := skipFrom (t.length + 1) [] t

end CommandBot.Json
