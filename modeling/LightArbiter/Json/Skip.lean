import LightArbiter.Json.Token

/-!
# Skipping a value

A value that nobody asked for is only checked for its form. The open brackets around the current
place are kept in a list, the innermost first, so that values may be nested to any depth.
-/

namespace LightArbiter.Json

/-- An open bracket. -/
inductive Bracket where
  | array
  | object
deriving DecidableEq

/-- What may stand at the current place. -/
inductive Place where
  /-- A value. -/
  | value
  /-- The first element of an array, or its end. -/
  | firstElement
  /-- The first key of an object, or its end. -/
  | firstKey
  /-- A key. -/
  | key
  /-- The colon after a key. -/
  | colon
  /-- A comma, or the end of the innermost bracket. -/
  | next
deriving DecidableEq

/-- What is met at a place: the problem there, or the place after it and the brackets then open. -/
abbrev Move := Except Problem (Place × List Bracket)

/-- The move over a token at the start of a value. -/
def moveValue (open_ : List Bracket) : Token → Move
  | .null => .ok (.next, open_)
  | .boolean _ => .ok (.next, open_)
  | .number _ form => form.map fun _ => (.next, open_)
  | .text _ form => form.map fun _ => (.next, open_)
  | .openArray => .ok (.firstElement, .array :: open_)
  | .openObject => .ok (.firstKey, .object :: open_)
  | .stray problem => .error problem
  | _ => .error .malformed

/-- The move over a token where a key has to stand. -/
def moveKey (open_ : List Bracket) : Token → Move
  | .text _ form => form.map fun _ => (.colon, open_)
  | _ => .error .malformed

/-- The move over a token after a value inside of a bracket. -/
def moveNext : List Bracket → Token → Move
  | .array :: open_, .comma => .ok (.value, .array :: open_)
  | .array :: open_, .closeArray => .ok (.next, open_)
  | .object :: open_, .comma => .ok (.key, .object :: open_)
  | .object :: open_, .closeObject => .ok (.next, open_)
  | _, _ => .error .malformed

/-- The move over a token at a place. -/
def move (place : Place) (open_ : List Bracket) (token : Token) : Move :=
  match place, token with
  | .firstElement, .closeArray => .ok (.next, open_.tail)
  | .firstElement, token => moveValue open_ token
  | .value, token => moveValue open_ token
  | .firstKey, .closeObject => .ok (.next, open_.tail)
  | .firstKey, token => moveKey open_ token
  | .key, token => moveKey open_ token
  | .colon, .colon => .ok (.value, open_)
  | .colon, _ => .error .malformed
  | .next, token => moveNext open_ token

/-- The tokens after the value at a place, once all open brackets are closed. -/
def skipFrom (place : Place) (open_ : List Bracket) : List Token → Except Problem (List Token)
  | [] => .error .cutShort
  | token :: tokens =>
    match move place open_ token with
    | .error problem => .error problem
    | .ok (.next, []) => .ok tokens
    | .ok (place, open_) => skipFrom place open_ tokens

/-- The tokens after the value that stands at the start. -/
def skipValue (tokens : List Token) : Except Problem (List Token) :=
  skipFrom .value [] tokens

theorem skipFrom_length {place : Place} {open_ : List Bracket} {tokens rest : List Token}
    (h : skipFrom place open_ tokens = .ok rest) : rest.length < tokens.length := by
  induction tokens generalizing place open_ with
  | nil => simp [skipFrom] at h
  | cons token tokens ih =>
    unfold skipFrom at h
    split at h
    · simp at h
    · simp only [Except.ok.injEq] at h
      simp [h]
    · have := ih h
      simp only [List.length_cons]
      omega

theorem skipValue_length {tokens rest : List Token} (h : skipValue tokens = .ok rest) :
    rest.length < tokens.length :=
  skipFrom_length h

end LightArbiter.Json
