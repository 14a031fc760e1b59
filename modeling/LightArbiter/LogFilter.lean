import LightArbiter.Number.Decimal
import LightArbiter.Pattern
import LightArbiter.Text.Bytes

/-!
# Log filters

A log filter is a list of directives with commas between them. A directive is a level, a target, or a
target with a level after an equals sign; behind the target, or instead of it, a span may stand in
square brackets, with a field in braces, which may ask for a value.

Blanks around a directive do not count when its parts are looked for. But the parts are cut out of
the directive with its blanks, at the byte positions that they have without. So a blank in front moves
every part, and a part may come to begin or to end inside a character.
-/

namespace LightArbiter.LogFilter

/-- What is wrong with a log filter. -/
inductive Flaw where
  /-- A directive has not the right form. -/
  | malformed
  /-- A part of a directive begins or ends inside a character. -/
  | insideCharacter
deriving DecidableEq, Repr

/-- The exit code of a program whose log filter has the flaw. -/
def Flaw.exitCode : Flaw → Nat
  | malformed => 1
  | insideCharacter => 101

/-! ### Parts of directives -/

/-- The names of the levels. -/
def levelNames : List String := ["off", "error", "warn", "info", "debug", "trace"]

/-- Is the text a level: a name in letters of any case, or a number up to five? -/
def isLevel (cs : List Char) : Bool :=
  levelNames.any (fun name => name.toList == cs.map Char.toLower) ||
    ((Text.natural? cs).any (· ≤ 5))

/-- Can the character stand at the start of a target? -/
def startsTarget (c : Char) : Bool :=
  c == '-' || c == ':' || c == '_' || Text.isAlphanumeric c

/-- Can a field be asked to have the value: a number, or a pattern for its text? -/
def isValue (cs : List Char) : Bool :=
  isDoubleText cs || Pattern.isPattern cs

/-- Is the text a field: a name, and perhaps an equals sign and a value up to the next one? -/
def isField (cs : List Char) : Bool :=
  !cs.isEmpty &&
    match cs.splitOn '=' with
    | _ :: value :: _ => isValue value
    | _ => true

/-- The text up to a mark, and the text from the mark on. -/
def splitAtMark (isMark : Char → Bool) (cs : List Char) : List Char × List Char :=
  (cs.takeWhile (!isMark ·), cs.dropWhile (!isMark ·))

/-! ### Directives -/

/-- The part of a directive between two byte positions. -/
def part (piece : List Char) (first last : Nat) : Except Flaw (List Char) :=
  match Text.cut? first last piece with
  | some cs => .ok cs
  | none => .error .insideCharacter

/-- A condition on the form of a directive. -/
def require (condition : Bool) : Except Flaw Unit :=
  if condition then .ok () else .error .malformed

/-- Look at the level from a position on: there may be none. -/
def checkLevel (piece : List Char) (start : Nat) : Except Flaw Unit := do
  let level ← part piece start (Text.byteCount piece)
  require (level.isEmpty || isLevel level)

/-- Look at what follows a span: nothing, or an equals sign and a level. -/
def checkTail (piece : List Char) (start : Nat) : List Char → Except Flaw Unit
  | [] => .ok ()
  | '=' :: _ => checkLevel piece (start + 1)
  | _ => .error .malformed

/-- Look at a field, whose text is to start here and to end with a brace, and at what follows. -/
def checkField (piece : List Char) (start : Nat) (cs : List Char) : Except Flaw Unit :=
  match splitAtMark (· == '}') cs with
  | (_, []) => .error .malformed
  | (field, _ :: rest) => do
    let last := start + Text.byteCount field
    require (isField (← part piece start last))
    match rest with
    | ']' :: rest => checkTail piece (last + 2) rest
    | _ => .error .malformed

/-- Look at a span, whose text is to start here and to end with a bracket, and at what follows. -/
def checkSpan (piece : List Char) (start : Nat) (cs : List Char) : Except Flaw Unit :=
  match splitAtMark (fun c => c == ']' || c == '{') cs with
  | (_, []) => .error .malformed
  | (span, mark :: rest) => do
    let last := start + Text.byteCount span
    let _ ← part piece start last
    if mark = ']' then checkTail piece (last + 1) rest else checkField piece (last + 1) rest

/-- Look at a directive that starts with a target or is a level. -/
def checkTarget (piece cs : List Char) : Except Flaw Unit :=
  match splitAtMark (fun c => c == '=' || c == '[') cs with
  | (_, []) => .ok ()
  | (target, mark :: rest) => do
    let last := Text.byteCount target
    let _ ← part piece 0 last
    if mark = '=' then checkLevel piece (last + 1) else checkSpan piece (last + 1) rest

/-- Look at a directive. -/
def checkDirective (piece : List Char) : Except Flaw Unit :=
  match Text.trim piece with
  | [] => .error .malformed
  | '[' :: rest => checkSpan piece 1 rest
  | c :: rest => if startsTarget c then checkTarget piece (c :: rest) else .error .malformed

/-- Look at a log filter. Between two commas there may be no directive. The first flaw counts. -/
def check (text : String) : Except Flaw Unit :=
  (text.toList.splitOn ',').forM fun piece =>
    if piece.isEmpty then .ok () else checkDirective piece

end LightArbiter.LogFilter
