/-!
The pieces YAML text is cut into: positions in the text (`Mark`), the tokens of the YAML
grammar, and the syntax errors met while cutting or assembling them.

A syntax error is described as "problem at line L column C, context at line L' column C'";
lines and columns are shown counting from one, a position at the very start is not shown, and
the context position is shown only when it differs from the problem's.
-/

namespace CsiOperator.Yaml

/-- A position in YAML text: characters read, and line and column counted from zero. -/
structure Mark where
  index : Nat := 0
  line : Nat := 0
  column : Nat := 0
deriving DecidableEq, Repr, Inhabited

namespace Mark

/-- Whether the mark is the very start of the text. -/
def isStart (m : Mark) : Bool := m.line == 0 && m.column == 0

/-- The position as shown in messages. -/
def describe (m : Mark) : String :=
  "line " ++ toString (m.line + 1) ++ " column " ++ toString (m.column + 1)

end Mark

/-- A YAML syntax error. -/
structure SyntaxError where
  problem : String
  problemMark : Mark := {}
  /-- A byte offset, shown when the problem has no mark. -/
  offset : Nat := 0
  context : Option (String × Mark) := none
deriving DecidableEq, Repr, Inhabited

namespace SyntaxError

/-- The error's description. -/
def message (e : SyntaxError) : String :=
  let at1 := if !e.problemMark.isStart then " at " ++ e.problemMark.describe
    else if e.offset != 0 then " at position " ++ toString e.offset else ""
  let ctx := match e.context with
    | none => ""
    | some (c, m) =>
      ", " ++ c ++ (if !m.isStart && (m.line != e.problemMark.line || m.column != e.problemMark.column)
        then " at " ++ m.describe else "")
  e.problem ++ at1 ++ ctx

end SyntaxError

/-- How a scalar was written. -/
inductive ScalarStyle where
  | plain
  | singleQuoted
  | doubleQuoted
  | literal
  | folded
deriving DecidableEq, Repr, Inhabited

/-- A token of YAML text. -/
inductive TokenKind where
  | streamStart
  | streamEnd
  | versionDirective (major minor : Nat)
  | tagDirective (handle pfx : String)
  | documentStart
  | documentEnd
  | blockSequenceStart
  | blockMappingStart
  | blockEnd
  | flowSequenceStart
  | flowSequenceEnd
  | flowMappingStart
  | flowMappingEnd
  | blockEntry
  | flowEntry
  | key
  | value
  | alias (name : String)
  | anchor (name : String)
  | tag (handle suffix : String)
  | scalar (text : String) (style : ScalarStyle)
deriving DecidableEq, Repr, Inhabited

/-- A token and where it starts and ends. -/
structure Token where
  kind : TokenKind
  start : Mark
  stop : Mark
deriving Repr, Inhabited

end CsiOperator.Yaml
