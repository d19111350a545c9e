import CsiOperator.Yaml.Token
/-!
Cutting YAML text into tokens.

The scanner keeps the state the YAML grammar needs to find structure in indentation: the
stack of block indentation columns, the nesting of flow collections, and for each level the
place where a simple key (`key: value` without `?`) may have begun. When a `:` shows that a
key began there, a `KEY` token, and a `BLOCK-MAPPING-START` token if the indentation grew, are
put in front of the key's first token. A possible key that a line break or more than 1024
characters separate from its `:` is dropped, and an error if the key was required because it
stood at the block's indentation.

Scanning stops at the first error; the tokens before it are kept, so that a reader can use
what came before the error.
-/

namespace CsiOperator.Yaml

/-- Where a simple key may have begun. -/
structure SimpleKey where
  possible : Bool := false
  required : Bool := false
  tokenNumber : Nat := 0
  mark : Mark := {}
deriving Inhabited

/-- The scanner's state. -/
structure Scanner where
  src : Array Char
  pos : Nat := 0
  line : Nat := 0
  column : Nat := 0
  tokens : Array Token := #[]
  indent : Int := -1
  indents : List Int := []
  simpleKeyAllowed : Bool := false
  /-- One entry per flow level and one for the block context; the innermost first. -/
  simpleKeys : List SimpleKey := []
  flowLevel : Nat := 0
  streamStartProduced : Bool := false
  streamEndProduced : Bool := false
deriving Inhabited

namespace Scanner

/-- The character `k` places ahead, or `'\x00'` past the end. -/
def peek (s : Scanner) (k : Nat) : Char := s.src.getD (s.pos + k) '\x00'

/-- The current position. -/
def mark (s : Scanner) : Mark := { index := s.pos, line := s.line, column := s.column }

/-- A line break character. -/
def isBreak (c : Char) : Bool :=
  c == '\r' || c == '\n' || c == '\u0085' || c == '\u2028' || c == '\u2029'

/-- A space or a tab. -/
def isBlank (c : Char) : Bool := c == ' ' || c == '\t'

/-- The end of the text. -/
def isZ (c : Char) : Bool := c == '\x00'

/-- A blank, a line break or the end. -/
def isBlankz (c : Char) : Bool := isBlank c || isBreak c || isZ c

/-- A line break or the end. -/
def isBreakz (c : Char) : Bool := isBreak c || isZ c

/-- A letter, digit, `_` or `-`. -/
def isAlpha (c : Char) : Bool := c.isAlphanum || c == '_' || c == '-'

/-- A hexadecimal digit. -/
def isHex (c : Char) : Bool := c.isDigit || ('a' ≤ c ∧ c ≤ 'f') || ('A' ≤ c ∧ c ≤ 'F')

/-- The value of a hexadecimal digit. -/
def hexValue (c : Char) : Nat :=
  if c.isDigit then c.toNat - '0'.toNat
  else if 'a' ≤ c ∧ c ≤ 'f' then c.toNat - 'a'.toNat + 10
  else c.toNat - 'A'.toNat + 10

/-- Moves past one character of a line. -/
def skip (s : Scanner) : Scanner := { s with pos := s.pos + 1, column := s.column + 1 }

/-- Moves past a line break, `\r\n` counting as one. -/
def skipLine (s : Scanner) : Scanner :=
  if s.peek 0 == '\r' && s.peek 1 == '\n' then { s with pos := s.pos + 2, line := s.line + 1, column := 0 }
  else if isBreak (s.peek 0) then { s with pos := s.pos + 1, line := s.line + 1, column := 0 }
  else s

/-- Copies one character of a line into `acc` and moves past it. -/
def read (s : Scanner) (acc : String) : Scanner × String := (s.skip, acc.push (s.peek 0))

/-- Copies a line break into `acc`, as `\n` unless it is a line or paragraph separator. -/
def readLine (s : Scanner) (acc : String) : Scanner × String :=
  let c := s.peek 0
  if c == '\r' && s.peek 1 == '\n' then (s.skipLine, acc.push '\n')
  else if c == '\r' || c == '\n' || c == '\u0085' then (s.skipLine, acc.push '\n')
  else if c == '\u2028' || c == '\u2029' then (s.skipLine, acc.push c)
  else (s, acc)

/-- A scanner error with a context. -/
def fail {α : Type} (context : String) (contextMark : Mark) (problem : String) (problemMark : Mark) :
    Except SyntaxError α :=
  .error { problem, problemMark, context := some (context, contextMark) }

/-- A scanner error without a context. -/
def failHere {α : Type} (problem : String) (problemMark : Mark) : Except SyntaxError α :=
  .error { problem, problemMark }

/-- Adds a token at the end. -/
def push (s : Scanner) (kind : TokenKind) (start stop : Mark) : Scanner :=
  { s with tokens := s.tokens.push { kind, start, stop } }

/-- Puts a token at a place in the token list. -/
def insertAt (s : Scanner) (i : Nat) (kind : TokenKind) (m : Mark) : Scanner :=
  let t : Token := { kind, start := m, stop := m }
  let ts := s.tokens
  { s with tokens := (ts.extract 0 i).push t ++ ts.extract i ts.size }

/-- The innermost simple key. -/
def topKey (s : Scanner) : SimpleKey := s.simpleKeys.headD {}

/-- Replaces the innermost simple key. -/
def setTopKey (s : Scanner) (k : SimpleKey) : Scanner :=
  { s with simpleKeys := match s.simpleKeys with
    | _ :: rest => k :: rest
    | [] => [k] }

/-- Drops the innermost possible simple key; an error if it was required. -/
def removeSimpleKey (s : Scanner) : Except SyntaxError Scanner :=
  let k := s.topKey
  if k.possible && k.required then
    fail "while scanning a simple key" k.mark "could not find expected ':'" s.mark
  else .ok (s.setTopKey { k with possible := false })

/-- Records that a simple key may begin at the current token. -/
def saveSimpleKey (s : Scanner) : Except SyntaxError Scanner := do
  let required := s.flowLevel == 0 && s.indent == (s.column : Int)
  if s.simpleKeyAllowed then
    let s ← s.removeSimpleKey
    pure (s.setTopKey { possible := true, required, tokenNumber := s.tokens.size, mark := s.mark })
  else pure s

/-- Drops the possible simple keys that can no longer be completed. -/
def staleSimpleKeys (s : Scanner) : Except SyntaxError Scanner := do
  let keys ← s.simpleKeys.mapM fun k =>
    if k.possible && (k.mark.line < s.line || k.mark.index + 1024 < s.pos) then
      if k.required then fail "while scanning a simple key" k.mark "could not find expected ':'" s.mark
      else pure { k with possible := false }
    else pure k
  pure { s with simpleKeys := keys }

/-- Opens a block collection at `column` when it is deeper than the current indentation; the
start token goes at place `number`, or at the end. -/
def rollIndent (s : Scanner) (column : Int) (number : Option Nat) (kind : TokenKind) (m : Mark) :
    Scanner :=
  if s.flowLevel != 0 then s
  else if s.indent < column then
    let s := { s with indents := s.indent :: s.indents, indent := column }
    match number with
    | some i => s.insertAt i kind m
    | none => s.push kind m m
  else s

/-- Closes the block collections deeper than `column`. -/
def unrollIndent (s : Scanner) (column : Int) : Scanner :=
  if s.flowLevel != 0 then s
  else
    let rec go (fuel : Nat) (s : Scanner) : Scanner :=
      match fuel with
      | 0 => s
      | fuel + 1 =>
        if s.indent > column then
          let s := s.push .blockEnd s.mark s.mark
          go fuel { s with indent := s.indents.headD (-1), indents := s.indents.tail }
        else s
    go (s.indents.length + 1) s

/-- Skips blanks, comments and line breaks up to the next token. -/
def toNextToken (s : Scanner) : Scanner :=
  let rec go (fuel : Nat) (s : Scanner) : Scanner :=
    match fuel with
    | 0 => s
    | fuel + 1 =>
      let s := if s.column == 0 && s.peek 0 == '\uFEFF' then s.skip else s
      let s := skipWhile s.src.size (fun s => s.peek 0 == ' ' ||
        ((s.flowLevel != 0 || !s.simpleKeyAllowed) && s.peek 0 == '\t')) s
      let s := if s.peek 0 == '#' then skipWhile s.src.size (fun s => !isBreakz (s.peek 0)) s else s
      if isBreak (s.peek 0) then
        let s := s.skipLine
        go fuel (if s.flowLevel == 0 then { s with simpleKeyAllowed := true } else s)
      else s
  go (s.src.size + 1) s
where
  /-- Skips characters while `p` holds. -/
  skipWhile (fuel : Nat) (p : Scanner → Bool) (s : Scanner) : Scanner :=
    match fuel with
    | 0 => s
    | fuel + 1 => if p s then skipWhile fuel p s.skip else s

/-- Whether a document marker (`---` or `...`) starts at the current position. -/
def atDocumentMarker (s : Scanner) : Bool :=
  s.column == 0 && isBlankz (s.peek 3) &&
    ((s.peek 0 == '-' && s.peek 1 == '-' && s.peek 2 == '-') || (s.peek 0 == '.' && s.peek 1 == '.' && s.peek 2 == '.'))

/-- Joins folded line breaks: a single break becomes a space, more breaks stay. -/
def fold (leadingBreak trailingBreaks : String) : String :=
  if leadingBreak == "\n" then (if trailingBreaks.isEmpty then " " else trailingBreaks)
  else leadingBreak ++ trailingBreaks

/-- Scans a plain scalar. -/
def plainScalar (s : Scanner) : Except SyntaxError Scanner := do
  let start := s.mark
  let indent := s.indent + 1
  -- the text so far, pending blanks, the first pending break, further pending breaks
  let rec outer (fuel : Nat) (s : Scanner) (text ws lead trail : String) (leading : Bool)
      (stop : Mark) : Except SyntaxError (Scanner × String × Mark × Bool) :=
    match fuel with
    | 0 => .ok (s, text, stop, leading)
    | fuel + 1 =>
      if s.atDocumentMarker || s.peek 0 == '#' then .ok (s, text, stop, leading)
      else do
        let (s, text, ws, lead, trail, leading, stop) ← inner s.src.size s text ws lead trail leading stop
        if !(isBlank (s.peek 0) || isBreak (s.peek 0)) then .ok (s, text, stop, leading)
        else do
          let (s, ws, lead, trail, leading) ← blanks s.src.size s ws lead trail leading
          if s.flowLevel == 0 && (s.column : Int) < indent then .ok (s, text, stop, leading)
          else outer fuel s text ws lead trail leading stop
  termination_by structural fuel
  outer (4 * s.src.size + 4) s "" "" "" "" false start |>.map fun (s, text, stop, leading) =>
    let s := s.push (.scalar text .plain) start stop
    if leading then { s with simpleKeyAllowed := true } else s
where
  /-- Consumes the non-blank characters of a line. -/
  inner (fuel : Nat) (s : Scanner) (text ws lead trail : String) (leading : Bool) (stop : Mark) :
      Except SyntaxError (Scanner × String × String × String × String × Bool × Mark) :=
    match fuel with
    | 0 => .ok (s, text, ws, lead, trail, leading, stop)
    | fuel + 1 =>
      let c := s.peek 0
      if isBlankz c then .ok (s, text, ws, lead, trail, leading, stop)
      else if s.flowLevel != 0 && c == ':' &&
          [',', '?', '[', ']', '{', '}'].contains (s.peek 1) then
        fail "while scanning a plain scalar" stop "found unexpected ':'" s.mark
      else if (c == ':' && isBlankz (s.peek 1)) ||
          (s.flowLevel != 0 && [',', '[', ']', '{', '}'].contains c) then
        .ok (s, text, ws, lead, trail, leading, stop)
      else
        let text := if leading then text ++ fold lead trail else text ++ ws
        let (s, text) := s.read text
        inner fuel s text "" "" "" false s.mark
  /-- Consumes blanks and line breaks. -/
  blanks (fuel : Nat) (s : Scanner) (ws lead trail : String) (leading : Bool) :
      Except SyntaxError (Scanner × String × String × String × Bool) :=
    match fuel with
    | 0 => .ok (s, ws, lead, trail, leading)
    | fuel + 1 =>
      let c := s.peek 0
      if isBlank c then
        if leading && (s.column : Int) < s.indent + 1 && c == '\t' then
          .error { problem := "found a tab character that violates indentation", problemMark := s.mark,
                   context := some ("while scanning a plain scalar", s.mark) }
        else if leading then blanks fuel s.skip ws lead trail leading
        else let (s, ws) := s.read ws; blanks fuel s ws lead trail leading
      else if isBreak c then
        if leading then let (s, trail) := s.readLine trail; blanks fuel s ws lead trail leading
        else let (s, lead) := s.readLine ""; blanks fuel s "" lead trail true
      else .ok (s, ws, lead, trail, leading)

/-- The character written by a one-letter escape of a double-quoted scalar. -/
def escapeChar : Char → Option Char
  | '0' => some '\x00'
  | 'a' => some '\x07'
  | 'b' => some '\x08'
  | 't' | '\t' => some '\t'
  | 'n' => some '\n'
  | 'v' => some '\x0b'
  | 'f' => some '\x0c'
  | 'r' => some '\r'
  | 'e' => some '\x1b'
  | ' ' => some ' '
  | '"' => some '"'
  | '/' => some '/'
  | '\'' => some '\''
  | '\\' => some '\\'
  | 'N' => some '\u0085'
  | '_' => some ' '
  | 'L' => some '\u2028'
  | 'P' => some '\u2029'
  | _ => none

/-- Scans a single- or double-quoted scalar. -/
def quotedScalar (s : Scanner) (single : Bool) : Except SyntaxError Scanner := do
  let start := s.mark
  let s := s.skip
  let quote := if single then '\'' else '"'
  let rec outer (fuel : Nat) (s : Scanner) (text : String) : Except SyntaxError (Scanner × String) :=
    match fuel with
    | 0 => .ok (s, text)
    | fuel + 1 =>
      if s.atDocumentMarker then
        fail "while scanning a quoted scalar" start "found unexpected document indicator" s.mark
      else if isZ (s.peek 0) then
        fail "while scanning a quoted scalar" start "found unexpected end of stream" s.mark
      else do
        let (s, text, leading) ← inner start s.src.size s text false
        if s.peek 0 == quote then .ok (s, text)
        else
          let (s, ws, lead, trail, leading) := blanks s.src.size s "" "" "" leading
          let text := if leading then text ++ fold lead trail else text ++ ws
          outer fuel s text
  termination_by structural fuel
  let (s, text) ← outer (s.src.size + 2) s ""
  let s := s.skip
  pure (s.push (.scalar text (if single then .singleQuoted else .doubleQuoted)) start s.mark)
where
  /-- Consumes the non-blank characters of a line, with escapes; a bad escape is reported
  within the scalar that starts at `start`. -/
  inner (start : Mark) (fuel : Nat) (s : Scanner) (text : String) (leading : Bool) :
      Except SyntaxError (Scanner × String × Bool) :=
    match fuel with
    | 0 => .ok (s, text, leading)
    | fuel + 1 =>
      let c := s.peek 0
      if isBlankz c then .ok (s, text, leading)
      else if single && c == '\'' && s.peek 1 == '\'' then inner start fuel s.skip.skip (text.push '\'') leading
      else if c == (if single then '\'' else '"') then .ok (s, text, leading)
      else if !single && c == '\\' && isBreak (s.peek 1) then .ok (s.skip.skipLine, text, true)
      else if !single && c == '\\' then
        let e := s.peek 1
        let codeLength := if e == 'x' then 2 else if e == 'u' then 4 else if e == 'U' then 8 else 0
        if codeLength == 0 then
          match escapeChar e with
          | some ch => inner start fuel s.skip.skip (text.push ch) leading
          | none => fail "while parsing a quoted scalar" start "found unknown escape character" s.mark
        else
          let s2 := s.skip.skip
          let digits := (List.range codeLength).map (s2.peek ·)
          if !digits.all isHex then
            fail "while parsing a quoted scalar" start "did not find expected hexdecimal number" s2.mark
          else
            let v := digits.foldl (fun n d => n * 16 + hexValue d) 0
            if (0xD800 ≤ v ∧ v ≤ 0xDFFF) ∨ v > 0x10FFFF then
              fail "while parsing a quoted scalar" start "found invalid Unicode character escape code" s2.mark
            else
              let s3 := (List.range codeLength).foldl (fun t _ => t.skip) s2
              inner start fuel s3 (text.push (Char.ofNat v)) leading
      else let (s, text) := s.read text; inner start fuel s text leading
  /-- Consumes blanks and line breaks inside the quotes. -/
  blanks (fuel : Nat) (s : Scanner) (ws lead trail : String) (leading : Bool) :
      Scanner × String × String × String × Bool :=
    match fuel with
    | 0 => (s, ws, lead, trail, leading)
    | fuel + 1 =>
      let c := s.peek 0
      if isBlank c then
        if leading then blanks fuel s.skip ws lead trail leading
        else let (s, ws) := s.read ws; blanks fuel s ws lead trail leading
      else if isBreak c then
        if leading then let (s, trail) := s.readLine trail; blanks fuel s ws lead trail leading
        else let (s, lead) := s.readLine ""; blanks fuel s "" lead trail true
      else (s, ws, lead, trail, leading)

/-- Skips indentation and collects empty lines before or inside a block scalar; fixes the
indentation when it is not yet known. -/
def blockBreaks (s : Scanner) (indent : Nat) (start : Mark) :
    Except SyntaxError (Scanner × Nat × String × Mark) :=
  let rec go (fuel : Nat) (s : Scanner) (breaks : String) (maxIndent : Nat) (stop : Mark) :
      Except SyntaxError (Scanner × String × Nat × Mark) :=
    match fuel with
    | 0 => .ok (s, breaks, maxIndent, stop)
    | fuel + 1 =>
      let s := spaces s.src.size s
      let maxIndent := max maxIndent s.column
      if (indent == 0 || s.column < indent) && s.peek 0 == '\t' then
        fail "while scanning a block scalar" start
          "found a tab character where an indentation space is expected" s.mark
      else if !isBreak (s.peek 0) then .ok (s, breaks, maxIndent, stop)
      else
        let (s, breaks) := s.readLine breaks
        go fuel s breaks maxIndent s.mark
  do
    let (s, breaks, maxIndent, stop) ← go (s.src.size + 1) s "" 0 s.mark
    let indent := if indent == 0 then
        max 1 (max maxIndent (s.indent + 1).toNat)
      else indent
    pure (s, indent, breaks, stop)
where
  /-- Skips indentation spaces. -/
  spaces (fuel : Nat) (s : Scanner) : Scanner :=
    match fuel with
    | 0 => s
    | fuel + 1 => if (indent == 0 || s.column < indent) && s.peek 0 == ' ' then spaces fuel s.skip else s

/-- Scans a literal (`|`) or folded (`>`) block scalar. -/
def blockScalar (s : Scanner) (literal : Bool) : Except SyntaxError Scanner := do
  let start := s.mark
  let s := s.skip
  let zeroIndent := fail "while scanning a block scalar" start
    "found an indentation indicator equal to 0" s.mark
  -- chomping: -1 strip, 0 clip, 1 keep
  let (s, chomping, increment) ← do
    if s.peek 0 == '+' || s.peek 0 == '-' then
      let chomping : Int := if s.peek 0 == '+' then 1 else -1
      let s := s.skip
      if (s.peek 0).isDigit then
        if s.peek 0 == '0' then zeroIndent
        else pure (s.skip, chomping, (s.peek 0).toNat - '0'.toNat)
      else pure (s, chomping, 0)
    else if (s.peek 0).isDigit then
      if s.peek 0 == '0' then zeroIndent
      else
        let increment := (s.peek 0).toNat - '0'.toNat
        let s := s.skip
        if s.peek 0 == '+' || s.peek 0 == '-' then
          pure (s.skip, (if s.peek 0 == '+' then 1 else -1 : Int), increment)
        else pure (s, 0, increment)
    else pure (s, 0, 0)
  let s := toNextToken.skipWhile s.src.size (fun s => isBlank (s.peek 0)) s
  let s := if s.peek 0 == '#' then toNextToken.skipWhile s.src.size (fun s => !isBreakz (s.peek 0)) s else s
  if !isBreakz (s.peek 0) then
    fail "while scanning a block scalar" start "did not find expected comment or line break" s.mark
  else do
    let s := if isBreak (s.peek 0) then s.skipLine else s
    let indent : Nat := if increment != 0 then
        (if s.indent ≥ 0 then (s.indent + increment).toNat else increment) else 0
    let (s, indent, trail, stop) ← blockBreaks s indent start
    let rec lines (fuel : Nat) (s : Scanner) (text lead trail : String) (leadingBlank : Bool)
        (stop : Mark) : Except SyntaxError (Scanner × String × String × String × Mark) :=
      match fuel with
      | 0 => .ok (s, text, lead, trail, stop)
      | fuel + 1 =>
        if s.column == indent && !isZ (s.peek 0) then
          let trailingBlank := isBlank (s.peek 0)
          let text := if !literal && lead == "\n" && !leadingBlank && !trailingBlank then
              (if trail.isEmpty then text.push ' ' else text)
            else text ++ lead
          let text := text ++ trail
          let leadingBlank := isBlank (s.peek 0)
          let (s, text) := restOfLine s.src.size s text
          let (s, lead) := s.readLine ""
          match blockBreaks s indent start with
          | .ok (s, _, trail, stop) => lines fuel s text lead trail leadingBlank stop
          | .error e => .error e
        else .ok (s, text, lead, trail, stop)
    let (s, text, lead, trail, stop) ← lines (s.src.size + 1) s "" "" trail false stop
    let text := if chomping != -1 then text ++ lead else text
    let text := if chomping == 1 then text ++ trail else text
    pure (s.push (.scalar text (if literal then .literal else .folded)) start stop)
where
  /-- Copies the rest of a line. -/
  restOfLine (fuel : Nat) (s : Scanner) (text : String) : Scanner × String :=
    match fuel with
    | 0 => (s, text)
    | fuel + 1 => if isBreakz (s.peek 0) then (s, text) else let (s, text) := s.read text; restOfLine fuel s text

/-- Scans an anchor (`&name`) or alias (`*name`). -/
def anchorOrAlias (s : Scanner) (isAlias : Bool) : Except SyntaxError Scanner :=
  let start := s.mark
  let rec name (fuel : Nat) (s : Scanner) (acc : String) : Scanner × String :=
    match fuel with
    | 0 => (s, acc)
    | fuel + 1 => if isAlpha (s.peek 0) then let (s, acc) := s.read acc; name fuel s acc else (s, acc)
  let (s, n) := name s.src.size s.skip ""
  let c := s.peek 0
  if n.isEmpty || !(isBlankz c || ['?', ':', ',', ']', '}', '%', '@', '`'].contains c) then
    fail (if isAlias then "while scanning an alias" else "while scanning an anchor") start
      "did not find expected alphabetic or numeric character" s.mark
  else .ok (s.push (if isAlias then .alias n else .anchor n) start s.mark)

/-- Whether a character may appear in a tag. -/
def isTagChar (c : Char) : Bool :=
  isAlpha c || [';', '/', '?', ':', '@', '&', '=', '+', '$', '.', '%', '!', '~', '*', '\'', '(', ')'].contains c

/-- Scans a tag: `!<uri>`, `!handle!suffix`, `!suffix` or `!`. -/
def tag (s : Scanner) : Except SyntaxError Scanner := do
  let start := s.mark
  let rec chars (fuel : Nat) (p : Char → Bool) (s : Scanner) (acc : String) : Scanner × String :=
    match fuel with
    | 0 => (s, acc)
    | fuel + 1 => if p (s.peek 0) then let (s, acc) := s.read acc; chars fuel p s acc else (s, acc)
  let (s, handle, suffix) ← do
    if s.peek 1 == '<' then
      let (s, uri) := chars s.src.size (fun c => isTagChar c || c == ',' || c == '[' || c == ']') s.skip.skip ""
      if uri.isEmpty then fail "while parsing a tag" start "did not find expected tag URI" s.mark
      else if s.peek 0 != '>' then fail "while scanning a tag" start "did not find the expected '>'" s.mark
      else pure (s.skip, "", uri)
    else
      let (s1, h) := chars s.src.size isAlpha s.skip "!"
      if s1.peek 0 == '!' && h.length > 0 then
        let (s2, suffix) := chars s.src.size isTagChar s1.skip ""
        pure (s2, h ++ "!", suffix)
      else
        let (s2, suffix) := chars s.src.size isTagChar s.skip ""
        if suffix.isEmpty then pure (s2, "", "!") else pure (s2, "!", suffix)
  if !isBlankz (s.peek 0) && !(s.flowLevel != 0 && s.peek 0 == ',') then
    fail "while scanning a tag" start "did not find expected whitespace or line break" s.mark
  else pure (s.push (.tag handle suffix) start s.mark)

/-- Scans a directive: `%YAML major.minor` or `%TAG handle prefix`. -/
def directive (s : Scanner) : Except SyntaxError Scanner := do
  let start := s.mark
  let rec chars (fuel : Nat) (p : Char → Bool) (s : Scanner) (acc : String) : Scanner × String :=
    match fuel with
    | 0 => (s, acc)
    | fuel + 1 => if p (s.peek 0) then let (s, acc) := s.read acc; chars fuel p s acc else (s, acc)
  let (s, name) := chars s.src.size isAlpha s.skip ""
  if name.isEmpty then
    fail "while scanning a directive" start "could not find expected directive name" s.mark
  else if !isBlankz (s.peek 0) then
    fail "while scanning a directive" start "found unexpected non-alphabetical character" s.mark
  else
    let blank (s : Scanner) := toNextToken.skipWhile s.src.size (fun s => isBlank (s.peek 0)) s
    let (s, kind) ← match name with
      | "YAML" => do
        let s := blank s
        let (s, major) := chars s.src.size Char.isDigit s ""
        if major.isEmpty then fail "while scanning a %YAML directive" start "did not find expected version number" s.mark
        else if s.peek 0 != '.' then fail "while scanning a %YAML directive" start "did not find expected digit or '.' character" s.mark
        else
          let (s, minor) := chars s.src.size Char.isDigit s.skip ""
          if minor.isEmpty then fail "while scanning a %YAML directive" start "did not find expected version number" s.mark
          else pure (s, TokenKind.versionDirective major.toNat! minor.toNat!)
      | "TAG" => do
        let s := blank s
        let (s, handle) := chars s.src.size (fun c => isAlpha c || c == '!') s ""
        let s := blank s
        let (s, pfx) := chars s.src.size (fun c => isTagChar c || c == ',' || c == '[' || c == ']') s ""
        if handle.isEmpty || pfx.isEmpty then
          fail "while scanning a %TAG directive" start "did not find expected whitespace" s.mark
        else pure (s, TokenKind.tagDirective handle pfx)
      | _ => fail "while scanning a directive" start "found unknown directive name" s.mark
    let s := blank s
    let s := if s.peek 0 == '#' then toNextToken.skipWhile s.src.size (fun s => !isBreakz (s.peek 0)) s else s
    if !isBreakz (s.peek 0) then
      fail "while scanning a directive" start "did not find expected comment or line break" s.mark
    else
      let stop := s.mark
      pure ((s.push kind start stop).skipLine)

/-- Scans the next token, with the tokens that the grammar puts before it. -/
def fetchNext (s : Scanner) : Except SyntaxError Scanner := do
  if !s.streamStartProduced then
    let m := s.mark
    return { s with indent := -1, simpleKeys := [{}], simpleKeyAllowed := true,
                    streamStartProduced := true }.push .streamStart m m
  let s := s.toNextToken
  let s ← s.staleSimpleKeys
  let s := s.unrollIndent s.column
  let c := s.peek 0
  let simpleFlow (kind : TokenKind) (s : Scanner) : Scanner :=
    let m := s.mark
    let s := s.skip
    s.push kind m s.mark
  if isZ c then
    let s := if s.column != 0 then { s with column := 0, line := s.line + 1 } else s
    let s := s.unrollIndent (-1)
    let s ← s.removeSimpleKey
    let s := { s with simpleKeyAllowed := false, streamEndProduced := true }
    return s.push .streamEnd s.mark s.mark
  if s.column == 0 && c == '%' then
    let s := s.unrollIndent (-1)
    let s ← s.removeSimpleKey
    return ← directive { s with simpleKeyAllowed := false }
  if s.column == 0 && isBlankz (s.peek 3) &&
      ((c == '-' && s.peek 1 == '-' && s.peek 2 == '-') || (c == '.' && s.peek 1 == '.' && s.peek 2 == '.')) then
    let s := s.unrollIndent (-1)
    let s ← s.removeSimpleKey
    let m := s.mark
    let s := { s with simpleKeyAllowed := false }.skip.skip.skip
    return s.push (if c == '-' then .documentStart else .documentEnd) m s.mark
  if c == '[' || c == '{' then
    let s ← s.saveSimpleKey
    let s := { s with simpleKeys := {} :: s.simpleKeys, flowLevel := s.flowLevel + 1,
                      simpleKeyAllowed := true }
    return simpleFlow (if c == '[' then .flowSequenceStart else .flowMappingStart) s
  if c == ']' || c == '}' then
    let s ← s.removeSimpleKey
    let s := if s.flowLevel != 0 then
        { s with flowLevel := s.flowLevel - 1, simpleKeys := s.simpleKeys.tail } else s
    return simpleFlow (if c == ']' then .flowSequenceEnd else .flowMappingEnd)
      { s with simpleKeyAllowed := false }
  if c == ',' then
    let s ← s.removeSimpleKey
    return simpleFlow .flowEntry { s with simpleKeyAllowed := true }
  if c == '-' && isBlankz (s.peek 1) then
    let s ← if s.flowLevel == 0 then
        if !s.simpleKeyAllowed then
          failHere "block sequence entries are not allowed in this context" s.mark
        else pure (s.rollIndent s.column none .blockSequenceStart s.mark)
      else pure s
    let s ← s.removeSimpleKey
    return simpleFlow .blockEntry { s with simpleKeyAllowed := true }
  if c == '?' && (s.flowLevel != 0 || isBlankz (s.peek 1)) then
    let s ← if s.flowLevel == 0 then
        if !s.simpleKeyAllowed then failHere "mapping keys are not allowed in this context" s.mark
        else pure (s.rollIndent s.column none .blockMappingStart s.mark)
      else pure s
    let s ← s.removeSimpleKey
    return simpleFlow .key { s with simpleKeyAllowed := s.flowLevel == 0 }
  if c == ':' && (s.flowLevel != 0 || isBlankz (s.peek 1)) then
    let k := s.topKey
    let s ← if k.possible then
        let s := s.insertAt k.tokenNumber .key k.mark
        let s := s.rollIndent k.mark.column (some k.tokenNumber) .blockMappingStart k.mark
        pure { (s.setTopKey { k with possible := false }) with simpleKeyAllowed := false }
      else if s.flowLevel == 0 then
        if !s.simpleKeyAllowed then failHere "mapping values are not allowed in this context" s.mark
        else pure { s.rollIndent s.column none .blockMappingStart s.mark with simpleKeyAllowed := true }
      else pure { s with simpleKeyAllowed := false }
    return simpleFlow .value s
  if c == '*' || c == '&' then
    let s ← s.saveSimpleKey
    return ← anchorOrAlias { s with simpleKeyAllowed := false } (c == '*')
  if c == '!' then
    let s ← s.saveSimpleKey
    return ← tag { s with simpleKeyAllowed := false }
  if (c == '|' || c == '>') && s.flowLevel == 0 then
    let s ← s.removeSimpleKey
    return ← blockScalar { s with simpleKeyAllowed := true } (c == '|')
  if c == '\'' || c == '"' then
    let s ← s.saveSimpleKey
    return ← quotedScalar { s with simpleKeyAllowed := false } (c == '\'')
  let indicator := isBlankz c || ['-', '?', ':', ',', '[', ']', '\x7b', '\x7d', '#', '&', '*', '!', '|', '>', '\'', '"', '%', '@', '`'].contains c
  if !indicator || (c == '-' && !isBlank (s.peek 1)) ||
      (s.flowLevel == 0 && (c == '?' || c == ':') && !isBlankz (s.peek 1)) then
    let s ← s.saveSimpleKey
    return ← plainScalar { s with simpleKeyAllowed := false }
  fail "while scanning for the next token" s.mark "found character that cannot start any token" s.mark

end Scanner

/-- Whether a character may appear in YAML text. -/
def allowedChar (c : Char) : Bool :=
  let v := c.toNat
  v == 0x09 || v == 0x0A || v == 0x0D || (0x20 ≤ v ∧ v ≤ 0x7E) || v == 0x85 ||
    (0xA0 ≤ v ∧ v ≤ 0xD7FF) || (0xE000 ≤ v ∧ v ≤ 0xFFFD) || (0x10000 ≤ v ∧ v ≤ 0x10FFFF)

/-- The byte offset of the first character that may not appear in YAML text. -/
def forbiddenOffset (text : String) : Option Nat :=
  let rec go (offset : Nat) : List Char → Option Nat
    | [] => none
    | c :: rest => if allowedChar c then go (offset + c.utf8Size) rest else some offset
  go 0 text.toList

/-- The tokens of a text, and the error that stopped scanning, if any. -/
def tokenize (text : String) : Array Token × Option SyntaxError :=
  match forbiddenOffset text with
  | some offset => (#[], some { problem := "control characters are not allowed", offset })
  | none =>
    let chars := text.toList
    -- a byte order mark at the very start is not part of the text
    let chars := match chars with
      | '\uFEFF' :: rest => rest
      | cs => cs
    let s : Scanner := { src := chars.toArray }
    let rec go (fuel : Nat) (s : Scanner) : Array Token × Option SyntaxError :=
      match fuel with
      | 0 => (s.tokens, none)
      | fuel + 1 =>
        if s.streamEndProduced then (s.tokens, none)
        else match s.fetchNext with
          | .ok s => go fuel s
          | .error e => (s.tokens, some e)
    go (4 * chars.length + 8) s

end CsiOperator.Yaml
