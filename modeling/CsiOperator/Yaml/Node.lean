import CsiOperator.Yaml.Scanner
/-!
YAML documents as trees of nodes, assembled from tokens by the YAML grammar.

Each node keeps the mark where it begins (its anchor or tag, if it has one), so that a reader
of the document can say where a value it refuses stands. Aliases are replaced by the node
their anchor names.

When the text has an error, the tree holds what was read before it and a `broken` node where
the error was met: a reader that refuses an earlier value reports that value, and one that
reaches the broken node reports the syntax error, as a reader walking the text in order would.
-/

namespace CsiOperator.Yaml

/-- A node of a YAML document. -/
inductive Node where
  | scalar (text : String) (style : ScalarStyle) (tag : Option String) (mark : Mark)
  | seq (items : List Node) (mark : Mark) (tag : Option String := none)
  | map (entries : List (Node × Node)) (mark : Mark) (tag : Option String := none)
  /-- Where reading stopped at a syntax error. -/
  | broken (error : SyntaxError)
deriving Inhabited, Repr

/-- A collection with the tag written before it. -/
def Node.withTag (tag : Option String) : Node → Node
  | .seq items m _ => .seq items m tag
  | .map entries m _ => .map entries m tag
  | n => n

/-- The documents of a YAML text, as far as a reader of one document needs them. -/
structure Stream where
  /-- The first document; none when the text holds no document. -/
  first : Option Node := none
  /-- An error met inside or before the first document. -/
  error : Option SyntaxError := none
  /-- Whether anything but the end of the text follows the first document. -/
  more : Bool := false
deriving Inhabited

namespace Parse

/-- Named anchors and their nodes. -/
abbrev Anchors := List (String × Node)

/-- The tokens being assembled, and the error met where they run out. -/
structure Env where
  toks : Array Token
  tail : SyntaxError

/-- The token at a place, or the error that ended scanning before it. -/
def Env.get (env : Env) (i : Nat) : Except SyntaxError Token :=
  match env.toks[i]? with
  | some t => .ok t
  | none => .error env.tail

/-- The outcome of assembling a part: the part, the next token and the anchors, or the part
as far as it got and the error that stopped it. -/
inductive Step (α : Type) where
  | ok (a : α) (next : Nat) (anchors : Anchors)
  | stop (part : α) (error : SyntaxError)

/-- An error with a context. -/
def err (context : String) (contextMark : Mark) (problem : String) (problemMark : Mark) : SyntaxError :=
  { problem, problemMark, context := some (context, contextMark) }

/-- The error for running out of steps, which a text never causes. -/
def exhausted : SyntaxError := { problem := "document too deeply nested" }

/-- An empty plain scalar. -/
def empty (m : Mark) : Node := .scalar "" .plain none m

/-- Whether a token kind is one of a list. -/
def isOneOf (k : TokenKind) (ks : List TokenKind) : Bool := ks.contains k

/-- The full name of a tag. -/
def resolveTag (handle suffix : String) : Option String :=
  if handle == "" then some suffix
  else if handle == "!" then some ("!" ++ suffix)
  else if handle == "!!" then some ("tag:yaml.org,2002:" ++ suffix)
  else none

/-- The error for a place where a node was expected. -/
def contentError (block : Bool) (start : Mark) (t : Token) : Step Node :=
  let e := err (if block then "while parsing a block node" else "while parsing a flow node") start
    "did not find expected node content" t.start
  .stop (.broken e) e

/-- Reads an anchor and a tag, in either order, before a node. -/
def properties (env : Env) (i : Nat) :
    Except SyntaxError (Option String × Option (String × String) × Mark × Nat) := do
  let t ← env.get i
  match t.kind with
  | .anchor a =>
    let t2 ← env.get (i + 1)
    match t2.kind with
    | .tag h s => pure (some a, some (h, s), t.start, i + 2)
    | _ => pure (some a, none, t.start, i + 1)
  | .tag h s =>
    let t2 ← env.get (i + 1)
    match t2.kind with
    | .anchor a => pure (some a, some (h, s), t.start, i + 2)
    | _ => pure (none, some (h, s), t.start, i + 1)
  | _ => pure (none, none, t.start, i)

/-- Assembles the value of a flow mapping entry; `close` ends the enclosing collection. -/
def flowValue (env : Env) (value : Nat → Anchors → Step Node) (close : TokenKind) (i : Nat)
    (an : Anchors) : Step Node :=
  match env.get i with
  | .error e => .stop (.broken e) e
  | .ok t =>
    if t.kind == .value then
      match env.get (i + 1) with
      | .error e => .stop (.broken e) e
      | .ok t2 =>
        if isOneOf t2.kind [.flowEntry, close] then .ok (empty t2.start) (i + 1) an
        else value (i + 1) an
    else .ok (empty t.start) i an

/-- Assembles a one-entry mapping written inside a flow sequence, after its key token. -/
def pairInSeq (env : Env) (value : Nat → Anchors → Step Node) (m : Mark) (i : Nat) (an : Anchors) :
    Step Node :=
  let key : Step Node := match env.get i with
    | .error e => .stop (.broken e) e
    | .ok t =>
      if isOneOf t.kind [.value, .flowEntry, .flowSequenceEnd] then .ok (empty t.start) i an
      else value i an
  match key with
  | .stop k e => .stop (.map [(k, .broken e)] m) e
  | .ok k j an =>
    match flowValue env value .flowSequenceEnd j an with
    | .ok v next an => .ok (.map [(k, v)] m) next an
    | .stop v e => .stop (.map [(k, v)] m) e

/-- Assembles the value of a block mapping entry, with `value` assembling the node of a value
that is written. -/
def blockValue (env : Env) (value : Nat → Anchors → Step Node) (i : Nat) (an : Anchors) :
    Step Node :=
  match env.get i with
  | .error e => .stop (.broken e) e
  | .ok t =>
    match t.kind with
    | .value =>
      match env.get (i + 1) with
      | .error e => .stop (.broken e) e
      | .ok t2 =>
        if isOneOf t2.kind [.key, .value, .blockEnd] then .ok (empty t.stop) (i + 1) an
        else value (i + 1) an
    | _ => .ok (empty t.start) i an

mutual

/-- Assembles a node; `block` allows block collections and `indentless` a sequence of `-`
entries at the indentation of the enclosing mapping. -/
def node (env : Env) (fuel : Nat) (block indentless : Bool) (i : Nat) (an : Anchors) : Step Node :=
  match fuel with
  | 0 => .stop (.broken exhausted) exhausted
  | fuel + 1 =>
    match env.get i with
    | .error e => .stop (.broken e) e
    | .ok t =>
      match t.kind with
      | .alias name =>
        match an.lookup name with
        | some n => .ok n (i + 1) an
        | none =>
          let e : SyntaxError := { problem := "unknown anchor", problemMark := t.start }
          .stop (.broken e) e
      | _ =>
        match properties env i with
        | .error e => .stop (.broken e) e
        | .ok (anchor, tagParts, start, i) =>
          match env.get i with
          | .error e => .stop (.broken e) e
          | .ok t =>
            let tag := tagParts.map fun (h, s) => resolveTag h s
            match tag with
            | some none =>
              let e := err "while parsing a node" start "found undefined tag handle" start
              .stop (.broken e) e
            | _ =>
            let tag := tag.bind id
            let named (n : Node) (next : Nat) (an : Anchors) : Step Node :=
              .ok n next (match anchor with
                | some a => (a, n) :: an
                | none => an)
            let collection (r : Step Node) : Step Node :=
              match r with
              | .ok n next an => named (n.withTag tag) next an
              | .stop n e => .stop (n.withTag tag) e
            if indentless && t.kind == .blockEntry then collection (indentlessSeq env fuel start i [] an)
            else match t.kind with
              | .scalar text style => named (.scalar text style tag start) (i + 1) an
              | .flowSequenceStart => collection (flowSeq env fuel start t.start true (i + 1) [] an)
              | .flowMappingStart => collection (flowMap env fuel start t.start true (i + 1) [] an)
              | .blockSequenceStart =>
                if block then collection (blockSeq env fuel start t.start (i + 1) [] an)
                else contentError block start t
              | .blockMappingStart =>
                if block then collection (blockMap env fuel start t.start (i + 1) [] an)
                else contentError block start t
              | _ =>
                if anchor.isSome || tag.isSome then named (.scalar "" .plain tag start) i an
                else contentError block start t

/-- Assembles the entries of a block sequence, after its start token. -/
def blockSeq (env : Env) (fuel : Nat) (m ctx : Mark) (i : Nat) (items : List Node) (an : Anchors) :
    Step Node :=
  match fuel with
  | 0 => .stop (.seq (items ++ [.broken exhausted]) m) exhausted
  | fuel + 1 =>
    let broken (e : SyntaxError) : Step Node := .stop (.seq (items ++ [.broken e]) m) e
    match env.get i with
    | .error e => broken e
    | .ok t =>
      match t.kind with
      | .blockEntry =>
        match env.get (i + 1) with
        | .error e => broken e
        | .ok t2 =>
          if isOneOf t2.kind [.blockEntry, .blockEnd] then
            blockSeq env fuel m ctx (i + 1) (items ++ [empty t.stop]) an
          else
            match node env fuel true false (i + 1) an with
            | .ok n next an => blockSeq env fuel m ctx next (items ++ [n]) an
            | .stop n e => .stop (.seq (items ++ [n]) m) e
      | .blockEnd => .ok (.seq items m) (i + 1) an
      | _ => broken (err "while parsing a block collection" ctx "did not find expected '-' indicator" t.start)

/-- Assembles a sequence of `-` entries at a mapping's indentation. -/
def indentlessSeq (env : Env) (fuel : Nat) (m : Mark) (i : Nat) (items : List Node) (an : Anchors) :
    Step Node :=
  match fuel with
  | 0 => .stop (.seq (items ++ [.broken exhausted]) m) exhausted
  | fuel + 1 =>
    let broken (e : SyntaxError) : Step Node := .stop (.seq (items ++ [.broken e]) m) e
    match env.get i with
    | .error e => broken e
    | .ok t =>
      match t.kind with
      | .blockEntry =>
        match env.get (i + 1) with
        | .error e => broken e
        | .ok t2 =>
          if isOneOf t2.kind [.blockEntry, .key, .value, .blockEnd] then
            indentlessSeq env fuel m (i + 1) (items ++ [empty t.stop]) an
          else
            match node env fuel true false (i + 1) an with
            | .ok n next an => indentlessSeq env fuel m next (items ++ [n]) an
            | .stop n e => .stop (.seq (items ++ [n]) m) e
      | _ => .ok (.seq items m) i an

/-- Assembles the entries of a block mapping, after its start token. -/
def blockMap (env : Env) (fuel : Nat) (m ctx : Mark) (i : Nat) (entries : List (Node × Node))
    (an : Anchors) : Step Node :=
  match fuel with
  | 0 => .stop (.map (entries ++ [(.broken exhausted, .broken exhausted)]) m) exhausted
  | fuel + 1 =>
    let broken (e : SyntaxError) : Step Node := .stop (.map (entries ++ [(.broken e, .broken e)]) m) e
    match env.get i with
    | .error e => broken e
    | .ok t =>
      match t.kind with
      | .key =>
        let key : Step Node := match env.get (i + 1) with
          | .error e => .stop (.broken e) e
          | .ok t2 =>
            if isOneOf t2.kind [.key, .value, .blockEnd] then .ok (empty t.stop) (i + 1) an
            else node env fuel true true (i + 1) an
        match key with
        | .stop k e => .stop (.map (entries ++ [(k, .broken e)]) m) e
        | .ok k j an =>
          match blockValue env (fun j an => node env fuel true true j an) j an with
          | .ok v next an => blockMap env fuel m ctx next (entries ++ [(k, v)]) an
          | .stop v e => .stop (.map (entries ++ [(k, v)]) m) e
      | .blockEnd => .ok (.map entries m) (i + 1) an
      | _ => broken (err "while parsing a block mapping" ctx "did not find expected key" t.start)

/-- Assembles the entries of a flow sequence, after its start token. -/
def flowSeq (env : Env) (fuel : Nat) (m ctx : Mark) (first : Bool) (i : Nat) (items : List Node)
    (an : Anchors) : Step Node :=
  match fuel with
  | 0 => .stop (.seq (items ++ [.broken exhausted]) m) exhausted
  | fuel + 1 =>
    let broken (e : SyntaxError) : Step Node := .stop (.seq (items ++ [.broken e]) m) e
    match env.get i with
    | .error e => broken e
    | .ok t =>
      if t.kind == .flowSequenceEnd then .ok (.seq items m) (i + 1) an
      else
        let sep : Except SyntaxError (Token × Nat) :=
          if first then .ok (t, i)
          else if t.kind == .flowEntry then (env.get (i + 1)).map (·, i + 1)
          else .error (err "while parsing a flow sequence" ctx "did not find expected ',' or ']'" t.start)
        match sep with
        | .error e => broken e
        | .ok (t, i) =>
          match t.kind with
          | .flowSequenceEnd => .ok (.seq items m) (i + 1) an
          | .key =>
            match pairInSeq env (fun j an => node env fuel false false j an) t.start (i + 1) an with
            | .ok p next an => flowSeq env fuel m ctx false next (items ++ [p]) an
            | .stop p e => .stop (.seq (items ++ [p]) m) e
          | _ =>
            match node env fuel false false i an with
            | .ok n next an => flowSeq env fuel m ctx false next (items ++ [n]) an
            | .stop n e => .stop (.seq (items ++ [n]) m) e

/-- Assembles the entries of a flow mapping, after its start token. -/
def flowMap (env : Env) (fuel : Nat) (m ctx : Mark) (first : Bool) (i : Nat)
    (entries : List (Node × Node)) (an : Anchors) : Step Node :=
  match fuel with
  | 0 => .stop (.map (entries ++ [(.broken exhausted, .broken exhausted)]) m) exhausted
  | fuel + 1 =>
    let broken (e : SyntaxError) : Step Node := .stop (.map (entries ++ [(.broken e, .broken e)]) m) e
    match env.get i with
    | .error e => broken e
    | .ok t =>
      if t.kind == .flowMappingEnd then .ok (.map entries m) (i + 1) an
      else
        let sep : Except SyntaxError (Token × Nat) :=
          if first then .ok (t, i)
          else if t.kind == .flowEntry then (env.get (i + 1)).map (·, i + 1)
          else .error (err "while parsing a flow mapping" ctx "did not find expected ',' or '\x7d'" t.start)
        match sep with
        | .error e => broken e
        | .ok (t, i) =>
          match t.kind with
          | .flowMappingEnd => .ok (.map entries m) (i + 1) an
          | .key =>
            let key : Step Node := match env.get (i + 1) with
              | .error e => .stop (.broken e) e
              | .ok t2 =>
                if isOneOf t2.kind [.value, .flowEntry, .flowMappingEnd] then .ok (empty t2.start) (i + 1) an
                else node env fuel false false (i + 1) an
            match key with
            | .stop k e => .stop (.map (entries ++ [(k, .broken e)]) m) e
            | .ok k j an =>
              match flowValue env (fun j an => node env fuel false false j an) .flowMappingEnd j an with
              | .ok v next an => flowMap env fuel m ctx false next (entries ++ [(k, v)]) an
              | .stop v e => .stop (.map (entries ++ [(k, v)]) m) e
          | _ =>
            match node env fuel false false i an with
            | .stop k e => .stop (.map (entries ++ [(k, .broken e)]) m) e
            | .ok k j an =>
              match env.get j with
              | .error e => .stop (.map (entries ++ [(k, .broken e)]) m) e
              | .ok t3 => flowMap env fuel m ctx false j (entries ++ [(k, empty t3.start)]) an

end

/-- Reads the directives before an explicit document. -/
def directives (env : Env) (i : Nat) (seenVersion : Bool) (fuel : Nat) : Except SyntaxError Nat := do
  match fuel with
  | 0 => pure i
  | fuel + 1 =>
    let t ← env.get i
    match t.kind with
    | .versionDirective major minor =>
      if seenVersion then .error { problem := "found duplicate %YAML directive", problemMark := t.start }
      else if major != 1 || (minor != 1 && minor != 2) then
        .error { problem := "found incompatible YAML document", problemMark := t.start }
      else directives env (i + 1) true fuel
    | .tagDirective _ _ => directives env (i + 1) seenVersion fuel
    | _ => pure i

/-- Assembles the first document of a token list, and looks whether more follows. -/
def stream (env : Env) : Stream :=
  let fuel := 2 * env.toks.size + 8
  let starts : List TokenKind := [.documentStart, .streamEnd]
  match env.get 0 with
  | .error e => { error := some e }
  | .ok _ =>
    match env.get 1 with
    | .error e => { error := some e }
    | .ok t =>
      let isDirective := match t.kind with
        | .versionDirective _ _ | .tagDirective _ _ => true
        | _ => false
      if t.kind == .streamEnd then {}
      else
        let body : Except SyntaxError (Step Node) :=
          if !isDirective && !starts.contains t.kind then .ok (node env fuel true false 1 [])
          else do
            let i ← directives env 1 false fuel
            let t ← env.get i
            if t.kind != .documentStart then
              .error { problem := "did not find expected <document start>", problemMark := t.start }
            else
              let t2 ← env.get (i + 1)
              let isContentEnd := match t2.kind with
                | .versionDirective _ _ | .tagDirective _ _ | .documentStart | .documentEnd
                | .streamEnd => true
                | _ => false
              if isContentEnd then pure (.ok (empty t2.start) (i + 1) [])
              else pure (node env fuel true false (i + 1) [])
        match body with
        | .error e => { error := some e }
        | .ok (.stop n e) => { first := some n, error := some e }
        | .ok (.ok n i _) =>
          match env.get i with
          | .error e => { first := some n, error := some e }
          | .ok t =>
            let i := if t.kind == .documentEnd then i + 1 else i
            let rec rest (fuel : Nat) (i : Nat) : Bool :=
              match fuel with
              | 0 => true
              | fuel + 1 =>
                match env.get i with
                | .error _ => true
                | .ok t =>
                  if t.kind == .documentEnd then rest fuel (i + 1) else t.kind != .streamEnd
            { first := some n, more := rest (env.toks.size + 1) i }

end Parse

/-- Reads the first document of a YAML text. -/
def Stream.ofText (text : String) : Stream :=
  let (toks, error) := tokenize text
  Parse.stream { toks, tail := error.getD { problem := "unexpected end of tokens" } }

end CsiOperator.Yaml
