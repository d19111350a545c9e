import CsiOperator.Cli.Options
/-!
Reading the command line.

Arguments are read from left to right. A long option is `--name` or `--name=value`; a short
argument `-abc` is a cluster of one-letter switches, read letter by letter. An option that takes
a value and has none attached takes the next argument, unless that argument looks like an option
itself. After `--` every argument is a plain word, and a command takes no plain words.

An option's value is checked, and the option recorded, only when the next option is met or the
arguments end: `--log-format xml --c` reports the unknown `--c`, not the bad value. A help or
version request answers as soon as it is read, once the option before it has been settled, so
`-Vh` prints the version and `-hV` the help. A switch or an option given twice is an error, as
is an option whose value never comes. An option that stays absent takes its environment
variable when that is set, even to the empty text, and its default otherwise.

Errors name what was read so far in their usage line: an unexpected value names the options
taken and the switch it was attached to, and an unknown long option names the options taken
and the known option most similar to it, which the error also offers. At the top level an
unknown option may instead be found among the options of a command named later on the line.
-/

namespace CsiOperator.Cli

/-- A command as the reader sees it. -/
structure Spec where
  /-- The name usage lines start with. -/
  name : String
  /-- The options, in the order they are declared. -/
  opts : List Opt
  /-- The subcommands, each with the long names of its options. -/
  subcommands : List (String × List String)
  /-- The usage line that names no option. -/
  usage : String
  /-- The text the help option prints. -/
  helpText : String

/-- The names of a command's subcommands. -/
def Spec.commands (s : Spec) : List String := s.subcommands.map (·.1)

/-- The usage line naming the options `used`, in order; the plain usage line when there are
none. -/
def Spec.usageNaming (s : Spec) (used : List String) : String :=
  if used.isEmpty then s.usage
  else
    s.name ++ String.join (used.filterMap fun n => (s.opts.find? (·.long == n)).map (" " ++ ·.spec)) ++
      (if s.subcommands.isEmpty then "" else " <COMMAND>")

/-- The program itself, whose only options ask for help or for the version. -/
def topSpec : Spec :=
  { name := programName, opts := [helpOpt, versionOpt],
    subcommands := [("run", (runOpts ++ [helpOpt]).map (·.long)), ("version", ["help"]), ("help", [])],
    usage := programName ++ " <COMMAND>", helpText := mainHelp }

/-- The `run` command. -/
def runSpec (env : List (String × String)) : Spec :=
  { name := programName ++ " run", opts := runOpts ++ [helpOpt], subcommands := [],
    usage := programName ++ " run [OPTIONS]", helpText := runHelp env }

/-- The `version` command. -/
def versionSpec : Spec :=
  { name := programName ++ " version", opts := [helpOpt], subcommands := [],
    usage := programName ++ " version", helpText := versionHelp }

/-- An option read together with its value, or with none yet. -/
structure Pending where
  opt : Opt
  value : Option String

/-- How far a command's arguments have been read. -/
structure ReadState where
  /-- The options recorded, by long name with their values, in the order recorded. -/
  taken : List (String × String) := []
  /-- The option read last, whose value is still to be checked. -/
  pending : Option Pending := none
  /-- Whether `--` has been read. -/
  trailing : Bool := false

/-- Records an option with its value. An option recorded before is an error, and is dropped
from the record; a value its option does not accept is an error too, with the option recorded. -/
def take (s : Spec) (o : Opt) (v : String) (taken : List (String × String)) :
    List (String × String) × Option Invocation :=
  if taken.any (·.1 == o.long) then (taken.filter (·.1 != o.long), some (repeated o s.usage))
  else (taken ++ [(o.long, v)], o.check v)

/-- Settles the option read last: records it with its value, or fails when it has none. Gives
the state after, also when there is an error. -/
def settle (s : Spec) (st : ReadState) : ReadState × Option Invocation :=
  match st.pending with
  | none => (st, none)
  | some ⟨o, none⟩ => ({ st with pending := none }, some (emptyValue o))
  | some ⟨o, some v⟩ =>
    let (taken, e) := take s o v st.taken
    ({ st with taken, pending := none }, e)

/-- Settles the option read last, stopping at an error. -/
def settled (s : Spec) (st : ReadState) : Except Invocation ReadState :=
  match settle s st with
  | (st, none) => .ok st
  | (_, some e) => .error e

/-- Acts on an option given with its value, or without one for a switch: after settling the
option before it, a help or version request answers, and a setting is recorded. -/
def react (s : Spec) (o : Opt) (v : String) (st : ReadState) : Except Invocation ReadState := do
  let st ← settled s st
  match o.role with
  | .help => .error (.print s.helpText false 0)
  | .version => .error (.print versionLine false 0)
  | .setting =>
    match take s o v st.taken with
    | (taken, none) => .ok { st with taken }
    | (_, some e) => .error e

/-- Starts an option that takes a value: with the value attached, it is recorded at once;
otherwise the next argument brings it. -/
def startValue (s : Spec) (o : Opt) (attached : Option String) (st : ReadState) :
    Except Invocation ReadState :=
  match attached with
  | some v => react s o v st
  | none => do
    let st ← settled s st
    .ok { st with pending := some ⟨o, none⟩ }

/-- The names of the options recorded, with one more at the end unless it is among them. -/
def usedWith (st : ReadState) (n : String) : List String :=
  let names := st.taken.map (·.1)
  if names.contains n then names else names ++ [n]

/-- Reads a long option that the command knows. -/
def readLong (s : Spec) (o : Opt) (attached : Option String) (st : ReadState) :
    Except Invocation ReadState :=
  if o.value.isSome then startValue s o attached st
  else
    match attached with
    | some v =>
      .error (failure ("unexpected value '" ++ v ++ "' for '" ++ o.spec ++ "' found; no more were expected")
        [] (some (s.usageNaming (usedWith st o.long))))
    | none => react s o "true" st

/-- The error for a long option the command does not know, with the arguments after it. A
similar option of the command is offered and named in the usage line; failing that, an option
of a subcommand named later on the line, the one named first. -/
def unknownLong (s : Spec) (name : String) (rest : List String) (st : ReadState) : Invocation :=
  let message := "unexpected argument '--" ++ name ++ "' found"
  match Suggest.best? name (s.opts.map (·.long)) with
  | some c => failure message (similarTip "argument" ["--" ++ c]) (some (s.usageNaming (usedWith st c)))
  | none =>
    let found := s.subcommands.filterMap fun (sub, longs) =>
      (Suggest.best? name longs).bind fun c => (rest.idxOf? sub).map fun i => (i, sub, c)
    let first := found.foldl (fun best x => match best with
      | some b => if x.1 < b.1 then some x else some b
      | none => some x) none
    let tips := match first with
      | some (_, sub, c) => ["'" ++ sub ++ " --" ++ c ++ "' exists"]
      | none => []
    failure message tips (some (s.usageNaming (st.taken.map (·.1))))

/-- The error for a plain word, which no command takes. At the top level it is taken for a
mistyped command, and after `--` a command's name is pointed out. -/
def stray (s : Spec) (a : String) (trailing : Bool) : Invocation :=
  if trailing && s.commands.contains a then
    failure ("unexpected argument '" ++ a ++ "' found")
      ["subcommand '" ++ a ++ "' exists; to use it, remove the '--' before it"] (some s.usage)
  else if !s.subcommands.isEmpty then
    failure ("unrecognized subcommand '" ++ a ++ "'") (similarTip "subcommand" (Suggest.similar a s.commands))
      (some s.usage)
  else failure ("unexpected argument '" ++ a ++ "' found") [] (some s.usage)

/-- Reads a cluster of one-letter options. A letter of an option that takes a value takes the
rest of the cluster as its value, after an optional `=`, or the next argument when nothing
follows. -/
def readShorts (s : Spec) : List Char → ReadState → Except Invocation ReadState
  | [], st => .ok st
  | c :: cs, st =>
    match s.opts.find? (·.short == some c) with
    | none => .error (failure ("unexpected argument '-" ++ String.singleton c ++ "' found") [] (some s.usage))
    | some o =>
      if o.value.isSome then
        let v := String.ofList cs
        startValue s o (if v.isEmpty then none else some (if v.startsWith "=" then (v.drop 1).toString else v)) st
      else do readShorts s cs (← react s o "true" st)

/-- Splits the text after `--` at its first `=` into a name and an attached value. -/
def splitLong (body : String) : String × Option String :=
  match body.splitOn "=" with
  | n :: v :: more => (n, some ("=".intercalate (v :: more)))
  | _ => (body, none)

/-- Where reading a command's arguments ends: at their end, or at a subcommand with the
arguments after it. -/
inductive Outcome where
  | done (st : ReadState)
  | sub (name : String) (rest : List String)

/-- Reads a command's arguments. -/
def readArgs (s : Spec) : List String → ReadState → Except Invocation Outcome
  | [], st => .ok (.done st)
  | a :: rest, st =>
    if st.trailing then .error (stray s a true)
    else if s.commands.contains a then .ok (.sub a rest)
    else if a == "--" then readArgs s rest { st with trailing := true }
    else if a.startsWith "--" then
      let (name, attached) := splitLong (a.drop 2).toString
      match s.opts.find? (·.long == name) with
      | none => .error (unknownLong s name rest (settle s st).1)
      | some o =>
        match readLong s o attached st with
        | .ok st => readArgs s rest st
        | .error e => .error e
    else if a.startsWith "-" && a != "-" then
      match readShorts s (a.drop 1).toString.toList st with
      | .ok st => readArgs s rest st
      | .error e => .error e
    else
      match st.pending with
      | some ⟨o, none⟩ => readArgs s rest { st with pending := some ⟨o, some a⟩ }
      | _ => .error (stray s a false)

/-- Gives the options that stay absent the values of their environment variables that are
set, in the order the options are declared. -/
def fromEnv (s : Spec) (env : List (String × String)) (st : ReadState) : Except Invocation ReadState :=
  s.opts.foldlM (fun st o =>
    match o.env.bind (envValue env) with
    | some v =>
      if st.taken.any (·.1 == o.long) then .ok st
      else
        match take s o v st.taken with
        | (taken, none) => .ok { st with taken }
        | (_, some e) => .error e
    | none => .ok st) st

/-- Reads a command without subcommands to its end: the options recorded, with those from the
environment. -/
def readCommand (s : Spec) (env : List (String × String)) (args : List String) :
    Except Invocation (List (String × String)) := do
  match ← readArgs s args {} with
  | .done st => pure (← fromEnv s env (← settled s st)).taken
  | .sub _ _ => pure []

/-- The settings of `run` from the options recorded. -/
def runOptions (taken : List (String × String)) : RunOptions :=
  let get (o : String) : Option String := taken.lookup o
  { configDir := get "config-dir"
    configFile := (get "config-file").getD "config.yaml"
    drivers := get "drivers"
    metricsAddr := (get "metrics-addr").getD ":9999"
    leaderElection := (get "enable-leader-election").isSome
    strictEnvCheck := (get "strict-env-check").isSome
    logFormat := if get "log-format" == some "json" then .json else .text
    ns := (get "namespace").getD "default" }

/-- The help of the command named in `help`, or the error for an unknown one, which names the
command it was looked for in. -/
def helpFor (env : List (String × String)) : List String → Invocation
  | [] => .print mainHelp false 0
  | ["run"] => .print (runHelp env) false 0
  | ["version"] => .print versionHelp false 0
  | ["help"] => .print helpHelp false 0
  | "run" :: x :: _ => failure ("unrecognized subcommand '" ++ x ++ "'") [] (some (runSpec env).usage)
  | "version" :: x :: _ => failure ("unrecognized subcommand '" ++ x ++ "'") [] (some versionSpec.usage)
  | "help" :: x :: _ =>
    usageError ("unrecognized subcommand '" ++ x ++ "'") [] (some (programName ++ " help [COMMAND]...")) false
  | x :: _ => failure ("unrecognized subcommand '" ++ x ++ "'") [] (some topSpec.usage)

/-- What a command line comes to, in an environment. -/
def invocation (args : List String) (env : List (String × String)) : Invocation :=
  match readArgs topSpec args {} with
  | .error i => i
  | .ok (.done _) => .print mainHelp true 2
  | .ok (.sub "help" rest) => helpFor env rest
  | .ok (.sub "version" rest) =>
    match readCommand versionSpec env rest with
    | .ok _ => .start .version
    | .error i => i
  | .ok (.sub _ rest) =>
    match readCommand (runSpec env) env rest with
    | .ok taken => .start (.run (runOptions taken))
    | .error i => i

end CsiOperator.Cli
