import CsiOperator.Operator.Startup
/-!
The `dell-csi-operator` command. It reads the command line, the environment variables the
operator consults, the configuration directory and the kubeconfig, runs the program on them,
and writes what the program logs and prints, ending with its status.

This build has no network client: the API server that the kubeconfig names is never reached,
so every request to it fails as unreachable, as it does when the server is down.
-/

namespace CsiOperator.Command

/-- The text of a file, when it can be read. -/
def readText? (path : String) : IO (Option String) :=
  tryCatch (some <$> IO.FS.readFile path) fun _ => pure none

/-- The host as this process finds it, for the options of `run`: starting reads the
configuration file of the configuration directory and the kubeconfig, and nothing else. -/
def host (env : List (String × String)) (o : Cli.RunOptions) : IO Startup.Host := do
  let dir := o.configDir.getD Settings.defaultConfigDir
  let files := ((← readText? (Discovery.joinPath dir o.configFile)).map (o.configFile, ·)).toList
  let kubeconfig := (env.lookup "KUBECONFIG").getD ""
  let text ← readText? kubeconfig
  pure { env, workdir := { path := dir, files }, kubeconfigs := if text.isSome then [kubeconfig] else [],
         server := (text.map Startup.serverOf).getD "", cluster := { online := false } }

/-- Waits while the operator keeps running. -/
partial def waitForever : IO Unit := do
  IO.sleep 60000
  waitForever

end CsiOperator.Command

open CsiOperator in
/-- Runs the command line. -/
def main (args : List String) : IO UInt32 := do
  let env ← Startup.consulted.filterMapM fun n => do pure ((← IO.getEnv n).map (n, ·))
  let i := Cli.invocation args env
  let h ← match i with
    | .start (.run o) => Command.host env o
    | _ => pure { env, workdir := { path := "", files := [] }, kubeconfigs := [], server := "",
                  cluster := { online := false } }
  let rep := Startup.report i h
  match rep.logs with
  | some (format, records) =>
    for r in records do
      IO.println (match format with
        | .json => r.jsonLine
        | .text => r.textLine)
  | none => pure ()
  IO.print rep.stdout
  match rep.ending with
  | .exit status err =>
    IO.eprint err
    pure status.toUInt32
  | .running =>
    Command.waitForever
    pure 0
