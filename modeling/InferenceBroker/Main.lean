import InferenceBroker.Cli.Program

/-!
# The command line

The program on a real machine. The arguments are read, and so are the environment
variables of the settings and the files of the working directory that a run may open:
the environment files and every argument that names a file, alone or after `=`. The run
then happens on that picture of the machine, and its output and exit status are handed
back; a negative status leaves as 255.
-/

namespace InferenceBroker

namespace CommandLine

/-- The environment variables the settings read. -/
def settingVariables : List String :=
  let t := Cli.aibroker
  ((t.commands.flatMap t.allFlags).map fun f => Layers.envName f.name).eraseDups

/-- The files a run may open: the environment files and every argument, alone or after
`=`. -/
def candidateFiles (args : List String) : List String :=
  let values := args.filterMap fun a => match a.splitOn "=" with
    | _ :: v :: _ => some v
    | _ => none
  ([".env", ".env.local"] ++ args ++ values).eraseDups

/-- Reads the named files that exist. -/
def readFiles (names : List String) : IO Directory := do
  let mut files : List (String × Bytes) := []
  for n in names do
    try
      let bs ← IO.FS.readBinFile n
      files := files ++ [(n, bs.toList)]
    catch _ => pure ()
  return { files := files }

/-- The environment: the settings' variables that are set. -/
def readEnvironment : IO (List (String × String)) := do
  let mut env : List (String × String) := []
  for name in settingVariables do
    if let some v ← IO.getEnv name then env := env ++ [(name, v)]
  return env

end CommandLine

end InferenceBroker

/-- Runs the program. -/
def main (args : List String) : IO UInt32 := do
  let env ← InferenceBroker.CommandLine.readEnvironment
  let dir ← InferenceBroker.CommandLine.readFiles (InferenceBroker.CommandLine.candidateFiles args)
  let (outcome, _, _) :=
    InferenceBroker.Cli.run (InferenceBroker.Cli.Host.ofDirectory dir) env args
  let out ← IO.getStdout
  out.write (ByteArray.mk outcome.out.toArray)
  out.flush
  let err ← IO.getStderr
  err.write (ByteArray.mk outcome.err.toArray)
  err.flush
  return (if outcome.exit < 0 then 255 else (outcome.exit.toNat % 256).toUInt32)
