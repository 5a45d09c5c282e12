/-
  OnePass/Main.lean
  =================
  **The command line** — compiles the sample program.

  The assembly file goes to the path given as the first argument, or to
  standard output.  The variable `ONEPASS_LOG` sets the level of the journal,
  which is written to standard error; from `debug` on, the body is annotated.
-/
import OnePass.Sample

open OnePass

def main (args : List String) : IO UInt32 := do
  let level := ((← IO.getEnv "ONEPASS_LOG").bind Severity.ofName?)
  let (answer, after) := Session.sample.perform
    { state := Session.start (Options.ofLevel level), journal := { level } }
  for event in after.journal.events do
    IO.eprintln (event.severity.tag ++ " " ++ event.message)
  match args with
  | path :: _ => IO.FS.writeFile path after.state.assembly
  | [] => IO.print after.state.assembly
  match answer with
  | .ok () => return 0
  | .error cause =>
    IO.eprintln ("Error: " ++ cause.message)
    return 1
