import Gatehouse.Live.Machine

/-!
# The program

Arguments in, exit status out: what the arguments ask for is told by
`CommandLine`, and how a run goes by `Launch`.
-/

open Gatehouse

/-- Reads the arguments and does what they ask for. -/
def main (args : List String) : IO UInt32 := do
  match CommandLine.parse args with
  | .error fault =>
    IO.eprint fault.message
    return 2
  | .ok .help =>
    IO.print CommandLine.helpText
    return 0
  | .ok .version =>
    IO.print CommandLine.versionText
    return 0
  | .ok (.serve options) =>
    let host ← Live.Machine.host
    let result ← (Launch.run host options).run.block
    match result with
    | .error e => IO.eprintln ("Error: " ++ e.toText)
    | .ok () => pure ()
    return UInt32.ofNat (exitCode result)
