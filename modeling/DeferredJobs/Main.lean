import DeferredJobs.DryRun

/-!
# The command line of dry runs
-/

open DeferredJobs

def main (arguments : List String) : IO UInt32 := do
  let names := ["JOBCFG_PRETTY_JSON", "JOBCFG_HISTORY_CLEANUP", "JOBCFG_BATCH_HANDLERS"]
  let values ← names.mapM fun name => return (name, ← IO.getEnv name)
  let environment : Environment := fun name => (values.lookup name).join
  let input : IO String := do (← IO.getStdin).readToEnd
  let outcome ← DryRun.run environment input arguments
  IO.print outcome.output
  if outcome.exitCode = 2 then IO.eprintln DryRun.usage
  if let some report := outcome.report then IO.eprintln report
  return outcome.exitCode.toUInt32
