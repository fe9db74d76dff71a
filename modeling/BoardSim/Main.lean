import BoardSim.Command.Run

/-!
# The command

Reads the options, runs the demo firmware on a board and prints what came of it.
-/

namespace BoardSim.Command

def helpText : String := "\n".intercalate [
  "Growth-chamber MCU peripheral simulator",
  "",
  "Usage: chambersim [OPTIONS]",
  "",
  "Options:",
  "  -b, --board <BOARD>        Board descriptor (YAML or JSON) instead of the built-in one",
  "  -n, --ticks <TICKS>        Number of ticks to run before shutting down [default: 1000]",
  "  -t, --trace                Enable debug-level logging",
  "      --can-trace            Print every frame seen by the CAN controllers",
  "      --inject <INJECT>      Frame to put on CAN bus 0 after start-up, ID#HEXDATA. Repeatable",
  "      --probe <PROBE>        Raw 12-bit reading of the temperature probe [default: 0x6A4]",
  "      --snapshot <SNAPSHOT>  Write a JSON snapshot of the final device state to this path",
  "      --json                 Print the run summary as JSON",
  "  -h, --help                 Print help",
  "  -V, --version              Print version"]

def UsageError.text : UsageError → String
  | .unknownArgument => "error: unexpected argument found"
  | .missingValue => "error: a value is required but none was supplied"
  | .badValue => "error: invalid value"
  | .repeated => "error: an argument cannot be used multiple times"
  | .unexpectedValue => "error: unexpected value found"
  | .help => helpText
  | .version => "chambersim 0.13.0"

/-- The code of an error, whatever its sign. -/
def hasCode (code expected : UInt32) : Bool := code = expected || code = 0 - expected

def faultOf : IO.Error → FileFault
  | .noFileOrDirectory .. => .missing
  | .inappropriateType _ code _ => if hasCode code 21 then .isDirectory else .notDirectory
  | .invalidArgument _ code reason => if hasCode code 36 then .nameTooLong else .other reason
  | e => .other (toString e)

def readFile (path : String) : IO (Except FileFault String) := do
  try
    pure (.ok (← IO.FS.readFile path))
  catch e =>
    pure (.error (faultOf e))

def writeFile (path content : String) : IO (Option FileFault) := do
  try
    IO.FS.writeFile path content
    pure none
  catch e =>
    pure (some (faultOf e))

def printError (message : String) : IO Unit := IO.println ("ERROR " ++ message)

def perform (o : Options) : IO UInt32 := do
  let file ← o.board.mapM fun path => (path, ·) <$> readFile path
  let begun ← IO.monoNanosNow
  match (loadBoard file).mapError Refusal.board >>= execute o with
  | .error e =>
    printError e.message
    pure e.exitCode.toUInt32
  | .ok run =>
    if !o.json then
      let stdout ← IO.getStdout
      stdout.write ⟨run.console⟩
    run.errors o |>.forM printError
    let seconds := (Float.ofNat ((← IO.monoNanosNow) - begun)) / 1000000000
    let rate := if 0 < seconds then run.sim.tick.toFloat / seconds else 0
    (run.output o rate).forM IO.println
    match o.snapshot with
    | none => pure (run.exitCode false).toUInt32
    | some path =>
      let fault ← writeFile path run.snapshotText
      fault.forM fun fault => printError (Run.snapshotError path fault)
      pure (run.exitCode fault.isSome).toUInt32

end BoardSim.Command

open BoardSim.Command in
def main (args : List String) : IO UInt32 := do
  match Options.ofWords args with
  | .ok o => perform o
  | .error e =>
    if e = .help || e = .version then
      IO.println e.text
      pure 0
    else
      IO.eprintln e.text
      pure 2
