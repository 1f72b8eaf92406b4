import TapeWorkbench.CommandLine.Execution

/-!
# The command line program

Reads the files that the arguments name, runs the program with a pause between
ticks, and writes what there is to show as soon as it is known.
-/

namespace TapeWorkbench
namespace CommandLine

/-- What a failed reading comes to. -/
def readFailureOf : IO.Error → ReadFailure
  | .noFileOrDirectory _ _ _ => .notFound
  | .permissionDenied _ _ _ => .permissionDenied
  | .inappropriateType _ 20 _ => .notDirectory
  | .inappropriateType _ _ _ => .isDirectory
  | .invalidArgument _ 36 _ => .nameTooLong
  | failure => .other failure.toString

def readBytes (path : String) : IO (Except ReadFailure ByteArray) := do
  try
    return .ok (← IO.FS.readBinFile path)
  catch failure =>
    return .error (readFailureOf failure)

def readInput : IO (Except ReadFailure ByteArray) := do
  try
    return .ok (← (← IO.getStdin).readBinToEnd)
  catch failure =>
    return .error (readFailureOf failure)

/-- The digits of a fraction with as many places as given, without zeros at the end. -/
def fractionText (places fraction : Nat) : String :=
  let digits := Decimal.digits fraction
  let padded := List.replicate (places - digits.length) '0' ++ digits
  match (padded.reverse.dropWhile (· == '0')).reverse with
  | [] => ""
  | kept => "." ++ String.ofList kept

/-- A time in the greatest unit that it fills. -/
def durationText (nanoseconds : Nat) : String :=
  if 1000000000 ≤ nanoseconds then
    Decimal.numeral (nanoseconds / 1000000000) ++
      fractionText 9 (nanoseconds % 1000000000) ++ "s"
  else if 1000000 ≤ nanoseconds then
    Decimal.numeral (nanoseconds / 1000000) ++ fractionText 6 (nanoseconds % 1000000) ++ "ms"
  else if 1000 ≤ nanoseconds then
    Decimal.numeral (nanoseconds / 1000) ++ fractionText 3 (nanoseconds % 1000) ++ "µs"
  else
    Decimal.numeral nanoseconds ++ "ns"

/-- The streams of the process, and pauses of whole milliseconds. -/
def console : Surroundings IO where
  out text := do
    let stdout ← IO.getStdout
    stdout.putStr text
    stdout.flush
  err text := do
    let stderr ← IO.getStderr
    stderr.putStr text
    stderr.flush
  wait nanoseconds := IO.sleep (nanoseconds / 1000000).toUInt32

def monotonicClock : Stopwatch IO where
  time compute := do
    let before ← IO.monoNanosNow
    let value ← IO.lazyPure compute
    let after ← IO.monoNanosNow
    return (value, durationText (after - before))

/-- What this program says of a settings text that cannot be read. -/
def settingsReport (_ : String) : String :=
  "the text cannot be read as settings"

def usage : String :=
  "Runs a compiled Turing machine program and prints the result.\n\n" ++
  "Usage: " ++ programName ++ " [OPTIONS] [PROGRAM]\n\n" ++
  "  [PROGRAM]                 the program file; standard input when omitted\n" ++
  "  -c, --config <FILE>       TOML file overriding the default settings\n" ++
  "  -s, --speed <SPEED>       ticks per second; the maximum runs bursts of steps\n" ++
  "  -b, --breakpoint <INDEX>  toggle the breakpoint of an assembly line (repeatable)\n" ++
  "  -d, --debug               print the machine after every tick\n" ++
  "      --json                print the final snapshot as JSON\n" ++
  "      --max-ticks <TICKS>   give up after this many ticks\n" ++
  "  -u, --unthrottled         run to completion without a timer\n" ++
  "      --max-steps <STEPS>   step budget of an unthrottled run\n" ++
  "  -h, --help                print this help\n" ++
  "  -V, --version             print the version\n"

def showFailure (failure : StartFailure) : IO UInt32 := do
  console.err failure.errorLine
  return 1

/-- Run a prepared session by the clock, and show what came of it. -/
def runAndShow (options : Options) (session : Session) : IO UInt32 := do
  match ← (console.runAndShow monotonicClock options session).run with
  | .ok exit => return exit.toUInt32
  | .error failure => showFailure failure

def runOptions (options : Options) : IO UInt32 := do
  let settings ←
    match options.settingsFile with
    | some path => readBytes path
    | none => pure (.error .notFound)
  let report := settingsReport
  match settingsOf options { settings, report, program := .error .notFound } with
  | .error fault => showFailure (.fault fault)
  | .ok _ =>
    if options.program.isNone && (← (← IO.getStdin).isTty) then
      showFailure .noProgram
    else
      let program ←
        match options.program with
        | some path => readBytes path
        | none => readInput
      match prepare options { settings, report, program } with
      | .ok session => runAndShow options session
      | .error failure => showFailure failure

def runArguments (arguments : List String) : IO UInt32 := do
  match Options.read arguments with
  | .ok options => runOptions options
  | .error .help => do
    console.out usage
    return 0
  | .error .version => do
    console.out versionLine
    return 0
  | .error (.misuse detail) => do
    console.err ("error: " ++ detail ++ "\n\n" ++ usage)
    return 2

end CommandLine
end TapeWorkbench

def main (arguments : List String) : IO UInt32 :=
  TapeWorkbench.CommandLine.runArguments arguments
