import TargetGraph.Command.Run

/-!
The command line program. It opens the one file that a request names, runs the request on it and writes
the outcome.
-/
set_option autoImplicit false

namespace TargetGraph

/-- The numbers by which the operating system tells why a path cannot be used. -/
def notADirectoryNumber : UInt32 := 20
def isDirectoryNumber : UInt32 := 21
def nameTooLongNumber : UInt32 := 36

/-- The number and words of a failure of the system. Some failures come with their number negated. -/
def systemFailure (error : IO.Error) : UInt32 × String :=
  let (number, words) : UInt32 × String :=
    match error with
    | .permissionDenied _ number words | .inappropriateType _ number words
    | .invalidArgument _ number words | .resourceExhausted _ number words
    | .noSuchThing _ number words | .interrupted _ number words
    | .otherError number words | .hardwareFault number words => (number, words)
    | error => (0, toString error)
  (if 0x80000000 ≤ number then 0 - number else number, words)

def openOnDisk (path : String) : IO (Except OpenFailure ByteStream) := do
  if path.toList.contains '\x00' then return .error (.failed .nulInName)
  try
    let bytes ← IO.FS.readBinFile path
    return .ok [.bytes bytes.toList]
  catch error =>
    if let .noFileOrDirectory .. := error then return .error .notFound
    let (number, words) := systemFailure error
    if number = isDirectoryNumber then return .ok [.failed .isDirectory]
    if number = notADirectoryNumber then return .error (.failed .notADirectory)
    if number = nameTooLongNumber then return .error (.failed .nameTooLong)
    return .error (.failed (.other s!"{words} (os error {number})"))

def environmentOnHand : IO Command.Environment := do
  let level ← IO.getEnv "RUST_LOG"
  let forced ← IO.getEnv "FORCE_COLOR"
  let onTerminal ← (← IO.getStdout).isTty
  return ⟨level.bind Log.Verbosity.ofName?, forced.isSome || onTerminal⟩

def usageText : String :=
  "usage: bgraph [-f FILE] [--json] [-v] targets | top | show TARGET"

end TargetGraph

open TargetGraph in
def main (arguments : List String) : IO UInt32 := do
  let opened ←
    match Command.Request.ofArguments arguments with
    | some (.run _ options) => openOnDisk options.fileName
    | _ => pure (.error .notFound)
  let outcome := Command.run (fun _ => opened) (← environmentOnHand) arguments
  IO.print outcome.standardOutput
  IO.eprint outcome.standardError
  if outcome.code = 2 then IO.eprintln usageText
  return UInt32.ofNat outcome.code
