import Std.Time.DateTime.Timestamp
import StorefrontLoad.GuestCheckout.Launch
import StorefrontLoad.Run.Identifier

/-!
# The guest checkout on the command line

Random bytes, the time and the summary file are fetched from outside, the rest is the library's. The
program brings no network of its own, so it is a trial run in which no storefront can be reached.
-/

open StorefrontLoad

namespace GuestCheckoutProgram

/-- What is known of the disk: whether the summary file can be opened. -/
def diskAround (path : Option String) : IO Disk := do
  match path with
  | none => return .empty []
  | some path =>
    try
      let _ ← IO.FS.Handle.mk path .append
      return .empty [Disk.parent path]
    catch _ => return .empty []

/-- Adds to the real files what was added to the files of the disk. -/
def flush (disk : Disk) : IO Unit := do
  for (path, content) in disk.files do
    let file ← IO.FS.Handle.mk path .append
    file.write (ByteArray.mk content.toArray)

def wordOfBytes (bytes : List UInt8) : UInt64 :=
  bytes.foldl (fun word byte ↦ word * 256 + byte.toUInt64) 0

def mostMoves : Nat := 1000000000000

def summaryFile (environment : Option String) (args : List String) : Option String :=
  match CommandLine.parse environment args with
  | .ok arguments => arguments.summaryFile
  | .error _ => none

def occasionNow (path : Option String) : IO Run.Occasion := do
  let bytes ← IO.getRandomBytes Run.Identifier.length.toUSize
  let now ← Std.Time.Timestamp.now
  return {
    freshId := Run.Identifier.ofBytes bytes.toList
    startedAt := Int64.ofInt now.toSecondsSinceUnixEpoch.val
    disk := ← diskAround path
    mostMoves := mostMoves }

/-- Shows what a launch left behind and gives the exit code. -/
def conclude (launch : GuestCheckout.Launch) : IO UInt32 := do
  for line in launch.lines do
    if line.isShownAt .info then IO.eprintln line.text
  IO.print launch.printed
  flush launch.disk
  match launch.complaint with
  | some complaint => IO.eprintln complaint
  | none => pure ()
  return launch.exitCode.toUInt32

end GuestCheckoutProgram

open GuestCheckoutProgram in
def main (args : List String) : IO UInt32 := do
  let environment ← IO.getEnv "GALE_TARGET_URL"
  let occasion ← occasionNow (summaryFile environment args)
  let entropy := wordOfBytes (← IO.getRandomBytes 8).toList
  match GuestCheckout.launch .unreachable () occasion entropy environment args with
  | .error .displayHelp =>
    IO.print CommandLine.usage
    return 0
  | .error kind =>
    IO.eprintln ("error: " ++ kind.message)
    return 2
  | .ok none => return 1
  | .ok (some launch) => conclude launch
