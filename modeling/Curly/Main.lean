import Curly.Command
import Curly.Command.Help

/-!
The command line: reads the arguments and the files that they name, carries out the request and
prints what came of it.
-/

namespace Curly.Command

/-- The code of the system for a directory where a file was expected. -/
def directoryCode : UInt32 := 21

/-- The codes for a name that is too long: that of the system, and the same below zero. -/
def nameTooLongCodes : List UInt32 := [36, 0 - 36]

/-- A file that may not be read, unless the way to it may not be searched. -/
def deniedOrHidden (path : String) : IO FileState := do
  try
    discard <| IO.FS.realPath path
    return .denied
  catch _ => return .hidden

/-- What stands under a path on the disk. -/
def stateOf (path : String) : IO FileState := do
  try
    return .file (← IO.FS.readBinFile path).toList
  catch e =>
    match e with
    | .noFileOrDirectory .. => return .missing
    | .inappropriateType _ code _ => return if code == directoryCode then .directory else .blocked
    | .invalidArgument _ code _ =>
      if nameTooLongCodes.contains code then return .nameTooLong else deniedOrHidden path
    | _ => deniedOrHidden path

/-- All text that comes in. -/
partial def readAll (input : IO.FS.Stream) (done : ByteArray) : IO String := do
  let bytes ← input.read 65536
  if bytes.isEmpty then
    match (Text.Encoding.utf8.decode done.toList).toOption with
    | some s => return String.ofList s
    | none => throw (IO.userError "the input is not UTF-8")
  readAll input (done ++ bytes)

/-- The environment variable that asks for details. -/
def detailVariable : String := "STACHE_DEBUG"

/-- Carries out a request with the files on the disk. -/
def runOnDisk (r : Request) : IO Report := do
  let states ← r.paths.mapM fun path => return (path, ← stateOf path)
  let input ← if r.template == inputPath then readAll (← IO.getStdin) .empty else pure ""
  let detailed := ((← IO.getEnv detailVariable).getD "") != ""
  return run ⟨fun path => (states.lookup path).getD .missing, input, detailed⟩ r

end Curly.Command

open Curly.Command in
def main (args : List String) : IO UInt32 := do
  match Request.read args with
  | .error ending =>
    IO.print ending.output
    return UInt32.ofNat ending.code
  | .ok request =>
    let report ← runOnDisk request
    IO.print report.output
    IO.eprint report.messages
    return UInt32.ofNat report.code
