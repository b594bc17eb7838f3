import ObjectModel.Cli.Command
import Std.Time.DateTime.Timestamp

/-!
# The program

The command on the real file system.
-/

namespace ObjectModel.Cli

/-- A day number, counted from 1970-01-01, as year, month and day. -/
def civilDate (days : Int) : Int × Int × Int :=
  -- years start in March here, so that the leap day comes last
  let shifted := days + 719468
  let era := shifted / 146097
  let dayOfEra := shifted % 146097
  let yearOfEra := (dayOfEra - dayOfEra / 1460 + dayOfEra / 36524 - dayOfEra / 146096) / 365
  let dayOfYear := dayOfEra - (365 * yearOfEra + yearOfEra / 4 - yearOfEra / 100)
  let shiftedMonth := (5 * dayOfYear + 2) / 153
  let day := dayOfYear - (153 * shiftedMonth + 2) / 5 + 1
  let month := if shiftedMonth < 10 then shiftedMonth + 3 else shiftedMonth - 9
  (yearOfEra + era * 400 + (if month ≤ 2 then 1 else 0), month, day)

/-- A number of nanoseconds since 1970 as a time in universal time. -/
def timeText (nanoseconds : Int) : String :=
  let seconds := nanoseconds / 1000000000
  let (year, month, day) := civilDate (seconds / 86400)
  let ofDay := seconds % 86400
  let two (n : Int) : String := zeroPadded 2 n.toNat
  zeroPadded 4 year.toNat ++ "-" ++ two month ++ "-" ++ two day ++ "T" ++ two (ofDay / 3600) ++
    ":" ++ two (ofDay / 60 % 60) ++ ":" ++ two (ofDay % 60) ++ "." ++
    zeroPadded 9 (nanoseconds % 1000000000).toNat ++ "+00:00"

/-- The result of an action on files. -/
def tryFile {α : Type} (action : IO α) : IO (Except FileError α) := do
  try return .ok (← action)
  catch
    | .noFileOrDirectory .. => return .error .notFound
    | .alreadyExists .. => return .error .alreadyExists
    | .inappropriateType _ 20 _ => return .error .notADirectory
    | .inappropriateType _ 21 _ => return .error .isADirectory
    | .invalidArgument _ 36 _ => return .error .nameTooLong
    | e => return .error (.other e.toString)

/-- The real file system. -/
def realStore : FileStore IO where
  pathExists path := do
    match ← tryFile (IO.FS.Handle.mk path .read) with
    | .error .notFound | .error .notADirectory | .error .nameTooLong => return false
    | _ => return true
  isDirectory path := do
    return (← tryFile (IO.FS.Handle.mk (path ++ "/.") .read)).toOption.isSome
  read path := tryFile (IO.FS.readBinFile path)
  makeDirectory path := tryFile (IO.FS.createDir path)
  write path content := tryFile (IO.FS.writeBinFile path content)
  rename source target := tryFile (IO.FS.rename source target)
  now := do return timeText (← Std.Time.Timestamp.now).toNanosecondsSinceUnixEpoch.val

end ObjectModel.Cli

def main (arguments : List String) : IO UInt32 := do
  let report ← ObjectModel.Cli.run ObjectModel.Cli.realStore arguments
  IO.print report.standardOutput
  IO.eprint report.standardError
  return report.exitCode
