/-
# The program

The outer layer of the command line. It finds out what surrounds the run, reads
the files that the run may ask for, and prints what comes out of it. Of what the
TOML library says about a malformed file it has the opening words only.
-/

import BeanConstraints.CommandLine.Run
import BeanConstraints.Component.Registry

namespace BeanConstraints.CommandLine

/-- Why a path leads nowhere, in the words of the system. -/
def reasonOf : IO.Error → String
  | .noFileOrDirectory .. => "No such file or directory (os error 2)"
  | .inappropriateType .. => "Not a directory (os error 20)"
  | .permissionDenied .. => "Permission denied (os error 13)"
  | .invalidArgument .. => "File name too long (os error 36)"
  | failure => toString failure

/-- Look at a path in the file system. -/
def look (path : String) : IO Finding := do
  try
    return .content (← IO.FS.readBinFile path)
  catch
    | .inappropriateType _ 21 _ => return .directory
    | failure =>
        try
          let _ ← IO.FS.realPath path
          return .unreadable (reasonOf failure)
        catch _ => return .missing (reasonOf failure)

/-- The paths that a run may ask for. -/
def pathsOf (home current : Option String) (arguments : List String) : List String :=
  match Arguments.read arguments with
  | .ok ⟨_, _, .inspect [] _ _ _⟩ =>
      (home.toList ++ current.toList).map PropertyFile.settingsPath
  | .ok ⟨_, _, .inspect files _ _ _⟩ => files
  | _ => []

/-- The number of the user, in the status of a process. -/
def userIn (status : String) : Option String :=
  (status.splitOn "\n").findSome? fun line =>
    match line.splitOn "\t" with
    | "Uid:" :: user :: _ => some user
    | _ => none

/-- The directory of a user, in the system's record of all users. -/
def homeIn (record user : String) : Option String :=
  (record.splitOn "\n").findSome? fun line =>
    match line.splitOn ":" with
    | [_, _, number, _, _, home, _] => if number == user then some home else none
    | _ => none

/-- The directory that the system has on record for the user of the program. -/
def recordedHome : IO (Option String) := do
  try
    let status ← IO.FS.readFile "/proc/self/status"
    let record ← IO.FS.readFile "/etc/passwd"
    return (userIn status).bind (homeIn record)
  catch _ => return none

/-- The directory in which the program runs, or why it is not known. -/
def currentDirectory : IO (Except String String) := do
  try
    return .ok (← IO.FS.realPath ".").toString
  catch failure => return .error (reasonOf failure)

end BeanConstraints.CommandLine

open BeanConstraints CommandLine in
/-- Run the program and leave with its exit code. -/
def main (arguments : List String) : IO UInt32 := do
  let home := PropertyFile.homeDirectory (← recordedHome) (← IO.getEnv "HOME")
  let current ← currentDirectory
  let known ← (pathsOf home current.toOption arguments).mapM fun path => do
    return (path, ← look path)
  let files : Files := fun path =>
    ((known.find? fun entry => entry.1 == path).map Prod.snd).getD
      (.missing "No such file or directory (os error 2)")
  let session := run
    ⟨files, fun _ => "TOML parse error", home, current, Component.Registry.shared.loader⟩ arguments
  IO.eprint session.errors
  IO.print session.ending.output
  return session.ending.code
