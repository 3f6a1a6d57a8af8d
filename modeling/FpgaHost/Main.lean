import FpgaHost.Cli.Commands

/-!
# The program

Reads the command line and the environment, lets the command have the files it wants, and prints its
report.
-/

namespace FpgaHost.Cli

/-- The system's number for a path that is a directory. -/
def isDirectoryCode : UInt32 := 21

/-- What a path leads to in the file system. -/
def readEntry (path : String) : IO (Option FileEntry) := do
  try
    return some (.file ⟨← IO.FS.readBinFile path⟩)
  catch e =>
    match e with
    | .noFileOrDirectory .. => return none
    | .inappropriateType _ code _ =>
      return if code = isDirectoryCode then some .directory else none
    | e => return some (.unreadable (.other (toString e)))

/-- Writes a file; answers what went wrong. -/
def writeEntry (path : String) (data : Bytes) : IO (Option FileError) := do
  try
    IO.FS.writeBinFile path data.packed
    return none
  catch e =>
    match e with
    | .noFileOrDirectory .. => return some .absent
    | .inappropriateType _ code _ =>
      return some (if code = isDirectoryCode then .isDirectory else .notDirectory)
    | e => return some (.other (toString e))

/-- Runs a command on the file system. -/
def Program.perform : Program → IO Report
  | .done report => return report
  | .readFile path next => do (next (← readEntry path)).perform
  | .writeFile path data next => do (next (← writeEntry path data)).perform

end FpgaHost.Cli

open FpgaHost FpgaHost.Cli in
/-- Runs the command line. The exit code of a command line without a meaning is two. -/
def main (args : List String) : IO UInt32 := do
  match Command.ofWords args with
  | .error e =>
    IO.eprintln s!"error: {e.message}"
    return 2
  | .ok command =>
    let environment ← IO.getEnv Emulation.environmentVariable
    let report ← (command.program environment).perform
    IO.print report.output
    IO.eprint report.errors
    return report.exitCode.toUInt32
