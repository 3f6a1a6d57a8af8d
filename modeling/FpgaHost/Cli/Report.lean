import FpgaHost.Cli.Files

/-!
# What a command does

A command prints, and may need files. `Program` says so in its type: it is done with a report, or it
wants a file read or written and goes on with what became of that. Nothing else of the world is in
its reach, so a command can be run on files that exist in memory only (`Files`).
-/

namespace FpgaHost.Cli

/-- What a command leaves for its user. -/
structure Report where
  /-- What it prints. -/
  output : String := ""
  /-- Why it failed, if it did: the messages of the failure and its causes, outermost first. -/
  failure : Option (List String) := none
  deriving DecidableEq, Repr

namespace Report

/-- A cause, indented; the lines after its first one stand under it. -/
def causeLine (label : String) (cause : String) : String :=
  let indent := String.ofList (List.replicate label.length ' ')
  label ++ ("\n" ++ indent).intercalate (cause.splitOn "\n")

/-- The lines of the causes of a failure; several are numbered from zero. -/
def causeLines : List String → List String
  | [cause] => [causeLine "    " cause]
  | causes => causes.mapIdx fun i cause => causeLine s!"    {i}: " cause

/-- The text that reports a failure. -/
def failureText : List String → String
  | [] => ""
  | message :: causes =>
    let heading := s!"Error: {message}\n"
    if causes.isEmpty then heading
    else heading ++ "\nCaused by:\n" ++ String.join ((causeLines causes).map (· ++ "\n"))

/-- What goes to the error stream. -/
def errors (r : Report) : String := (r.failure.map failureText).getD ""

/-- The exit code. -/
def exitCode (r : Report) : UInt8 := if r.failure.isSome then 1 else 0

end Report

/-- A command at work. -/
inductive Program where
  /-- It is over. -/
  | done (report : Report)
  /-- It wants to know what a path leads to. -/
  | readFile (path : String) (next : Option FileEntry → Program)
  /-- It wants a file written; the answer is what went wrong. -/
  | writeFile (path : String) (data : Bytes) (next : Option FileError → Program)

/-! ### Running -/

/-- Runs a command on files in memory. -/
def Program.run : Program → Files → Report × Files
  | .done report, fs => (report, fs)
  | .readFile path next, fs => (next (fs.find? path)).run fs
  | .writeFile path data next, fs =>
    match fs.write path data with
    | .ok fs => (next none).run fs
    | .error e => (next (some e)).run fs

end FpgaHost.Cli
