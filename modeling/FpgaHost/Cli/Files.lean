import FpgaHost.Image.Basic

/-!
# Files in memory

A tree of files that a command can be run on, in place of the files of a system. Paths are followed
name by name: a name, and also `.` or `..`, leads on only from a directory that is there. Around the
tree lies a system that has its usual directories and no file that the tree does not hold.
-/

namespace FpgaHost.Cli

/-! ### Places -/

/-- Where a path leads, by the names on the way. Names that lead upward stand only at the front of
the way from the working directory. -/
structure Place where
  /-- Whether the way begins at the root of the system, not in the working directory. -/
  absolute : Bool
  /-- The names. -/
  names : List String := []
  deriving DecidableEq, Repr

namespace Place

/-- Where a path begins. -/
def start (path : String) : Place := { absolute := path.toList.head? = some '/' }

/-- The directory that holds a place. The root of the system holds itself. -/
def parent (p : Place) : Place :=
  if !p.names.all (· = "..") then { p with names := p.names.dropLast }
  else if p.absolute then p
  else { p with names := p.names ++ [".."] }

/-- Where a name leads from a directory. -/
def next (p : Place) (name : String) : Place :=
  if name = "" || name = "." then p
  else if name = ".." then p.parent
  else { p with names := p.names ++ [name] }

/-- Where a path leads if all the names on the way do. -/
def ofPath (path : String) : Place := (path.splitOn "/").foldl next (start path)

end Place

/-! ### The system around -/

/-- Directories that a system has whatever is installed on it. -/
def systemPaths : List String :=
  ["/bin", "/boot", "/dev/fd", "/dev/mqueue", "/dev/pts", "/dev/shm", "/etc/alternatives", "/etc/apt",
    "/etc/default", "/etc/dpkg", "/etc/init.d", "/etc/pam.d", "/etc/profile.d", "/etc/security",
    "/etc/skel", "/etc/ssl/certs", "/home", "/lib", "/lib64", "/media", "/mnt", "/opt", "/proc/1",
    "/proc/net", "/proc/self/cwd", "/proc/self/fd", "/proc/self/fdinfo", "/proc/self/net",
    "/proc/self/ns", "/proc/self/root", "/proc/self/task", "/proc/sys/fs", "/proc/sys/kernel",
    "/proc/sys/net", "/proc/sys/vm", "/proc/thread-self", "/root", "/run/lock", "/sbin", "/srv",
    "/sys/block", "/sys/bus", "/sys/class", "/sys/dev", "/sys/devices", "/sys/firmware", "/sys/fs",
    "/sys/kernel", "/sys/module", "/sys/power", "/tmp", "/usr/bin", "/usr/games", "/usr/include",
    "/usr/lib", "/usr/lib64", "/usr/libexec", "/usr/local/bin", "/usr/local/etc",
    "/usr/local/games", "/usr/local/include", "/usr/local/lib", "/usr/local/man", "/usr/local/sbin",
    "/usr/local/share", "/usr/local/src", "/usr/sbin", "/usr/share/doc", "/usr/share/man",
    "/usr/src", "/var/backups", "/var/cache", "/var/lib", "/var/local", "/var/lock", "/var/log",
    "/var/mail", "/var/opt", "/var/run", "/var/spool", "/var/tmp"]

/-- The places of these directories. -/
def systemPlaces : List Place := systemPaths.map .ofPath

/-- Whether a place lies on the way to another one, or is the same. -/
def Place.leadsTo (p q : Place) : Bool := p.absolute = q.absolute && p.names.isPrefixOf q.names

/-! ### Files -/

/-- A tree of files, each known by its place. Directories are there as far as files lie in them. -/
structure Files where
  /-- The files. -/
  entries : List (Place × Bytes) := []
  deriving DecidableEq, Repr

namespace Files

/-- How many bytes a name may have. -/
def maxNameSize : Nat := 255

/-- How many bytes a path may have. -/
def maxPathSize : Nat := 4095

/-- Whether a place is a directory: where the ways begin, what lies above, what the system has or
passes on the way to what it has, and what files lie in. -/
def isDirectory (fs : Files) (p : Place) : Bool :=
  p.names.all (· = "..") || systemPlaces.any p.leadsTo ||
    fs.entries.any fun e => p.leadsTo e.1 && p ≠ e.1

/-- The file at a place. -/
def file? (fs : Files) (p : Place) : Option Bytes := fs.entries.lookup p

/-- The place that names lead to one after the other. A name leads on from a directory only. -/
def follow (fs : Files) : Place → List String → Except FileError Place
  | p, [] => .ok p
  | p, name :: rest =>
    if !fs.isDirectory p then .error (if (fs.file? p).isSome then .notDirectory else .absent)
    else if maxNameSize < name.utf8ByteSize then .error .nameTooLong
    else fs.follow (p.next name) rest

/-- The place that the names of a path lead to, from where the path begins. -/
def locate (fs : Files) (path : String) (names : List String) : Except FileError Place :=
  if path = "" then .error .absent
  else if maxPathSize < path.utf8ByteSize then .error .nameTooLong
  else fs.follow (Place.start path) names

/-- What a path leads to. -/
def find? (fs : Files) (path : String) : Option FileEntry :=
  match fs.locate path (path.splitOn "/") with
  | .error _ => none
  | .ok p => if fs.isDirectory p then some .directory else (fs.file? p).map .file

/-- Puts a file into the tree, instead of the one at its place. -/
def insert (fs : Files) (p : Place) (data : Bytes) : Files :=
  { entries := (p, data) :: fs.entries.filter (·.1 ≠ p) }

/-- Writes a file. The directory it is to lie in must be there, and the path must end in a name:
slashes after it say that it leads to a directory. -/
def write (fs : Files) (path : String) (data : Bytes) : Except FileError Files := do
  let names := (path.splitOn "/").reverse
  let ending := names.dropWhile (· = "")
  let place ← fs.locate path ending.reverse
  if ending.length < names.length || fs.isDirectory place then .error .isDirectory
  else .ok (fs.insert place data)

end Files

end FpgaHost.Cli
