import FpgaHost.Table

/-!
# Arguments of kernels

All kernels of an image share one sequence of argument indices. An argument has a category, which
says how it is bound, and possibly the tag of the memory bank it is connected to.
-/

namespace FpgaHost

/-- How an argument is bound. -/
inductive ArgCategory where
  /-- By value. -/
  | scalar
  /-- As a buffer in device memory. -/
  | mmap
  /-- As a stream. -/
  | stream
  /-- By a qualifier without a meaning here. -/
  | unknown (qualifier : Int)
  deriving DecidableEq, Repr

namespace ArgCategory

/-- The category of an address qualifier. -/
def ofQualifier (qualifier : Int) : ArgCategory :=
  if qualifier = 0 then .scalar
  else if qualifier = 1 then .mmap
  else if qualifier = 4 then .stream
  else .unknown qualifier

/-- The name of a category. -/
def name : ArgCategory → String
  | .scalar => "scalar"
  | .mmap => "mmap"
  | .stream => "stream"
  | .unknown qualifier => s!"unknown({qualifier})"

/-- Whether arguments of a category are bound as buffers. -/
def isBuffer : ArgCategory → Bool
  | .mmap => true
  | _ => false

end ArgCategory

/-- An argument of a kernel. -/
structure Argument where
  /-- Its index among the arguments of all kernels. -/
  index : Nat
  /-- Its name. -/
  name : String
  /-- Its type, as declared. -/
  typeName : String
  /-- How it is bound. -/
  category : ArgCategory
  /-- The tag of the bank it is connected to. -/
  bankTag : Option String := none
  deriving DecidableEq, Repr

/-- The arguments of an image by index. -/
abbrev ArgumentTable := Table Nat Argument

namespace ArgumentTable

/-- The index after the last one in use. -/
def nextIndex (t : ArgumentTable) : Nat :=
  match t.lastKey? with
  | none => 0
  | some i => i + 1

/-- The arguments of a category, in index order. -/
def ofCategory (t : ArgumentTable) (category : ArgCategory) : List Argument :=
  t.values.filter (·.category = category)

end ArgumentTable

end FpgaHost
