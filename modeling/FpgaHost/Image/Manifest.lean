import FpgaHost.Bytes
import FpgaHost.Image.Argument
import FpgaHost.Image.Error
import FpgaHost.Xml.Document

/-!
# The manifest

The manifest of an image is a document `project`, in it a `platform`, in it a `device`, in it a
`core`, and in that one `kernel` per kernel with an `arg` per argument. Tags are compared by their
base, so a scope around the whole manifest does not matter; attributes count only without a scope.

The arguments of all kernels lie in one sequence of indices. Those of a kernel are numbered from the
first index after all earlier ones, by the `id` of the argument or, without one, by its position
among the arguments of the kernel.

What the text of a manifest is as a document is left to a reader of documents (`readWith`). The
manifest of an image is read with the one at hand (`read`).
-/

namespace FpgaHost

/-- A kernel of an image. -/
structure KernelDecl where
  /-- Its name. -/
  name : String
  /-- The index from which its arguments are numbered. -/
  firstArg : Nat
  /-- How many arguments it has. -/
  argCount : Nat
  deriving DecidableEq, Repr

/-- What a manifest says. -/
structure Manifest where
  /-- What the image was built for. -/
  target : Option String
  /-- The kernels in order. -/
  kernels : List KernelDecl
  /-- The arguments of all kernels. -/
  args : ArgumentTable

namespace Manifest

open Xml (Element)

/-- The value of an attribute that an element must have. -/
def required (e : Element) (name : String) : Except ManifestError String :=
  match e.attribute? name with
  | some value => .ok value
  | none => .error (.missingAttribute e.tag name)

/-- The offset of an argument from the first index of its kernel. -/
def argumentOffset (e : Element) (name : String) (position : Nat) : Except ManifestError Nat :=
  match e.attribute? "id" with
  | none => .ok position
  | some id =>
    match Text.word64? (Text.trim id) with
    | some offset => .ok offset
    | none => .error (.invalidId name id)

/-- The category that a qualifier stands for; a missing one, and one that is no number, is -1. -/
def argumentCategory (qualifier : Option String) : ArgCategory :=
  match qualifier.bind fun raw => Text.signed64? (Text.trim raw) with
  | some code => .ofQualifier code
  | none => .unknown (-1)

/-- The argument that an element declares. -/
def argument (first : Nat) (e : Element) (position : Nat) : Except ManifestError Argument := do
  let name ← required e "name"
  let typeName ← required e "type"
  let offset ← argumentOffset e name position
  return {
    index := first + offset
    name, typeName
    category := argumentCategory (e.attribute? "addressQualifier") }

/-- Adds the arguments of a kernel, the next of them at a position. -/
def addArguments (kernel : String) (first : Nat) :
    (position : Nat) → List Element → ArgumentTable → Except ManifestError ArgumentTable
  | _, [], args => .ok args
  | position, e :: rest, args => do
    let arg ← argument first e position
    if args.contains arg.index then throw (.duplicateIndex arg.index kernel)
    addArguments kernel first (position + 1) rest (args.insert arg.index arg)

/-- Adds kernels and their arguments to those read so far. -/
def addKernels : List Element → List KernelDecl → ArgumentTable →
    Except ManifestError (List KernelDecl × ArgumentTable)
  | [], kernels, args => .ok (kernels.reverse, args)
  | e :: rest, kernels, args => do
    let name ← required e "name"
    let first := args.nextIndex
    let elements := e.childrenTagged "arg"
    let args ← addArguments name first 0 elements args
    addKernels rest (⟨name, first, elements.length⟩ :: kernels) args

/-- The element in an element that must be there. -/
def requiredChild (e : Element) (tag : String) : Except ManifestError Element :=
  match e.child? tag with
  | some c => .ok c
  | none => .error (.missingElement tag)

/-- The manifest that a document says. -/
def ofElement (project : Element) : Except ManifestError Manifest := do
  if project.tag ≠ "project" then throw (.wrongRoot project.tag)
  let platform ← requiredChild project "platform"
  let device ← requiredChild platform "device"
  let core ← requiredChild device "core"
  let (kernels, args) ← addKernels (core.childrenTagged "kernel") [] .empty
  if kernels.isEmpty then throw .noKernel
  return { target := core.attribute? "target", kernels, args }

/-- The document in a payload, as a reader of documents finds it; zero bytes at its end do not
count. -/
def documentIn (reader : Xml.Reader) (payload : Bytes) : Except ManifestError Element :=
  match Utf8.decode? payload.withoutTrailingZeros with
  | .error cause => .error (.notText cause)
  | .ok text =>
    match reader text with
    | none => .error .notDocument
    | some project => .ok project

/-- The manifest in a payload that is a document for a reader. -/
def readWith (reader : Xml.Reader) (payload : Bytes) : Except ManifestError Manifest := do
  ofElement (← documentIn reader payload)

/-- The manifest in a payload. -/
def read (payload : Bytes) : Except ManifestError Manifest := readWith Xml.parse? payload

end Manifest

end FpgaHost
