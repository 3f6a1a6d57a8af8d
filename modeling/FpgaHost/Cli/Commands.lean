import FpgaHost.Cli.Options
import FpgaHost.Cli.Report
import FpgaHost.Image.Spec
import FpgaHost.Image.Summary
import FpgaHost.Session.Basic
import FpgaHost.Simulator.Calls
import FpgaHost.Text.Quoted

/-!
# The commands

`inspect` reports on an image, `placement` on bank tags, `pack` writes a small image, and `simulate`
runs one cycle of an image on the simulator: every buffer argument gets a buffer of one size that is
loaded and stored, every scalar argument is zero.

What is printed before a step fails stays printed.
-/

namespace FpgaHost.Cli

open Text

/-! ### Placement of bank tags -/

/-- The line of a bank tag. -/
def placementLine (tag : String) : String :=
  let column := padRight 12 tag
  match Placement.placementFlag? tag with
  | none => s!"{column} unrecognized (default placement)"
  | some flag =>
    let start := s!"{column} 0x{hex 8 flag.toNat}"
    match Placement.hbmChannel? flag with
    | some channel => s!"{start}  HBM channel {channel}"
    | none => start

/-- Reports on bank tags. -/
def placement (tags : List String) : Program :=
  .done { output := String.join (tags.map fun tag => placementLine tag ++ "\n") }

/-! ### Reports on images -/

/-- Reads an image and goes on with it; a failure is reported. -/
def withImage (path : String) (next : Image → Report) : Program :=
  .readFile path fun entry => .done <|
    match Image.ofFile path entry with
    | .ok image => next image
    | .error e => { failure := some (s!"reading {path}" :: e.chain) }

/-- Reports on an image. -/
def inspect (path : String) : Program := withImage path fun image => { output := image.summary }

/-! ### Writing a small image -/

/-- What a small image is to hold. -/
structure PackOptions where
  /-- The device it is for. -/
  device : String := "xilinx_u250_gen3x16_xdma_4_1"
  /-- Its kernel. -/
  kernel : String := "vadd"
  /-- The banks, one per buffer argument. -/
  banks : List String := ["DDR[0]", "DDR[1]", "DDR[2]"]
  /-- The target in the manifest. -/
  target : String := "bitstream"
  deriving DecidableEq, Repr

/-- Adds a buffer argument in a bank of its own. -/
def withBankedBuffer (s : ImageSpec) (position : Nat) (tag : String) : ImageSpec :=
  let index := Int32.ofNat position
  ((s.buffer s!"b{position}" "int*").bank { tag }).connect index index

/-- Adds buffer arguments, the first of them at a position. -/
def withBankedBuffers (s : ImageSpec) (position : Nat) : List String → ImageSpec
  | [] => s
  | tag :: rest => withBankedBuffers (withBankedBuffer s position tag) (position + 1) rest

/-- A small image: the buffer arguments and the number of elements. -/
def PackOptions.spec (o : PackOptions) : ImageSpec :=
  (withBankedBuffers ((ImageSpec.ofKernel o.device o.kernel).withTarget o.target) 0 o.banks).scalar
    "n" "int"

/-- Writes a small image. -/
def pack (path : String) (o : PackOptions) : Program :=
  let image := o.spec.build
  .writeFile path image fun
    | none => .done { output := s!"Wrote {image.size} bytes to {path}\n" }
    | some e => .done { failure := some [s!"writing {path}", e.message] }

/-! ### Running a cycle on the simulator -/

/-- How a cycle is to be run. -/
structure SimulateOptions where
  /-- The size of every buffer. -/
  size : Nat := 1048576
  /-- How long the kernel runs. -/
  kernelTime : Nat := defaultKernelTime
  /-- How many bytes move in a unit of time. -/
  bandwidth : Nat := defaultBandwidth
  deriving DecidableEq, Repr

/-- A placement as it is shown. -/
def placementText : BufferPlacement → String
  | .bank tag flag => s!"Bank \x7b tag: {quoted tag}, flag: {flag} \x7d"
  | .unrecognized tag => s!"Unrecognized \x7b tag: {quoted tag} \x7d"
  | .byDefault => "Default"
  | .unplaced => "Unplaced"

/-- A session and the lines printed so far. -/
abbrev Printing (α : Type) := Attempt (Session Simulator × List String) α

/-- Prints a line. -/
def print (line : String) : Printing Unit := modify fun (s, lines) => (s, lines ++ [line])

/-- Works on the session. -/
def inSession {α : Type} (x : Attempt (Session Simulator) α) : Printing α :=
  Attempt.within (·.1) (fun s p => (s, p.2)) x

/-- Prints where the buffer of an argument lies. -/
def printBuffer (index size : Nat) : Printing Unit := do
  let (s, _) ← get
  match s.buffers.buffers.get? index with
  | none => return
  | some b => print s!"  [{padNumber 2 index}] {size} bytes  {placementText b.placement}"

/-- Binds an argument. -/
def bindArgument (size : Nat) (a : Argument) : Printing Unit := do
  match a.category with
  | .mmap =>
    let _ ← inSession (Session.createBuffer { index := a.index, access := .readWrite, size })
    inSession (Session.setBuffer a.index)
    printBuffer a.index size
  | .scalar => inSession (Session.setScalar a.index (Octets.zeros 4))
  | _ => return

/-- Binds all arguments and runs a cycle. -/
def runCycle (size : Nat) : Printing Unit := do
  let (s, _) ← get
  print s!"Kernel : {s.kernelName}"
  print s!"Device : {s.device.deviceName}"
  for a in s.args.values do
    bindArgument size a
  let metrics ← inSession Session.invoke
  print ""
  print metrics.text

/-- The simulator that an image is run on. -/
def SimulateOptions.simulator (o : SimulateOptions) (image : Image) : Simulator :=
  ((Simulator.forDevice image.identity.vendor image.identity.device).withKernelTime
    o.kernelTime).withBandwidth o.bandwidth

/-- The report of lines and a failure. -/
def reportLines (lines : List String) (failure : Option SessionError) : Report :=
  { output := String.join (lines.map (· ++ "\n")), failure := failure.map (·.chain) }

/-- Runs one cycle of an image that is read already. -/
def simulateImage (o : SimulateOptions) (config : SessionConfig) (image : Image) : Report :=
  match Session.start image config (o.simulator image) with
  | .error (e, _) => reportLines [] (some e)
  | .ok session =>
    match runCycle o.size (session, []) with
    | .ok _ (_, lines) => reportLines lines none
    | .error e (_, lines) => reportLines lines (some e)

/-- Runs one cycle of an image. -/
def simulate (path : String) (o : SimulateOptions) (config : SessionConfig) : Program :=
  withImage path (simulateImage o config)

/-! ### The command line -/

/-- What a command line asks for. -/
inductive Command where
  | inspect (path : String)
  | placement (tags : List String)
  | pack (path : String) (options : PackOptions)
  | simulate (path : String) (options : SimulateOptions)
  deriving DecidableEq, Repr

namespace Command

/-- Reads the words after `pack`. -/
def ofPackWords (words : List String) : Except UsageError Command := do
  let w ← Words.parse ["device", "kernel", "bank", "target"] words
  let path ← w.single "OUT"
  let d : PackOptions := {}
  let banks := w.values "bank"
  return .pack path {
    device := ← w.value "device" d.device
    kernel := ← w.value "kernel" d.kernel
    banks := if banks.isEmpty then d.banks else banks
    target := ← w.value "target" d.target }

/-- Reads the words after `simulate`. -/
def ofSimulateWords (words : List String) : Except UsageError Command := do
  let w ← Words.parse ["size", "kernel-ns", "bandwidth"] words
  let path ← w.single "PATH"
  let d : SimulateOptions := {}
  return .simulate path {
    size := ← w.number "size" d.size
    kernelTime := ← w.number "kernel-ns" d.kernelTime
    bandwidth := ← w.number "bandwidth" d.bandwidth }

/-- Reads a command line. -/
def ofWords : List String → Except UsageError Command
  | [] => .error .missingCommand
  | "inspect" :: rest => do return .inspect (← (← Words.parse [] rest).single "PATH")
  | "placement" :: rest => do
    let w ← Words.parse [] rest
    if w.positional.isEmpty then throw (.missingWord "TAGS")
    return .placement w.positional
  | "pack" :: rest => ofPackWords rest
  | "simulate" :: rest => ofSimulateWords rest
  | word :: _ => .error (.unknownCommand word)

/-- What a command does, given the emulation that the environment names. -/
def program (environment : Option String) : Command → Program
  | .inspect path => Cli.inspect path
  | .placement tags => Cli.placement tags
  | .pack path options => Cli.pack path options
  | .simulate path options =>
    Cli.simulate path options (SessionConfig.withEnvironment {} environment)

end Command

end FpgaHost.Cli
