import FpgaHost.Text.Blank

/-!
# Configuration modes and emulation

An image is for a device or for an emulator of one. Its header carries a mode, its manifest a
target, and the environment may name an emulation: this module has the three vocabularies and the
rule that settles them, target before mode.
-/

namespace FpgaHost

/-- The mode in the header of an image. -/
inductive ImageMode where
  | flat
  | partialReconfig
  | tandemStage2
  | tandemStage2WithPr
  | hardwareEmulation
  | softwareEmulation
  deriving DecidableEq, Repr

/-- Which emulator stands for the device. -/
inductive Emulation where
  /-- The hardware design is simulated. -/
  | hardware
  /-- The kernel runs as software. -/
  | software
  deriving DecidableEq, Repr

namespace ImageMode

/-- The mode of a code, if the code has one. -/
def ofCode? (code : UInt16) : Option ImageMode :=
  if code = 0 then some .flat
  else if code = 1 then some .partialReconfig
  else if code = 2 then some .tandemStage2
  else if code = 3 then some .tandemStage2WithPr
  else if code = 4 then some .hardwareEmulation
  else if code = 5 then some .softwareEmulation
  else none

/-- The code of a mode. -/
def code : ImageMode → UInt16
  | .flat => 0
  | .partialReconfig => 1
  | .tandemStage2 => 2
  | .tandemStage2WithPr => 3
  | .hardwareEmulation => 4
  | .softwareEmulation => 5

/-- The name of a mode. -/
def name : ImageMode → String
  | .flat => "flat"
  | .partialReconfig => "partial-reconfig"
  | .tandemStage2 => "tandem-stage2"
  | .tandemStage2WithPr => "tandem-stage2-with-pr"
  | .hardwareEmulation => "hw-emu"
  | .softwareEmulation => "sw-emu"

/-- The emulation that a mode asks for. -/
def emulation : ImageMode → Option Emulation
  | .hardwareEmulation => some .hardware
  | .softwareEmulation => some .software
  | _ => none

/-- Whether a mode asks for an emulation. -/
def isEmulation (m : ImageMode) : Bool := m.emulation.isSome

/-- A mode is read back from its code. -/
@[simp] theorem ofCode?_code (m : ImageMode) : ofCode? m.code = some m := by
  cases m <;> rfl

end ImageMode

namespace Emulation

/-- The environment variable that names an emulation. -/
def environmentVariable : String := "XCL_EMULATION_MODE"

/-- The name of an emulation in the environment. -/
def name : Emulation → String
  | .hardware => "hw_emu"
  | .software => "sw_emu"

/-- The emulation that a value of the environment names, white space around it aside. -/
def ofEnvironment? (value : String) : Option Emulation :=
  let name := Text.trim value
  if name = "hw_emu" then some .hardware
  else if name = "sw_emu" then some .software
  else none

/-- The emulation that a target asks for. -/
def ofTarget? (target : String) : Option Emulation :=
  if target = "hw_em" then some .hardware
  else if target = "csim" then some .software
  else none

/-- The emulation of an image: what its target asks for, else what its mode asks for. -/
def resolve (mode : ImageMode) (target : Option String) : Option Emulation :=
  (target.bind ofTarget?).or mode.emulation

/-- A target that asks for an emulation wins, whatever the mode is; otherwise the mode decides, and
only two modes ask for one. -/
theorem resolve_eq_some_iff (mode : ImageMode) (target : Option String) (e : Emulation) :
    resolve mode target = some e ↔
      target = some "hw_em" ∧ e = .hardware ∨ target = some "csim" ∧ e = .software ∨
        target ≠ some "hw_em" ∧ target ≠ some "csim" ∧
          (mode = .hardwareEmulation ∧ e = .hardware ∨
            mode = .softwareEmulation ∧ e = .software) := by
  have by_mode : mode.emulation = some e ↔ mode = .hardwareEmulation ∧ e = .hardware ∨
      mode = .softwareEmulation ∧ e = .software := by
    cases mode <;> cases e <;> decide
  cases target with
  | none => simpa [resolve] using by_mode
  | some t =>
    by_cases hardware : t = "hw_em"
    · simp [resolve, ofTarget?, hardware, eq_comm]
    · by_cases software : t = "csim"
      · simp [resolve, ofTarget?, software, eq_comm]
      · simpa [resolve, ofTarget?, hardware, software] using by_mode

end Emulation

end FpgaHost
