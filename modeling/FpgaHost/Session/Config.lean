import FpgaHost.Device.Basic
import FpgaHost.Image.Mode

/-!
# Configuration of sessions

What a session is told beside its image. An emulation that the configuration names wins over the one
the image was made for.
-/

namespace FpgaHost

/-- The configuration of a session. -/
structure SessionConfig where
  /-- The emulation asked for. -/
  emulation : Option Emulation := none
  /-- Whether every buffer is to use host memory in place. -/
  forceHostPointer : Bool := true
  /-- How the command queue works. -/
  queue : QueueProperties := {}
  deriving DecidableEq, Repr

namespace SessionConfig

/-- Takes the emulation from a value of the environment. A value that names none changes nothing. -/
def withEnvironment (c : SessionConfig) (value : Option String) : SessionConfig :=
  match value.bind Emulation.ofEnvironment? with
  | none => c
  | some emulation => { c with emulation := some emulation }

/-- The emulation of a session with an image made for `hint`. -/
def effectiveEmulation (c : SessionConfig) (hint : Option Emulation) : Option Emulation :=
  c.emulation.or hint

end SessionConfig

end FpgaHost
