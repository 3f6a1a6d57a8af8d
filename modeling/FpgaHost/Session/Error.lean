import FpgaHost.Device.Request
import FpgaHost.Image.Error
import FpgaHost.Session.Stage

/-!
# Why a session fails

The causes for which a session cannot be started or an operation of it fails, and their wording.
-/

namespace FpgaHost

/-- Why an operation of a session fails. -/
inductive SessionError where
  /-- The image cannot be read. -/
  | image (cause : ImageError)
  /-- No device of the name on a platform of the vendor can be had. -/
  | deviceNotFound (vendor device : String)
  /-- The image does not build for the device. -/
  | build (device : String) (status : Status)
  /-- A call failed. -/
  | call (method : Method) (status : Status)
  /-- There is no buffer for an argument. -/
  | unknownArgument (index : Nat)
  /-- A stage was submitted out of order. -/
  | outOfOrder (stage : Stage) (state : PipelineState)
  deriving DecidableEq, Repr

namespace SessionError

/-- The wording of a session error. -/
def message : SessionError → String
  | image cause => s!"Container error: {cause.message}"
  | deviceNotFound vendor device => s!"No available device '{device}' on any '{vendor}' platform"
  | build device status => s!"Failed to build program for '{device}': {status.text}"
  | call method status => s!"{method.name} failed: {status.text}"
  | unknownArgument index => s!"No buffer for argument index {index}"
  | outOfOrder stage state =>
    s!"Pipeline in invalid state: {stage.operation} called while {state.name}"

/-- The status that a device answered, if that is what failed. -/
def status? : SessionError → Option Status
  | build _ status => some status
  | call _ status => some status
  | _ => none

/-- The messages of an error and of what caused it, outermost first. -/
def chain : SessionError → List String
  | image cause => message (image cause) :: cause.chain
  | e => [e.message]

end SessionError

end FpgaHost
