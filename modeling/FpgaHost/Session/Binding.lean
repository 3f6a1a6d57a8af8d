import FpgaHost.Image.Basic
import FpgaHost.Session.Attempt

/-!
# Binding a device

A session runs on the first device of the right name, on a platform of the right vendor, that can be
taken into use. Devices that are in use elsewhere are passed over, and so are platforms without
devices; any other failure ends the search. On the device found the image is built and its kernel
made; if that fails the device is given back.
-/

namespace FpgaHost

/-- A device that is bound to a session. -/
structure BoundDevice where
  /-- Its platform. -/
  platform : PlatformId
  /-- The device. -/
  device : DeviceId
  /-- Its name. -/
  deviceName : String
  /-- The context on it. -/
  context : ContextHandle
  /-- The command queue. -/
  queue : QueueHandle
  /-- The program built from the image. -/
  program : ProgramHandle
  /-- The kernel. -/
  kernel : KernelHandle
  /-- The emulation it is bound under. -/
  emulation : Option Emulation
  deriving DecidableEq, Repr

namespace BoundDevice

open Attempt

variable {σ : Type} [ComputeApi σ]

/-! ### The search -/

/-- Takes the first device of a name that is not in use. -/
def takeDevice (name : String) : List DeviceId → Attempt σ (Option (DeviceId × ContextHandle))
  | [] => return none
  | device :: rest => do
    if (← ask (.deviceName device)) ≠ name then takeDevice name rest
    else
      match ← tryCall (.createContext device) with
      | .ok context => return some (device, context)
      | .error status =>
        if status = .deviceNotAvailable then takeDevice name rest
        else throw (.call .createContext status)

/-- Takes a device of a platform, if its vendor is the right one. -/
def takeOnPlatform (identity : DeviceIdentity) (platform : PlatformId) :
    Attempt σ (Option (DeviceId × ContextHandle)) := do
  if (← ask (.platformName platform)) ≠ identity.vendor then return none
  match ← tryCall (.acceleratorDevices platform) with
  | .ok devices => takeDevice identity.device devices
  | .error status =>
    if status = .deviceNotFound then return none
    else throw (.call .acceleratorDevices status)

/-- Takes a device of the first platform that has one to offer. -/
def takeAmong (identity : DeviceIdentity) :
    List PlatformId → Attempt σ (PlatformId × DeviceId × ContextHandle)
  | [] => throw (.deviceNotFound identity.vendor identity.device)
  | platform :: rest => do
    match ← takeOnPlatform identity platform with
    | some (device, context) => return (platform, device, context)
    | none => takeAmong identity rest

/-- Takes a device that an image is for. -/
def take (identity : DeviceIdentity) : Attempt σ (PlatformId × DeviceId × ContextHandle) := do
  takeAmong identity (← ask .platforms)

/-! ### The kernel -/

/-- Refuses a build that failed on a device. -/
def requireBuilt (deviceName : String) (build : ProgramBuild) : Attempt σ Unit :=
  match build.deviceStatus.find? (!·.isSuccess) with
  | some status => throw (.build deviceName status)
  | none => return

/-- Makes a queue, builds the image and makes its kernel. -/
def instantiate (properties : QueueProperties) (context : ContextHandle) (device : DeviceId)
    (deviceName : String) (image : Bytes) (kernelName : String) :
    Attempt σ (QueueHandle × ProgramHandle × KernelHandle) := do
  let queue ← ask (.createQueue context device properties)
  let build ← ask (.buildProgram context [device] image)
  requireBuilt deviceName build
  let kernel ← ask (.createKernel build.program kernelName)
  return (queue, build.program, kernel)

/-- Gives a device back, whether that succeeds or not. -/
def giveBack (context : ContextHandle) : Attempt σ Unit := discard (tryCall (.releaseContext context))

/-- Binds a device that an image is for, with the kernel of a name. -/
def resolve (properties : QueueProperties) (emulation : Option Emulation)
    (identity : DeviceIdentity) (image : Bytes) (kernelName : String) : Attempt σ BoundDevice := do
  let (platform, device, context) ← take identity
  let deviceName := identity.device
  let (queue, program, kernel) ←
    tryCatch (instantiate properties context device deviceName image kernelName) fun e => do
      giveBack context
      throw e
  return { platform, device, deviceName, context, queue, program, kernel, emulation }

end BoundDevice

end FpgaHost
