import FpgaHost.Proofs.Session.Binding

/-!
# Sessions that begin

A session with an image begins on a simulator that has the device of the image to offer
(`start_host`), and so it does with every image that was assembled from a specification with a
kernel (`start_assembled`). The session is known in full (`begun`), so that what is done with it can
be followed by evaluation.
-/

namespace FpgaHost

open Steps Attempt

namespace Image

/-- A simulator with one device, the one an image is for. -/
def host (image : Image) (hostKernels : List (String × HostKernel)) : Simulator :=
  { Simulator.forDevice image.identity.vendor image.identity.device with hostKernels }

/-- The simulator after the device is taken into use. -/
def taken (image : Image) (hostKernels : List (String × HostKernel)) : Simulator :=
  { image.host hostKernels with nextId := 2, contexts := Table.empty.insert ⟨1⟩ ⟨0⟩ }

/-- The simulator after a queue is made. -/
def queued (image : Image) (hostKernels : List (String × HostKernel))
    (properties : QueueProperties) : Simulator :=
  { image.taken hostKernels with
    nextId := 3, queues := Table.empty.insert ⟨2⟩ { properties } }

/-- The simulator after the image is built. -/
def built (image : Image) (hostKernels : List (String × HostKernel))
    (properties : QueueProperties) : Simulator :=
  { image.queued hostKernels properties with
    nextId := 4, programs := Table.empty.insert ⟨3⟩ (image.kernels.map (·.name)) }

/-- The simulator after the kernel is made. -/
def bound (image : Image) (hostKernels : List (String × HostKernel))
    (properties : QueueProperties) : Simulator :=
  { image.built hostKernels properties with
    nextId := 5, kernels := Table.empty.insert ⟨4⟩ { name := image.kernelName } }

end Image

namespace Session

/-- The session that begins with an image on its own device. -/
def begun (image : Image) (hostKernels : List (String × HostKernel)) (config : SessionConfig) :
    Session Simulator where
  backend := image.bound hostKernels config.queue
  config
  device := ⟨⟨0⟩, ⟨0⟩, image.identity.device, ⟨1⟩, ⟨2⟩, ⟨3⟩, ⟨4⟩,
    config.effectiveEmulation image.emulation⟩
  kernelName := image.kernelName
  args := image.args
  buffers := { forceHostPointer := config.forceHostPointer }

/-- A session begins with every image that was read, on the device that the image is for. -/
theorem start_host {image : Image} (hostKernels : List (String × HostKernel))
    (config : SessionConfig) (well : image.WellFormed) :
    start image config (image.host hostKernels) = .ok (begun image hostKernels config) := by
  have stocked : (image.host hostKernels).Stocked :=
    (Simulator.Furnished.withPlatform .blank image.identity.vendor
      [⟨image.identity.device, false, false⟩]).stocked
  have unused : (image.host hostKernels).Unused := ⟨rfl, rfl, rfl, rfl, rfl, rfl, rfl⟩
  have offered : ((image.host hostKernels).offers image.identity).head? = some (⟨0⟩, ⟨0⟩) := by
    rw [Simulator.offers_of_only rfl rfl, List.head?_cons]
  have accepts : (image.host hostKernels).rejects ⟨0⟩ = false := rfl
  rw [start_eq config stocked unused.numbered well, offered]
  dsimp only
  rw [accepts]
  rfl

end Session

/-! ### Assembled images -/

/-- A session begins with an image that was assembled, on the device that the image is for. -/
theorem Session.start_assembled {s : ImageSpec} {mode : ImageMode} (fits : s.Fits)
    (known : ImageMode.ofCode? s.mode = some mode) (present : s.withManifest = true)
    (generated : s.manifestText = none) (legible : s.Legible) (some : s.kernels ≠ [])
    (hostKernels : List (String × HostKernel)) (config : SessionConfig) :
    start (s.assembled mode s.manifest) config ((s.assembled mode s.manifest).host hostKernels) =
      .ok (begun (s.assembled mode s.manifest) hostKernels config) := by
  have read : Image.read s.build = .ok (s.assembled mode s.manifest) :=
    ImageSpec.readWith_generated_build Xml.faithful_parse? fits known present generated legible some
  exact start_host hostKernels config
    (Image.wellFormed_of_ofBytes (Image.ofBytes_eq_ok_iff.2 read)).2

namespace Session

/-- An image with one kernel and one argument. -/
def oneArgument : Image :=
  ImageSpec.twoBanks.assembled .hardwareEmulation ImageSpec.twoBanks.manifest

theorem start_oneArgument (hostKernels : List (String × HostKernel)) :
    start oneArgument {} (oneArgument.host hostKernels) =
      .ok (begun oneArgument hostKernels {}) :=
  start_assembled ImageSpec.fits_twoBanks rfl rfl rfl ImageSpec.legible_twoBanks (by decide)
    hostKernels {}

end Session

end FpgaHost
