import FpgaHost.Proofs.Image.Parsed
import FpgaHost.Proofs.Session.Attempts

/-!
# Which device a session binds

Of all devices that a simulator has, those are offered for an image that are free and carry its
name, on platforms of its vendor (`offers`): platform by platform, and on each device by device. A
session binds the first of them. If that one refuses the image, the session does not begin and no
other is tried; its context is given back. If there is none, nothing has changed.

A platform may list a device only if there is one (`Stocked`), and this is so of every simulator
that is set up platform by platform, whatever is asked of it in between (`Furnished`).

Main statements: `Session.start_eq`, which says in full what a start comes to, and
`Session.binds_first_offer`.
-/

namespace FpgaHost

open Steps Attempt

namespace Simulator

/-! ### Platforms and their devices -/

/-- Every device of a platform is there. -/
def Stocked (s : Simulator) : Prop := ∀ p ∈ s.platforms, ∀ d ∈ p.devices, d.id < s.devices.length

/-- The simulators that come of setting up and of requests, in any order. -/
inductive Furnished : Simulator → Prop
  /-- Nothing is set up. -/
  | blank : Furnished {}
  /-- Another platform. -/
  | withPlatform {s : Simulator} (furnished : Furnished s) (vendor : String)
      (devices : List SimulatedDevice) : Furnished (s.withPlatform vendor devices)
  /-- Kernels run for another time. -/
  | withKernelTime {s : Simulator} (furnished : Furnished s) (time : Nat) :
      Furnished (s.withKernelTime time)
  /-- Bytes move at another speed. -/
  | withBandwidth {s : Simulator} (furnished : Furnished s) (bytes : Nat) :
      Furnished (s.withBandwidth bytes)
  /-- Another host kernel. -/
  | withHostKernel {s : Simulator} (furnished : Furnished s) (name : String) (kernel : HostKernel) :
      Furnished (s.withHostKernel name kernel)
  /-- One more request. -/
  | next {s : Simulator} (furnished : Furnished s) (r : Request) : Furnished (s.next r)

theorem Stocked.withPlatform {s : Simulator} (stocked : s.Stocked) (vendor : String)
    (devices : List SimulatedDevice) : (s.withPlatform vendor devices).Stocked := by
  intro p listed d mem
  rw [Simulator.withPlatform, List.length_append]
  rcases List.mem_append.1 listed with listed | listed
  · exact Nat.lt_of_lt_of_le (stocked p listed d mem) (Nat.le_add_right _ _)
  · obtain rfl := List.mem_singleton.1 listed
    obtain ⟨i, below, rfl⟩ := List.mem_map.1 mem
    exact Nat.add_lt_add_left (List.mem_range.1 below) _

/-- Requests set nothing up. -/
theorem Does.setUp {s t : Simulator} {r : Request} (does : Does s r t) :
    t.platforms = s.platforms ∧ t.devices = s.devices := by
  cases does with
  | stop loud queue advanced => rw [advanced.rest]; exact ⟨rfl, rfl⟩
  | start loud queue advanced lastEnd clock =>
    rw [settled, collectReleased]
    dsimp only
    rw [advanced.rest]
    exact ⟨rfl, rfl⟩
  | _ => exact ⟨rfl, rfl⟩

namespace Furnished

variable {s : Simulator}

theorem reachable (furnished : s.Furnished) : s.Reachable := by
  induction furnished with
  | blank => exact .start ⟨rfl, rfl, rfl, rfl, rfl, rfl, rfl⟩
  | withPlatform furnished vendor devices ih => exact ih.setUp _ _ _ _ _
  | withKernelTime furnished time ih => exact ih.setUp _ _ _ _ _
  | withBandwidth furnished bytes ih => exact ih.setUp _ _ _ _ _
  | withHostKernel furnished name kernel ih => exact ih.setUp _ _ _ _ _
  | next furnished r ih => exact ih.next r

theorem stocked (furnished : s.Furnished) : s.Stocked := by
  induction furnished with
  | blank => exact fun p listed => absurd listed List.not_mem_nil
  | withPlatform furnished vendor devices ih => exact ih.withPlatform vendor devices
  | withKernelTime furnished time ih => exact ih
  | withBandwidth furnished bytes ih => exact ih
  | withHostKernel furnished name kernel ih => exact ih
  | @next s furnished r ih =>
    obtain ⟨platforms, devices⟩ := (does_next s r).setUp
    rw [Stocked, platforms, devices]
    exact ih

end Furnished

/-! ### Offers -/

/-- Whether a device has a name and is not in use elsewhere. -/
def isFree (s : Simulator) (name : String) (device : DeviceId) : Bool :=
  (s.device? device).any fun d => d.name = name && !d.busy

/-- The devices of a platform, if it is of a vendor. -/
def devicesOf (s : Simulator) (vendor : String) (platform : PlatformId) : List DeviceId :=
  match s.platform? platform with
  | none => []
  | some p => if p.name = vendor then p.devices else []

/-- The devices of a platform that are offered for an image. -/
def offersOn (s : Simulator) (identity : DeviceIdentity) (platform : PlatformId) :
    List (PlatformId × DeviceId) :=
  ((s.devicesOf identity.vendor platform).filter (s.isFree identity.device)).map (platform, ·)

/-- The platforms in order. -/
def platformIds (s : Simulator) : List PlatformId :=
  (List.range s.platforms.length).map fun i => ⟨i⟩

/-- The devices that are offered for an image: platform by platform, and on each platform in its
order. -/
def offers (s : Simulator) (identity : DeviceIdentity) : List (PlatformId × DeviceId) :=
  s.platformIds.flatMap (s.offersOn identity)

/-- Whether a device refuses every image. -/
def rejects (s : Simulator) (device : DeviceId) : Bool := (s.device? device).any (·.rejectsBinaries)

theorem mem_platformIds {s : Simulator} {platform : PlatformId} :
    platform ∈ s.platformIds ↔ ∃ p, s.platform? platform = some p := by
  rw [platform?, platformIds, List.mem_map]
  constructor
  · rintro ⟨i, below, rfl⟩
    exact ⟨_, List.getElem?_eq_getElem (List.mem_range.1 below)⟩
  · rintro ⟨p, found⟩
    obtain ⟨below, -⟩ := List.getElem?_eq_some_iff.1 found
    exact ⟨platform.id, List.mem_range.2 below, rfl⟩

/-- What is offered for an image: the devices of its name that are not in use, on the platforms of
its vendor. -/
theorem mem_offers_iff {s : Simulator} {identity : DeviceIdentity} {platform : PlatformId}
    {device : DeviceId} : (platform, device) ∈ s.offers identity ↔
      (∃ p, s.platform? platform = some p ∧ p.name = identity.vendor ∧ device ∈ p.devices) ∧
        ∃ d, s.device? device = some d ∧ d.name = identity.device ∧ d.busy = false := by
  have free : s.isFree identity.device device = true ↔
      ∃ d, s.device? device = some d ∧ d.name = identity.device ∧ d.busy = false := by
    simp [isFree, Option.any_eq_true]
  have listed : device ∈ s.devicesOf identity.vendor platform ↔
      ∃ p, s.platform? platform = some p ∧ p.name = identity.vendor ∧ device ∈ p.devices := by
    rw [devicesOf]
    cases s.platform? platform with
    | none => simp
    | some p => by_cases vendor : p.name = identity.vendor <;> simp [vendor]
  rw [offers, List.mem_flatMap, ← free, ← listed]
  constructor
  · rintro ⟨i, -, offered⟩
    obtain ⟨d, kept, same⟩ := List.mem_map.1 offered
    cases same
    exact List.mem_filter.1 kept
  · rintro ⟨on_platform, is_free⟩
    obtain ⟨p, found, -⟩ := listed.1 on_platform
    exact ⟨platform, mem_platformIds.2 ⟨p, found⟩,
      List.mem_map.2 ⟨device, List.mem_filter.2 ⟨on_platform, is_free⟩, rfl⟩⟩

/-- The device of a simulator that has only one is offered for an image that it is for. -/
theorem offers_of_only {s : Simulator} {identity : DeviceIdentity}
    (platforms : s.platforms = [⟨identity.vendor, [⟨0⟩]⟩])
    (devices : s.devices = [⟨identity.device, false, false⟩]) :
    s.offers identity = [(⟨0⟩, ⟨0⟩)] := by
  have listed : s.devicesOf identity.vendor ⟨0⟩ = [⟨0⟩] := by
    rw [devicesOf, platform?, platforms]
    exact if_pos rfl
  have free : s.isFree identity.device ⟨0⟩ = true := by
    rw [isFree, device?, devices]
    simp
  have ids : s.platformIds = [⟨0⟩] := by
    rw [platformIds, platforms]
    rfl
  rw [offers, ids, List.flatMap_singleton, offersOn, listed,
    List.filter_cons_of_pos free]
  rfl

/-- The state after a device is taken into use. -/
def occupied (s : Simulator) (device : DeviceId) : Simulator :=
  { s with nextId := s.nextId + 1, contexts := s.contexts.insert ⟨s.nextId⟩ device }

/-- The state after a queue is made for a device that was taken. -/
def withQueue (s : Simulator) (properties : QueueProperties) (device : DeviceId) : Simulator :=
  { s.occupied device with
    nextId := s.nextId + 2
    queues := s.queues.insert ⟨s.nextId + 1⟩ { properties } }

/-- The state after a program with some kernels is made behind the queue. -/
def withProgram (s : Simulator) (properties : QueueProperties) (device : DeviceId)
    (kernels : List String) : Simulator :=
  { s.withQueue properties device with
    nextId := s.nextId + 3
    programs := s.programs.insert ⟨s.nextId + 2⟩ kernels }

/-- The state after a queue is made for a device that is then given back, since the image does not
build on it. The queue and a program without kernels are left. -/
def declined (s : Simulator) (properties : QueueProperties) : Simulator :=
  { s with
    nextId := s.nextId + 3
    queues := s.queues.insert ⟨s.nextId + 1⟩ { properties }
    programs := s.programs.insert ⟨s.nextId + 2⟩ [] }

/-- The state after a device is bound. -/
def equipped (s : Simulator) (properties : QueueProperties) (image : Image) (device : DeviceId) :
    Simulator :=
  { s with
    nextId := s.nextId + 4
    contexts := s.contexts.insert ⟨s.nextId⟩ device
    queues := s.queues.insert ⟨s.nextId + 1⟩ { properties }
    programs := s.programs.insert ⟨s.nextId + 2⟩ (image.kernels.map (·.name))
    kernels := s.kernels.insert ⟨s.nextId + 3⟩ { name := image.kernelName } }

end Simulator

/-- The kernel of a session is one of the image. -/
theorem Image.contains_kernelName {image : Image} (some : image.kernels ≠ []) :
    (image.kernels.map (·.name)).contains image.kernelName = true := by
  rw [kernelName]
  cases kernels : image.kernels with
  | nil => exact absurd kernels some
  | cons k rest => simp

namespace BoundDevice

open Simulator

variable {s : Simulator}

/-- Of some devices the first one is taken that is free and has the name. -/
theorem takeDevice_eq (name : String) {devices : List DeviceId}
    (there : ∀ d ∈ devices, d.id < s.devices.length) :
    takeDevice name devices s = match devices.find? (s.isFree name) with
      | none => .ok none s
      | some device => .ok (some (device, ⟨s.nextId⟩)) (s.occupied device) := by
  induction devices with
  | nil => rfl
  | cons device rest ih =>
    have others := ih fun d mem => there d (List.mem_cons_of_mem device mem)
    obtain ⟨d, found⟩ : ∃ d, s.device? device = some d :=
      ⟨_, List.getElem?_eq_getElem (there device List.mem_cons_self)⟩
    have told : ask (.deviceName device) s = .ok d.name s := by
      simp only [ask_apply, ComputeApi.call, requireDevice_bind, found, pure_apply]
    have free : s.isFree name device = (decide (d.name = name) && !d.busy) := by
      rw [isFree, found, Option.any_some]
    rw [takeDevice, bind_of_ok told, List.find?_cons, free]
    by_cases named : d.name = name
    · have made : tryCall (.createContext device) s =
          if d.busy then .ok (.error .deviceNotAvailable) s
          else .ok (.ok ⟨s.nextId⟩) (s.occupied device) := by
        simp only [tryCall_apply, ComputeApi.call, createContext_eq, found]
        cases d.busy <;> rfl
      rw [if_neg (not_not_intro named), bind_apply, made]
      cases busy : d.busy with
      | true => simpa [named] using others
      | false => simp [named, pure_apply]
    · rw [if_pos named]
      simpa [named] using others

/-- The device of a platform that is offered first. -/
theorem takeOnPlatform_eq (identity : DeviceIdentity) {platform : PlatformId} {p : Platform}
    (found : s.platform? platform = some p) (there : ∀ d ∈ p.devices, d.id < s.devices.length) :
    takeOnPlatform identity platform s =
      match (s.devicesOf identity.vendor platform).find? (s.isFree identity.device) with
      | none => .ok none s
      | some device => .ok (some (device, ⟨s.nextId⟩)) (s.occupied device) := by
  have told : ask (.platformName platform) s = .ok p.name s := by
    simp only [ask_apply, ComputeApi.call, requirePlatform_bind, found, pure_apply]
  rw [takeOnPlatform, bind_of_ok told, devicesOf, found]
  by_cases vendor : p.name = identity.vendor
  · have listed : tryCall (.acceleratorDevices platform) s =
        if p.devices.isEmpty then .ok (.error .deviceNotFound) s else .ok (.ok p.devices) s := by
      simp only [tryCall_apply, ComputeApi.call, acceleratorDevices_eq, found]
      cases p.devices.isEmpty <;> rfl
    rw [if_neg (not_not_intro vendor), bind_apply, listed]
    simp only [vendor, if_true]
    cases devices : p.devices with
    | nil => rfl
    | cons d rest =>
      rw [devices] at there
      exact takeDevice_eq identity.device there
  · rw [if_pos vendor]
    simp only [vendor, if_false]
    rfl

/-- Of some platforms the first one is taken that has a device to offer, and on it the first
device. -/
theorem takeAmong_eq (identity : DeviceIdentity) (stocked : s.Stocked) {platforms : List PlatformId}
    (there : ∀ platform ∈ platforms, ∃ p, s.platform? platform = some p) :
    takeAmong identity platforms s =
      match (platforms.flatMap (s.offersOn identity)).head? with
      | none => .error (.deviceNotFound identity.vendor identity.device) s
      | some (platform, device) => .ok (platform, device, ⟨s.nextId⟩) (s.occupied device) := by
  induction platforms with
  | nil => rfl
  | cons platform rest ih =>
    have others := ih fun i mem => there i (List.mem_cons_of_mem platform mem)
    obtain ⟨p, found⟩ := there platform List.mem_cons_self
    have first := takeOnPlatform_eq identity found (stocked p (List.mem_of_getElem? found))
    have here : (s.offersOn identity platform).head? =
        ((s.devicesOf identity.vendor platform).find? (s.isFree identity.device)).map
          (platform, ·) := by
      rw [offersOn, List.head?_map, List.head?_filter]
    rw [takeAmong, bind_apply, first, List.flatMap_cons, List.head?_append, here]
    cases (s.devicesOf identity.vendor platform).find? (s.isFree identity.device) with
    | none => exact others
    | some device => rfl

/-- The first offer is taken. -/
theorem take_eq (identity : DeviceIdentity) (stocked : s.Stocked) :
    take identity s = match (s.offers identity).head? with
      | none => .error (.deviceNotFound identity.vendor identity.device) s
      | some (platform, device) => .ok (platform, device, ⟨s.nextId⟩) (s.occupied device) := by
  have listed : ask .platforms s = .ok s.platformIds s := rfl
  rw [take, bind_of_ok listed]
  exact takeAmong_eq identity stocked fun platform => mem_platformIds.1

/-! ### The kernel -/

variable {image : Image} {device : DeviceId} {d : SimulatedDevice} (properties : QueueProperties)

/-- A device that was taken has its context, so a queue is made on it. -/
theorem createQueue_occupied : ask (.createQueue ⟨s.nextId⟩ device properties) (s.occupied device) =
    .ok ⟨s.nextId + 1⟩ (s.withQueue properties device) := by
  simp only [ask_apply, ComputeApi.call, createQueue_eq, occupied, Table.get?_insert_self,
    bne_self_eq_false, Bool.false_eq_true, if_false]
  rfl

/-- The image builds unless the device refuses it; there is a program in either case. -/
theorem buildProgram_withQueue (well : image.WellFormed) (found : s.device? device = some d)
    (named : d.name = image.identity.device) :
    ask (.buildProgram ⟨s.nextId⟩ [device] image.bytes) (s.withQueue properties device) =
      if d.rejectsBinaries then
        .ok ⟨⟨s.nextId + 2⟩, [.invalidBinary]⟩ (s.withProgram properties device [])
      else .ok ⟨⟨s.nextId + 2⟩, [.success]⟩
        (s.withProgram properties device (image.kernels.map (·.name))) := by
  have taken : (s.withQueue properties device).contexts.contains ⟨s.nextId⟩ = true :=
    Table.contains_insert.2 (.inl rfl)
  have here : (s.withQueue properties device).device? device = some d := found
  have status : (s.withQueue properties device).buildStatus (.ok image) device =
      if d.rejectsBinaries then .invalidBinary else .success := by
    simp [buildStatus, here, named]
  simp only [ask_apply, ComputeApi.call, buildProgram_eq, well.again, taken, List.map_cons,
    List.map_nil, status, Bool.not_true, Bool.false_eq_true, if_false]
  cases d.rejectsBinaries <;> rfl

/-- The kernel of a session is made from a program with the kernels of the image. -/
theorem createKernel_withProgram (well : image.WellFormed) :
    ask (.createKernel ⟨s.nextId + 2⟩ image.kernelName)
        (s.withProgram properties device (image.kernels.map (·.name))) =
      .ok ⟨s.nextId + 3⟩ (s.equipped properties image device) := by
  have names : (s.withProgram properties device (image.kernels.map (·.name))).programs.get?
      ⟨s.nextId + 2⟩ = some (image.kernels.map (·.name)) := Table.get?_insert_self _ _ _
  simp only [ask_apply, ComputeApi.call, createKernel_eq, names,
    Image.contains_kernelName well.kernels, Bool.not_true, Bool.false_eq_true, if_false]
  rfl

/-- The image is built on the device that was taken, and its kernel made, unless the device refuses
it. -/
theorem instantiate_occupied (well : image.WellFormed) (found : s.device? device = some d)
    (named : d.name = image.identity.device) :
    instantiate properties ⟨s.nextId⟩ device image.identity.device image.bytes image.kernelName
        (s.occupied device) =
      if d.rejectsBinaries then
        .error (.build image.identity.device .invalidBinary)
          { s.declined properties with contexts := s.contexts.insert ⟨s.nextId⟩ device }
      else .ok (⟨s.nextId + 1⟩, ⟨s.nextId + 2⟩, ⟨s.nextId + 3⟩)
        (s.equipped properties image device) := by
  have build := buildProgram_withQueue properties well found named
  rw [instantiate, bind_of_ok (createQueue_occupied properties)]
  cases refuses : d.rejectsBinaries with
  | true =>
    rw [refuses, if_pos rfl] at build
    rw [bind_of_ok build]
    rfl
  | false =>
    rw [refuses, if_neg Bool.false_ne_true] at build
    have accepted : requireBuilt image.identity.device ⟨⟨s.nextId + 2⟩, [.success]⟩
      (s.withProgram properties device (image.kernels.map (·.name))) =
        .ok () (s.withProgram properties device (image.kernels.map (·.name))) := rfl
    rw [bind_of_ok build, bind_of_ok accepted,
      bind_of_ok (createKernel_withProgram properties well)]
    rfl

/-- What binding a device comes to. -/
theorem resolve_eq (emulation : Option Emulation) (stocked : s.Stocked) (numbered : s.Numbered)
    (well : image.WellFormed) :
    resolve properties emulation image.identity image.bytes image.kernelName s =
      match (s.offers image.identity).head? with
      | none => .error (.deviceNotFound image.identity.vendor image.identity.device) s
      | some (platform, device) =>
        if s.rejects device then
          .error (.build image.identity.device .invalidBinary) (s.declined properties)
        else .ok ⟨platform, device, image.identity.device, ⟨s.nextId⟩, ⟨s.nextId + 1⟩,
            ⟨s.nextId + 2⟩, ⟨s.nextId + 3⟩, emulation⟩ (s.equipped properties image device) := by
  rw [resolve, bind_apply, take_eq image.identity stocked]
  cases first : (s.offers image.identity).head? with
  | none => rfl
  | some offer =>
    obtain ⟨platform, device⟩ := offer
    obtain ⟨-, d, found, named, -⟩ := mem_offers_iff.1 (List.mem_of_head? first)
    have fresh := numbered.contexts.absent
    have rejects : s.rejects device = d.rejectsBinaries := by
      rw [Simulator.rejects, found, Option.any_some]
    dsimp only
    rw [bind_apply, tryCatch_apply, instantiate_occupied properties well found named, rejects]
    cases refuses : d.rejectsBinaries with
    | false => rfl
    | true =>
      have there : (s.contexts.insert ⟨s.nextId⟩ device).contains ⟨s.nextId⟩ = true :=
        Table.contains_insert.2 (.inl rfl)
      have given : giveBack ⟨s.nextId⟩
          { s.declined properties with contexts := s.contexts.insert ⟨s.nextId⟩ device } =
            .ok () (s.declined properties) := by
        simp only [giveBack, discard_apply, tryCall_apply, ComputeApi.call, releaseContext_eq,
          there, Bool.not_true, Bool.false_eq_true, if_false, Table.erase_insert_self fresh device]
        rfl
      simp only [if_true]
      rw [bind_of_ok given]
      rfl

end BoundDevice

namespace Session

open Simulator

/-- The session on a device that was bound. -/
def bound (image : Image) (config : SessionConfig) (s : Simulator) (platform : PlatformId)
    (device : DeviceId) : Session Simulator where
  backend := s.equipped config.queue image device
  config
  device := ⟨platform, device, image.identity.device, ⟨s.nextId⟩, ⟨s.nextId + 1⟩, ⟨s.nextId + 2⟩,
    ⟨s.nextId + 3⟩, config.effectiveEmulation image.emulation⟩
  kernelName := image.kernelName
  args := image.args
  buffers := { forceHostPointer := config.forceHostPointer }

/-- What the start of a session comes to. -/
theorem start_eq {image : Image} (config : SessionConfig) {s : Simulator} (stocked : s.Stocked)
    (numbered : s.Numbered) (well : image.WellFormed) :
    start image config s = match (s.offers image.identity).head? with
      | none => .error (.deviceNotFound image.identity.vendor image.identity.device, s)
      | some (platform, device) =>
        if s.rejects device then
          .error (.build image.identity.device .invalidBinary, s.declined config.queue)
        else .ok (bound image config s platform device) := by
  rw [start, BoundDevice.resolve_eq config.queue _ stocked numbered well]
  cases (s.offers image.identity).head? with
  | none => rfl
  | some offer =>
    dsimp only
    cases s.rejects offer.2 <;> rfl

/-- The device of a session. A session begins on the first device that is offered for its image, on
a context of its own. If that device refuses the image the session does not begin, whatever other
devices there are, and no context is left behind. If no device is offered nothing has happened at
all. There is no other way in which the start of a session with an image that can be read fails. -/
theorem binds_first_offer {s : Simulator} (furnished : s.Furnished) {data : Bytes} {image : Image}
    (read : Image.ofBytes data = .ok image) (config : SessionConfig) :
    match (s.offers image.identity).head? with
    | none => startBytes data config s =
        .error (.deviceNotFound image.identity.vendor image.identity.device, s)
    | some (platform, device) =>
      if s.rejects device then
        ∃ t, startBytes data config s =
            .error (.build image.identity.device .invalidBinary, t) ∧ t.contexts = s.contexts
      else
        ∃ session, startBytes data config s = .ok session ∧
          session.device.platform = platform ∧ session.device.device = device ∧
          session.backend.contexts.get? session.device.context = some device ∧
          session.backend.contextCount = s.contextCount + 1 := by
  obtain ⟨-, well⟩ := Image.wellFormed_of_ofBytes read
  have numbered := furnished.reachable.numbered
  have started : startBytes data config s = start image config s := by
    rw [startBytes, read, startRead]
  rw [started, start_eq config furnished.stocked numbered well]
  cases (s.offers image.identity).head? with
  | none => rfl
  | some offer =>
    obtain ⟨platform, device⟩ := offer
    dsimp only
    cases s.rejects device with
    | true => exact ⟨_, rfl, rfl⟩
    | false =>
      exact ⟨_, rfl, rfl, rfl, Table.get?_insert_self _ _ _,
        Table.size_insert numbered.contexts.absent device⟩

/-- A simulator in use, with devices of one name in several places. Of those of the right vendor the
first is in use and the second may refuse images. -/
def crowded (rejectsBinaries : Bool) : Simulator :=
  let s := (({} : Simulator).withPlatform "Intel" [⟨"u280", false, false⟩]).withPlatform "Xilinx" []
  let s := s.withPlatform "Xilinx" [⟨"u50", false, false⟩, ⟨"u280", true, false⟩]
  (s.withPlatform "Xilinx" [⟨"u280", false, rejectsBinaries⟩, ⟨"u280", false, false⟩]).next
    (.createContext ⟨0⟩)

theorem furnished_crowded (rejectsBinaries : Bool) : (crowded rejectsBinaries).Furnished :=
  .next (.withPlatform (.withPlatform (.withPlatform (.withPlatform .blank _ _) _ _) _ _) _ _) _

/-- The second device is bound, or the session does not begin though the third would do. -/
theorem binds_first_offer_crowded :
    let image := ImageSpec.twoBanks.assembled .hardwareEmulation ImageSpec.twoBanks.manifest
    Image.ofBytes ImageSpec.twoBanks.build = .ok image ∧
    (∃ session, startBytes ImageSpec.twoBanks.build {} (crowded false) = .ok session ∧
      session.device.platform = ⟨3⟩ ∧ session.device.device = ⟨3⟩ ∧
      session.backend.contextCount = 2) ∧
    ∃ t, startBytes ImageSpec.twoBanks.build {} (crowded true) =
      .error (.build "u280" .invalidBinary, t) ∧ t.contextCount = 1 := by
  intro image
  have read : Image.ofBytes ImageSpec.twoBanks.build = .ok image :=
    Image.ofBytes_eq_ok_iff.2 ImageSpec.read_twoBanks
  have offered (rejectsBinaries : Bool) :
      ((crowded rejectsBinaries).offers image.identity).head? = some (⟨3⟩, ⟨3⟩) := by
    cases rejectsBinaries <;> decide
  have accepted := binds_first_offer (furnished_crowded false) read {}
  have refused := binds_first_offer (furnished_crowded true) read {}
  rw [offered] at accepted refused
  obtain ⟨session, started, platform, device, -, count⟩ := accepted
  obtain ⟨t, failed, contexts⟩ := refused
  exact ⟨read, ⟨session, started, platform, device, count⟩, t, failed,
    congrArg Table.size contexts⟩

end Session

end FpgaHost
