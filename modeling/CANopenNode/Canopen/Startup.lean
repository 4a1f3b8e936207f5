/-
  Canopen/Startup.lean --- the start of the first revision of canopen.cpp, and the
  serial number across communication resets and power cycles.

  Source: src/unnamed/part_000, `Canopen::od_set_defaults` (lines 1295-1351),
  `Canopen::od_load_start` (1361-1398), `Canopen::init` (1553-1590) and the
  `CO_RESET_COMM` branch of `Canopen::process` (1611-1648).

  `init` runs at power on and again on every communication reset.  The model keeps
  what it does to the modelled node: `od_set_defaults` sets the identity's serial
  number and the default of 0x5000 sub 2 to the processor UID; `od_load_start`
  copies the stored SERIAL record into `OD_serialNumber` when its load succeeds
  (a failed load leaves the variables as they were) and then derives the
  identity's serial number; the first `init` since power on that
  starts the stack saves the RUNTIME group.  A power cycle puts RAM back to the
  firmware image and keeps the storage.  The other groups' loads, the LSS node-ID
  assignment and the start of the stack write variables the model does not follow;
  what storage and stack answer is the event's outcome.

  Over every run of SDO writes, communication resets and power cycles, 0x1018
  shows the serial of 0x5000 whenever 0x5000 says it is valid, provided the
  firmware image holds `valid = false` and every communication reset loads the
  SERIAL record (`identity_shows_serial`).  While every SERIAL load succeeds, a
  stored record with `valid` set never changes (`stored_serial_write_once`); a
  power cycle whose SERIAL load fails lets the next commit overwrite it
  (`failed_load_reopens_serial`).
-/
import CANopenNode.Canopen.Part000

set_option autoImplicit false

namespace CANopenNode.Canopen.Part000

open CANopenNode.Canopen CO_SDO_abortCode_t

/-! ## `od_set_defaults` and `od_load_start` -/

/-- `Canopen::od_set_defaults`, on the modelled variables: the identity's serial
number is the processor UID (`system_get_uid32`), and so is the default serial of
0x5000 sub 2. -/
def od_set_defaults (n : Node) (uid : Nat) : Node :=
  let n := { n with OD_identity.serialNumber := uid }
  { n with OD_serialNumber.serial := n.OD_identity.serialNumber }

/-- `Canopen::od_load_start`, on the modelled variables: a successful
`storage.load(SERIAL)` copies the stored record into `OD_serialNumber`; then, with
`valid` set, the identity takes the serial modulo 10^8. -/
def od_load_start (n : Node) (loadOk : storage_type_t → Bool) : Node :=
  if loadOk .SERIAL then
    let n := { n with OD_serialNumber := n.storage.SERIAL }
    if n.OD_serialNumber.valid = true then
      { n with OD_identity.serialNumber := n.OD_serialNumber.serial % 100000000 }
    else n
  else n

@[simp] theorem od_set_defaults_OD_serialNumber (n : Node) (uid : Nat) :
    (od_set_defaults n uid).OD_serialNumber = { n.OD_serialNumber with serial := uid } := rfl

@[simp] theorem od_set_defaults_OD_identity (n : Node) (uid : Nat) :
    (od_set_defaults n uid).OD_identity.serialNumber = uid := rfl

@[simp] theorem od_set_defaults_storage (n : Node) (uid : Nat) :
    (od_set_defaults n uid).storage = n.storage := rfl

@[simp] theorem od_load_start_storage (n : Node) (loadOk : storage_type_t → Bool) :
    (od_load_start n loadOk).storage = n.storage := by
  unfold od_load_start; dsimp only; split_ifs <;> rfl

/-- A successful load of SERIAL puts the stored record in RAM and derives the
identity's serial number from it when `valid` is set. -/
theorem od_load_start_loaded (n : Node) (loadOk : storage_type_t → Bool)
    (h : loadOk .SERIAL = true) :
    (od_load_start n loadOk).OD_serialNumber = n.storage.SERIAL ∧
    (od_load_start n loadOk).OD_identity.serialNumber =
      if n.storage.SERIAL.valid then n.storage.SERIAL.serial % 100000000
      else n.OD_identity.serialNumber := by
  unfold od_load_start
  cases hv : n.storage.SERIAL.valid <;> simp [h, hv]

theorem od_load_start_failed (n : Node) (loadOk : storage_type_t → Bool)
    (h : loadOk .SERIAL = false) : od_load_start n loadOk = n := by
  simp [od_load_start, h]

/-! ## `init` and the device -/

/-- What the storage and the stack answer during one run of `Canopen::init`. -/
structure InitOutcome where
  /-- what `storage.load(type)` returns, `true` for `CO_ERROR_NO` -/
  loadOk : storage_type_t → Bool
  /-- whether `co_init` and `co_start` return `CO_ERROR_NO` -/
  started : Bool
  /-- what `storage.save(type)` returns -/
  saveOk : storage_type_t → Bool

/-- The device: the node and the `once` flag of the `Canopen` object. -/
structure Device where
  node : Node
  /-- an `init` since power on has started the stack -/
  once : Bool

/-- `Canopen::init`, on the modelled state: `od_set_defaults`, `od_load_start`,
and, when the stack starts and `once` is still false, `storage.save(RUNTIME)`. -/
def Device.init (d : Device) (uid : Nat) (o : InitOutcome) : Device :=
  let n := od_load_start (od_set_defaults d.node uid) o.loadOk
  if o.started && !d.once then ⟨(n.save o.saveOk .RUNTIME).2, true⟩ else ⟨n, d.once⟩

/-- What happens to the device. -/
inductive DeviceEvent
  /-- the SDO server serves a write -/
  | sdo (w : SdoWrite)
  /-- `CO_RESET_COMM` in `Canopen::process`: `deinit`, then `init` -/
  | resetComm (o : InitOutcome)
  /-- power on: RAM holds the firmware image and `once` is false, then `init` -/
  | powerOn (o : InitOutcome)

/-- `init` keeps the stored SERIAL record and leaves the serial fields and the
identity as `od_load_start` sets them. -/
theorem Device.init_serial (d : Device) (uid : Nat) (o : InitOutcome) :
    (d.init uid o).node.storage.SERIAL = d.node.storage.SERIAL ∧
    (d.init uid o).node.OD_serialNumber =
      (od_load_start (od_set_defaults d.node uid) o.loadOk).OD_serialNumber ∧
    (d.init uid o).node.OD_identity =
      (od_load_start (od_set_defaults d.node uid) o.loadOk).OD_identity := by
  unfold Device.init
  split <;> simp [Node.save_SERIAL]

/-- `init` whose SERIAL load succeeds: RAM holds the stored record, and the
identity's serial number is the stored serial modulo 10^8 when `valid` is set, the
UID otherwise. -/
theorem Device.init_loaded (d : Device) (uid : Nat) (o : InitOutcome)
    (h : o.loadOk .SERIAL = true) :
    (d.init uid o).node.storage.SERIAL = d.node.storage.SERIAL ∧
    (d.init uid o).node.OD_serialNumber = d.node.storage.SERIAL ∧
    (d.init uid o).node.OD_identity.serialNumber =
      if d.node.storage.SERIAL.valid then d.node.storage.SERIAL.serial % 100000000 else uid := by
  obtain ⟨h₁, h₂, h₃⟩ := d.init_serial uid o
  obtain ⟨h₄, h₅⟩ := od_load_start_loaded (od_set_defaults d.node uid) o.loadOk h
  exact ⟨h₁, by rw [h₂, h₄]; rfl, by rw [h₃, h₅]; rfl⟩

/-- `init` whose SERIAL load fails keeps `valid` and puts the UID in the serial and
in the identity. -/
theorem Device.init_failed (d : Device) (uid : Nat) (o : InitOutcome)
    (h : o.loadOk .SERIAL = false) :
    (d.init uid o).node.storage.SERIAL = d.node.storage.SERIAL ∧
    (d.init uid o).node.OD_serialNumber = { d.node.OD_serialNumber with serial := uid } ∧
    (d.init uid o).node.OD_identity.serialNumber = uid := by
  obtain ⟨h₁, h₂, h₃⟩ := d.init_serial uid o
  rw [od_load_start_failed _ _ h] at h₂ h₃
  exact ⟨h₁, h₂, by rw [h₃]; rfl⟩

section Run

variable (image : Node) (uid : Nat)

/-- One event; `image` is RAM as the firmware image holds it and `uid` the
processor UID.  SDO writes are taken in every state, also after an `init` that did
not start the stack, so the runs cover more than the device can do. -/
def Device.step (d : Device) : DeviceEvent → Device
  | .sdo w => { d with node := (CO_SDO_writeOD callbacks d.node w).2 }
  | .resetComm o => d.init uid o
  | .powerOn o => Device.init ⟨{ image with storage := d.node.storage }, false⟩ uid o

theorem Device.step_sdo_node (d : Device) (w : SdoWrite) :
    (d.step image uid (.sdo w)).node = (CO_SDO_writeOD callbacks d.node w).2 := rfl

/-- The device after a run of events. -/
def Device.run (d : Device) (es : List DeviceEvent) : Device :=
  es.foldl (Device.step image uid) d

/-- A property that every event of a run keeps holds after the run. -/
theorem Device.run_preserves (P : Device → Prop) :
    ∀ (es : List DeviceEvent) {d : Device}, (∀ d, ∀ e ∈ es, P d → P (d.step image uid e)) →
      P d → P (d.run image uid es)
  | [], _, _, hd => hd
  | e :: es, d, hstep, hd =>
    Device.run_preserves P es (fun d' e' he' => hstep d' e' (List.mem_cons_of_mem e he'))
      (hstep d e (List.mem_cons_self e es) hd)

/-! ## The identity's serial number -/

/-- 0x1018 shows the serial of 0x5000 whenever 0x5000 says it is valid. -/
def IdentityShowsSerial (n : Node) : Prop :=
  n.OD_serialNumber.valid = true → n.OD_identity.serialNumber = n.OD_serialNumber.serial % 100000000

theorem writeOD_identityShowsSerial (n : Node) (w : SdoWrite) (h : IdentityShowsSerial n) :
    IdentityShowsSerial (CO_SDO_writeOD callbacks n w).2 := by
  unfold IdentityShowsSerial
  rcases writeOD_serial_cases n w rfl with ⟨h₁, h₂, -⟩ | ⟨hv, h₁, -, -⟩ | ⟨-, h₁, h₂, -⟩
  · rw [h₁, h₂]; exact h
  · rw [h₁]; simp [hv]
  · rw [h₁, h₂]; exact fun _ => rfl

theorem Device.init_identityShowsSerial (d : Device) (o : InitOutcome)
    (h : o.loadOk .SERIAL = true) : IdentityShowsSerial (d.init uid o).node := by
  obtain ⟨-, h₂, h₃⟩ := d.init_loaded uid o h
  intro hv
  rw [h₂] at hv ⊢
  rw [h₃, if_pos hv]

/-- With the firmware image holding `valid = false`, over every run of SDO writes,
communication resets that load the SERIAL record, and power cycles, 0x1018 shows
the serial of 0x5000 modulo 10^8 whenever 0x5000 says it is valid. -/
theorem identity_shows_serial (himage : image.OD_serialNumber.valid = false) (d : Device)
    (es : List DeviceEvent) (hd : IdentityShowsSerial d.node)
    (hreset : ∀ o, .resetComm o ∈ es → o.loadOk .SERIAL = true) :
    IdentityShowsSerial (d.run image uid es).node := by
  refine Device.run_preserves image uid (fun d => IdentityShowsSerial d.node) es
    (fun d e he hd => ?_) hd
  cases e with
  | sdo w => exact writeOD_identityShowsSerial d.node w hd
  | resetComm o => exact d.init_identityShowsSerial uid o (hreset o he)
  | powerOn o =>
    cases hl : o.loadOk .SERIAL
    · -- RAM comes from the image, where `valid` is false
      intro hv
      rw [show (d.step image uid (.powerOn o)).node.OD_serialNumber = _ from
        (Device.init_failed _ uid o hl).2.1] at hv
      exact absurd (himage ▸ hv) Bool.false_ne_true
    · exact Device.init_identityShowsSerial uid _ o hl

/-- The outcome of an `init` in which every load and save succeeds and the stack
starts. -/
def initOk : InitOutcome := ⟨fun _ => true, true, fun _ => true⟩

/-- Power on, commit the serial number 42, then a communication reset. -/
def commitEvents : List DeviceEvent :=
  [.powerOn initOk, .sdo ⟨.OD_5000_serialNumber, 2, 42, fun _ => true⟩,
    .sdo ⟨.OD_1010_storeParameters, 5, 0x65766173, fun _ => true⟩, .resetComm initOk]

theorem identity_shows_serial_commit :
    unprogrammedNode.OD_serialNumber.valid = false ∧ IdentityShowsSerial unprogrammedNode ∧
    (∀ o, .resetComm o ∈ commitEvents → o.loadOk .SERIAL = true) ∧
    IdentityShowsSerial (Device.run unprogrammedNode 7 ⟨unprogrammedNode, false⟩ commitEvents).node := by
  have hd : IdentityShowsSerial unprogrammedNode := fun h => absurd h (by decide)
  have hreset : ∀ o, .resetComm o ∈ commitEvents → o.loadOk .SERIAL = true := by
    intro o ho
    simp only [commitEvents, List.mem_cons, List.mem_singleton, reduceCtorEq,
      DeviceEvent.resetComm.injEq, false_or, List.not_mem_nil, or_false] at ho
    rw [ho]; rfl
  exact ⟨rfl, hd, hreset, identity_shows_serial unprogrammedNode 7 rfl _ _ hd hreset⟩

/-! ## The stored SERIAL record -/

/-- While every SERIAL load succeeds, a stored record with `valid` set never
changes: over every run of SDO writes, communication resets and power cycles from a
state whose RAM holds it, it stays in storage and in RAM. -/
theorem stored_serial_write_once (d : Device) (es : List DeviceEvent)
    (hv : d.node.storage.SERIAL.valid = true)
    (hram : d.node.OD_serialNumber = d.node.storage.SERIAL)
    (hload : ∀ o, (.resetComm o ∈ es ∨ .powerOn o ∈ es) → o.loadOk .SERIAL = true) :
    (d.run image uid es).node.storage.SERIAL = d.node.storage.SERIAL ∧
      (d.run image uid es).node.OD_serialNumber = d.node.storage.SERIAL := by
  refine Device.run_preserves image uid
    (fun e => e.node.storage.SERIAL = d.node.storage.SERIAL ∧
      e.node.OD_serialNumber = d.node.storage.SERIAL) es (fun e ev hev ⟨h₁, h₂⟩ => ?_) ⟨rfl, hram⟩
  cases ev with
  | sdo w =>
    have hf := writeOD_serial_frozen e.node w (by rw [h₂, hv])
    exact ⟨hf.2.2.trans h₁, hf.1.trans h₂⟩
  | resetComm o =>
    obtain ⟨h₃, h₄, -⟩ := e.init_loaded uid o (hload o (.inl hev))
    exact ⟨h₃.trans h₁, h₄.trans h₁⟩
  | powerOn o =>
    obtain ⟨h₃, h₄, -⟩ := Device.init_loaded ⟨{ image with storage := e.node.storage }, false⟩ uid o
      (hload o (.inr hev))
    exact ⟨h₃.trans h₁, h₄.trans h₁⟩

/-- A device whose serial number is committed in RAM and in storage. -/
def programmedDevice : Device :=
  ⟨{ unprogrammedNode with OD_serialNumber.valid := true, storage.SERIAL.valid := true }, true⟩

/-- A write to 0x5000, a power cycle and a communication reset. -/
def rebootEvents : List DeviceEvent :=
  [.sdo ⟨.OD_5000_serialNumber, 2, 42, fun _ => true⟩, .powerOn initOk, .resetComm initOk]

theorem stored_serial_write_once_programmed :
    programmedDevice.node.storage.SERIAL.valid = true ∧
    programmedDevice.node.OD_serialNumber = programmedDevice.node.storage.SERIAL ∧
    (∀ o, (.resetComm o ∈ rebootEvents ∨ .powerOn o ∈ rebootEvents) → o.loadOk .SERIAL = true) ∧
    (programmedDevice.run unprogrammedNode 7 rebootEvents).node.storage.SERIAL =
      programmedDevice.node.storage.SERIAL ∧
    (programmedDevice.run unprogrammedNode 7 rebootEvents).node.OD_serialNumber =
      programmedDevice.node.storage.SERIAL := by
  have hload : ∀ o, (.resetComm o ∈ rebootEvents ∨ .powerOn o ∈ rebootEvents) →
      o.loadOk .SERIAL = true := by
    intro o ho
    simp only [rebootEvents, List.mem_cons, List.mem_singleton, reduceCtorEq,
      DeviceEvent.resetComm.injEq, DeviceEvent.powerOn.injEq, false_or, List.not_mem_nil,
      or_false] at ho
    rcases ho with ho | ho <;> rw [ho] <;> rfl
  exact ⟨rfl, rfl, hload, stored_serial_write_once unprogrammedNode 7 programmedDevice _ rfl rfl hload⟩

/-- A power cycle whose SERIAL load fails puts `valid = false` from the firmware
image in RAM, whatever the storage holds: writing `v` to 0x5000 sub 2 and "save" to
0x1010 sub 5 then overwrite the stored record with `v`. -/
theorem failed_load_reopens_serial (himage : image.OD_serialNumber.valid = false)
    (d : Device) (o : InitOutcome) (v : Nat) (ok₁ ok₂ : storage_type_t → Bool)
    (hfail : o.loadOk .SERIAL = false) (hok : ok₂ .SERIAL = true) :
    let d' := d.run image uid [.powerOn o, .sdo ⟨.OD_5000_serialNumber, 2, v, ok₁⟩,
      .sdo ⟨.OD_1010_storeParameters, 5, 0x65766173, ok₂⟩]
    d'.node.storage.SERIAL.serial = v ∧ d'.node.storage.SERIAL.valid = true := by
  have hv₁ : (d.step image uid (.powerOn o)).node.OD_serialNumber.valid = false := by
    rw [show (d.step image uid (.powerOn o)).node.OD_serialNumber = _ from
      (Device.init_failed _ uid o hfail).2.1]
    exact himage
  simp only [Device.run, List.foldl_cons, List.foldl_nil]
  generalize d.step image uid (.powerOn o) = d₁ at hv₁ ⊢
  have h₁ : (CO_SDO_writeOD callbacks d₁.node ⟨.OD_5000_serialNumber, 2, v, ok₁⟩).2 =
      { d₁.node with OD_serialNumber.serial := v } := by
    rw [writeOD_serialNumber]; simp [hv₁]
  obtain ⟨-, -, -, h₄⟩ := writeOD_saveSerialNumber { d₁.node with OD_serialNumber.serial := v }
    5 0x65766173 ok₂ rfl rfl hv₁
  rw [Device.step_sdo_node, Device.step_sdo_node, h₁, h₄, if_pos hok]
  exact ⟨rfl, rfl⟩

/-- Power on with a failed SERIAL load, write 42 to 0x5000 sub 2, then "save". -/
def reopenEvents : List DeviceEvent :=
  [.powerOn ⟨fun _ => false, true, fun _ => true⟩, .sdo ⟨.OD_5000_serialNumber, 2, 42, fun _ => true⟩,
    .sdo ⟨.OD_1010_storeParameters, 5, 0x65766173, fun _ => true⟩]

theorem failed_load_reopens_programmed :
    unprogrammedNode.OD_serialNumber.valid = false ∧
    (⟨fun _ => false, true, fun _ => true⟩ : InitOutcome).loadOk .SERIAL = false ∧
    (fun _ => true : storage_type_t → Bool) .SERIAL = true ∧
    (programmedDevice.run unprogrammedNode 7 reopenEvents).node.storage.SERIAL.serial = 42 ∧
    (programmedDevice.run unprogrammedNode 7 reopenEvents).node.storage.SERIAL.valid = true :=
  ⟨rfl, rfl, rfl, failed_load_reopens_serial unprogrammedNode 7 rfl programmedDevice
    ⟨fun _ => false, true, fun _ => true⟩ 42 (fun _ => true) (fun _ => true) rfl rfl⟩

end Run

end CANopenNode.Canopen.Part000
