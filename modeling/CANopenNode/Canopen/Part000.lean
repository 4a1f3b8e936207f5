/-
  Canopen/Part000.lean --- the 0x1010, 0x1011 and 0x5000 callbacks of the first
  revision of canopen.cpp, and the write-once serial number they implement.

  Source: src/unnamed/part_000, `Canopen::store_parameters_callback` (lines
  123-200), `Canopen::restore_default_parameters_callback` (210-247),
  `Canopen::serial_number_callback` (576-594) and their registration in
  `Canopen::co_start` (1511-1519).

  The serial number is written to 0x5000 sub 2 while `OD_serialNumber.valid` is
  false, and committed by the signature "save" to 0x1010 sub 5, which sets
  `valid`, derives `OD_identity.serialNumber` and saves the SERIAL record.  Once
  `valid` is set, no request changes the serial fields
  (`writeOD_serial_frozen`).  The commit sets `valid` before it saves: when the
  save fails, RAM holds `valid = true` over a stored record that does not, and the
  retry is refused (`serial_save_failure_keeps_valid`); with no failed save, the
  stored record follows RAM (`serial_record_follows_ram`).
-/
import CANopenNode.Canopen.ObjectDictionary

set_option autoImplicit false

namespace CANopenNode.Canopen.Part000

open CANopenNode.Canopen CO_SDO_abortCode_t

/-- `Canopen::store_parameters_callback` (0x1010). -/
def store_parameters_callback : ODF := fun saveOk arg n =>
  if arg.reading = true then (CO_SDO_AB_NONE, arg.data, n)
  else
    let signature := arg.data
    -- `*p_data = *ODdataStorage`: restore the original value
    let data := arg.stored
    match arg.subIndex with
    | 2 | 4 => (CO_SDO_AB_DATA_TRANSF, data, n)
    | _ =>
      if signature ≠ 0x65766173 then (CO_SDO_AB_DATA_TRANSF, data, n)
      else
        match arg.subIndex with
        | 1 =>
          let params := n.save saveOk .PARAMS
          if !params.1 then (CO_SDO_AB_HW, data, params.2)
          else
            let test := params.2.save saveOk .TEST
            if !test.1 then (CO_SDO_AB_HW, data, test.2)
            else
              let calib := test.2.save saveOk .CALIB
              if !calib.1 then (CO_SDO_AB_HW, data, calib.2) else (CO_SDO_AB_NONE, data, calib.2)
        | 3 => let r := n.saveOrHw saveOk .PARAMS; (r.1, data, r.2)
        | 5 =>
          if n.OD_serialNumber.valid ≠ false then (CO_SDO_AB_DATA_TRANSF, data, n)
          else
            let n := { n with OD_serialNumber.valid := true,
                              OD_identity.serialNumber := n.OD_serialNumber.serial % 100000000 }
            let r := n.saveOrHw saveOk .SERIAL
            (r.1, data, r.2)
        | 6 => let r := n.saveOrHw saveOk .TEST; (r.1, data, r.2)
        | 7 => let r := n.saveOrHw saveOk .CALIB; (r.1, data, r.2)
        | _ => (CO_SDO_AB_SUB_UNKNOWN, data, n)

/-- `Canopen::restore_default_parameters_callback` (0x1011). -/
def restore_default_parameters_callback : ODF := fun _ arg n =>
  if arg.reading = true then (CO_SDO_AB_NONE, arg.data, n)
  else
    let signature := arg.data
    let data := arg.stored
    match arg.subIndex with
    | 1 | 3 =>
      if signature ≠ 0x64616F6C then (CO_SDO_AB_DATA_TRANSF, data, n)
      else (CO_SDO_AB_NONE, data, n.restore .PARAMS)
    | 2 | 4 | 5 | 6 | 7 => (CO_SDO_AB_DATA_TRANSF, data, n)
    | _ => (CO_SDO_AB_SUB_UNKNOWN, data, n)

/-- `Canopen::serial_number_callback` (0x5000). -/
def serial_number_callback : ODF := fun _ arg n =>
  if arg.reading = true then (CO_SDO_AB_NONE, arg.data, n)
  else
    match arg.subIndex with
    | 2 =>
      if n.OD_serialNumber.valid = true then (CO_SDO_AB_READONLY, arg.stored, n)
      else (CO_SDO_AB_NONE, arg.data, n)
    | _ => (CO_SDO_AB_SUB_UNKNOWN, arg.data, n)

/-- The callbacks `Canopen::co_start` registers. -/
def callbacks : ODindex → ODF
  | .OD_1010_storeParameters => store_parameters_callback
  | .OD_1011_restoreDefaultParameters => restore_default_parameters_callback
  | .OD_5000_serialNumber => serial_number_callback

/-! ## What each callback does to the serial fields -/

/-- The store callback leaves the serial fields and the SERIAL record alone,
except on a "save" to subindex 5 while `valid` is false. -/
theorem store_parameters_callback_frame (saveOk : storage_type_t → Bool) (arg : CO_ODF_arg_t)
    (n : Node) (h : ¬(arg.reading = false ∧ arg.subIndex = 5 ∧ arg.data = 0x65766173 ∧
      n.OD_serialNumber.valid = false)) :
    SerialFrame n (store_parameters_callback saveOk arg n).2.2 := by
  obtain ⟨reading, sub, data, p⟩ := arg
  simp only [store_parameters_callback]
  repeat' split
  all_goals simp_all [SerialFrame, Node.save_SERIAL, Node.saveOrHw_eq]

/-- "save" to subindex 5: refused once `valid` is set; before, set `valid` and
derive the identity's serial number, then save the SERIAL record. -/
theorem store_parameters_callback_saveSerialNumber (saveOk : storage_type_t → Bool)
    (arg : CO_ODF_arg_t) (n : Node) (h₁ : arg.reading = false) (h₂ : arg.subIndex = 5)
    (h₃ : arg.data = 0x65766173) :
    store_parameters_callback saveOk arg n =
      if n.OD_serialNumber.valid = false then
        let n' := { n with OD_serialNumber.valid := true,
                           OD_identity.serialNumber := n.OD_serialNumber.serial % 100000000 }
        ((n'.saveOrHw saveOk .SERIAL).1, arg.stored, (n'.saveOrHw saveOk .SERIAL).2)
      else (CO_SDO_AB_DATA_TRANSF, arg.stored, n) := by
  cases hv : n.OD_serialNumber.valid <;> simp [store_parameters_callback, h₁, h₂, h₃, hv]

theorem restore_default_parameters_callback_frame (saveOk : storage_type_t → Bool)
    (arg : CO_ODF_arg_t) (n : Node) :
    SerialFrame n (restore_default_parameters_callback saveOk arg n).2.2 := by
  simp only [restore_default_parameters_callback]
  repeat' split
  all_goals exact SerialFrame.refl n

/-! ## What each write does to the serial fields -/

/-- Every write to 0x5000: sub 2 is committed while `valid` is false and refused
once it is set; every other subindex is refused. -/
theorem writeOD_serialNumber (n : Node) (sub v : Nat) (saveOk : storage_type_t → Bool) :
    CO_SDO_writeOD callbacks n ⟨.OD_5000_serialNumber, sub, v, saveOk⟩ =
      if sub = 2 ∧ n.OD_serialNumber.valid = false then
        (CO_SDO_AB_NONE, { n with OD_serialNumber.serial := v })
      else (if sub = 2 then CO_SDO_AB_READONLY else CO_SDO_AB_SUB_UNKNOWN, n) := by
  rcases sub with _ | _ | _ | sub
  · rfl
  · rfl
  · rw [CO_SDO_writeOD_eq _ _ _ (Nat.le_refl 2)]
    cases hv : n.OD_serialNumber.valid <;>
      simp [callbacks, serial_number_callback, Node.commit, hv]
  · rw [CO_SDO_writeOD_of_lt _ _ _ (by simp [ODindex.maxSubIndex])]
    simp

/-- A write to 0x1010 that is not "save" to subindex 5 while `valid` is false keeps
the serial fields and the SERIAL record. -/
theorem writeOD_storeParameters_frame (n : Node) (sub v : Nat) (saveOk : storage_type_t → Bool)
    (h : ¬(sub = 5 ∧ v = 0x65766173 ∧ n.OD_serialNumber.valid = false)) :
    SerialFrame n (CO_SDO_writeOD callbacks n ⟨.OD_1010_storeParameters, sub, v, saveOk⟩).2 := by
  have hf := store_parameters_callback_frame saveOk
    ⟨false, sub, v, some (n.entry .OD_1010_storeParameters sub)⟩ n (by simpa using h)
  rcases CO_SDO_writeOD_snd callbacks n ⟨.OD_1010_storeParameters, sub, v, saveOk⟩
    with he | he | he <;> rw [he]
  · exact SerialFrame.refl n
  all_goals simpa [SerialFrame] using hf

theorem writeOD_restoreDefaultParameters_frame (n : Node) (sub v : Nat)
    (saveOk : storage_type_t → Bool) :
    SerialFrame n
      (CO_SDO_writeOD callbacks n ⟨.OD_1011_restoreDefaultParameters, sub, v, saveOk⟩).2 := by
  have hf := restore_default_parameters_callback_frame saveOk
    ⟨false, sub, v, some (n.entry .OD_1011_restoreDefaultParameters sub)⟩ n
  rcases CO_SDO_writeOD_snd callbacks n ⟨.OD_1011_restoreDefaultParameters, sub, v, saveOk⟩
    with he | he | he <;> rw [he]
  · exact SerialFrame.refl n
  all_goals simpa [SerialFrame] using hf

/-- "save" to 0x1010 sub 5 while `valid` is false: `valid` and the identity's serial
number are set whether or not the save succeeds, and the answer is the save's. -/
theorem writeOD_saveSerialNumber (n : Node) (sub v : Nat) (saveOk : storage_type_t → Bool)
    (hs : sub = 5) (hd : v = 0x65766173) (hv : n.OD_serialNumber.valid = false) :
    (CO_SDO_writeOD callbacks n ⟨.OD_1010_storeParameters, sub, v, saveOk⟩).1 =
      (if saveOk .SERIAL then CO_SDO_AB_NONE else CO_SDO_AB_HW) ∧
    (CO_SDO_writeOD callbacks n ⟨.OD_1010_storeParameters, sub, v, saveOk⟩).2.OD_serialNumber =
      { n.OD_serialNumber with valid := true } ∧
    (CO_SDO_writeOD callbacks n
        ⟨.OD_1010_storeParameters, sub, v, saveOk⟩).2.OD_identity.serialNumber =
      n.OD_serialNumber.serial % 100000000 ∧
    (CO_SDO_writeOD callbacks n ⟨.OD_1010_storeParameters, sub, v, saveOk⟩).2.storage.SERIAL =
      if saveOk .SERIAL then { n.OD_serialNumber with valid := true } else n.storage.SERIAL := by
  rw [CO_SDO_writeOD_eq _ _ _ (by subst hs; show 5 ≤ 7; omega)]
  simp only [callbacks]
  rw [store_parameters_callback_saveSerialNumber _ _ _ rfl hs hd]
  cases hok : saveOk .SERIAL <;> simp [hv, hok, Node.saveOrHw_eq, Node.save_SERIAL]

/-- "save" to 0x1010 sub 5 once `valid` is set is refused and changes nothing. -/
theorem writeOD_saveSerialNumber_refused (n : Node) (sub v : Nat) (saveOk : storage_type_t → Bool)
    (hs : sub = 5) (hd : v = 0x65766173) (hv : n.OD_serialNumber.valid = true) :
    CO_SDO_writeOD callbacks n ⟨.OD_1010_storeParameters, sub, v, saveOk⟩ =
      (CO_SDO_AB_DATA_TRANSF, n) := by
  rw [CO_SDO_writeOD_eq _ _ _ (by subst hs; show 5 ≤ 7; omega)]
  simp only [callbacks]
  rw [store_parameters_callback_saveSerialNumber _ _ _ rfl hs hd]
  simp [hv]

/-- Once `valid` is set, no write changes the serial fields or the SERIAL record. -/
theorem writeOD_serial_frozen (n : Node) (w : SdoWrite) (hv : n.OD_serialNumber.valid = true) :
    SerialFrame n (CO_SDO_writeOD callbacks n w).2 := by
  obtain ⟨index, sub, v, saveOk⟩ := w
  cases index with
  | OD_5000_serialNumber =>
    rw [writeOD_serialNumber]
    simp only [hv, Bool.true_eq_false, and_false, if_false]
    exact SerialFrame.refl n
  | OD_1010_storeParameters => exact writeOD_storeParameters_frame n sub v saveOk (by simp [hv])
  | OD_1011_restoreDefaultParameters => exact writeOD_restoreDefaultParameters_frame n sub v saveOk

/-! ## The write-once serial number -/

/-- The serial number is write-once.  From `valid = false`, writing `v` to 0x5000
sub 2 and then "save" to 0x1010 sub 5, with the save succeeding, sets the serial to
`v`, sets `valid`, and sets the identity's serial number to `v` modulo 10^8.  From
`valid = true`, no run of writes, to any subindex with any value and any storage
outcome, changes any of the three. -/
theorem serialNumber_write_once :
    (∀ (n : Node) (v : Nat) (ok₁ ok₂ : storage_type_t → Bool),
      n.OD_serialNumber.valid = false → ok₂ .SERIAL = true →
      let n₂ := sdoRun callbacks n
        [⟨.OD_5000_serialNumber, 2, v, ok₁⟩, ⟨.OD_1010_storeParameters, 5, 0x65766173, ok₂⟩]
      n₂.OD_serialNumber.serial = v ∧ n₂.OD_serialNumber.valid = true ∧
        n₂.OD_identity.serialNumber = v % 100000000) ∧
    (∀ (n : Node) (ws : List SdoWrite), n.OD_serialNumber.valid = true →
      let n' := sdoRun callbacks n ws
      n'.OD_serialNumber.serial = n.OD_serialNumber.serial ∧ n'.OD_serialNumber.valid = true ∧
        n'.OD_identity.serialNumber = n.OD_identity.serialNumber) := by
  refine ⟨fun n v ok₁ ok₂ hv hok => ?_, fun n ws hv => ?_⟩
  · have h₁ : CO_SDO_writeOD callbacks n ⟨.OD_5000_serialNumber, 2, v, ok₁⟩ =
        (CO_SDO_AB_NONE, { n with OD_serialNumber.serial := v }) := by
      rw [writeOD_serialNumber]; simp [hv]
    obtain ⟨-, hs, hi, -⟩ := writeOD_saveSerialNumber { n with OD_serialNumber.serial := v }
      5 0x65766173 ok₂ rfl rfl hv
    intro n₂
    have e : n₂ = (CO_SDO_writeOD callbacks { n with OD_serialNumber.serial := v }
        ⟨.OD_1010_storeParameters, 5, 0x65766173, ok₂⟩).2 := by
      rw [show n₂ = sdoRun callbacks n _ from rfl, sdoRun_cons, sdoRun_cons, sdoRun_nil, h₁]
    rw [e, hs, hi]
    exact ⟨rfl, rfl, rfl⟩
  · have hf : SerialFrame n (sdoRun callbacks n ws) :=
      sdoRun_preserves (SerialFrame n) ws
        (fun m w _ hm => hm.trans (writeOD_serial_frozen m w (hm.1 ▸ hv))) (SerialFrame.refl n)
    exact ⟨by rw [hf.1], by rw [hf.1, hv], by rw [hf.2.1]⟩

/-! ## A failed save of the serial number -/

/-- "save" to 0x1010 sub 5 whose save of the SERIAL record fails, from RAM equal to
the stored record with `valid = false`: the answer is `CO_SDO_AB_HW`, yet RAM now
holds `valid = true` over a stored record with `valid = false`, the identity's
serial number has been rewritten, and every retry is refused. -/
theorem serial_save_failure_keeps_valid (n : Node) (saveOk : storage_type_t → Bool)
    (hv : n.OD_serialNumber.valid = false) (hsync : n.storage.SERIAL = n.OD_serialNumber)
    (hfail : saveOk .SERIAL = false) :
    let r := CO_SDO_writeOD callbacks n ⟨.OD_1010_storeParameters, 5, 0x65766173, saveOk⟩
    r.1 = CO_SDO_AB_HW ∧ r.2.OD_serialNumber.valid = true ∧ r.2.storage.SERIAL.valid = false ∧
      r.2.OD_identity.serialNumber = n.OD_serialNumber.serial % 100000000 ∧
      ∀ saveOk' : storage_type_t → Bool,
        CO_SDO_writeOD callbacks r.2 ⟨.OD_1010_storeParameters, 5, 0x65766173, saveOk'⟩ =
          (CO_SDO_AB_DATA_TRANSF, r.2) := by
  obtain ⟨h₁, h₂, h₃, h₄⟩ := writeOD_saveSerialNumber n 5 0x65766173 saveOk rfl rfl hv
  rw [hfail, if_neg Bool.false_ne_true] at h₁ h₄
  have hr : (CO_SDO_writeOD callbacks n
      ⟨.OD_1010_storeParameters, 5, 0x65766173, saveOk⟩).2.OD_serialNumber.valid = true := by
    rw [h₂]
  exact ⟨h₁, hr, by rw [h₄, hsync, hv], h₃,
    fun _ => writeOD_saveSerialNumber_refused _ _ _ _ rfl rfl hr⟩

theorem serial_save_failure_keeps_valid_unprogrammed :
    unprogrammedNode.OD_serialNumber.valid = false ∧
    unprogrammedNode.storage.SERIAL = unprogrammedNode.OD_serialNumber ∧
    (fun _ => false : storage_type_t → Bool) .SERIAL = false ∧
    let r := CO_SDO_writeOD callbacks unprogrammedNode
      ⟨.OD_1010_storeParameters, 5, 0x65766173, fun _ => false⟩
    r.1 = CO_SDO_AB_HW ∧ r.2.OD_serialNumber.valid = true ∧ r.2.storage.SERIAL.valid = false ∧
      r.2.OD_identity.serialNumber = unprogrammedNode.OD_serialNumber.serial % 100000000 ∧
      ∀ saveOk' : storage_type_t → Bool,
        CO_SDO_writeOD callbacks r.2 ⟨.OD_1010_storeParameters, 5, 0x65766173, saveOk'⟩ =
          (CO_SDO_AB_DATA_TRANSF, r.2) :=
  ⟨rfl, rfl, rfl, serial_save_failure_keeps_valid unprogrammedNode (fun _ => false) rfl rfl rfl⟩

/-- Everything a write can do to the serial fields, the identity and the SERIAL
record: keep them; while `valid` is false, replace the serial (0x5000 sub 2); or,
while `valid` is false, set `valid` and the identity's serial number and, when the
save succeeds, copy RAM into the record ("save" to 0x1010 sub 5). -/
theorem writeOD_serial_cases (n : Node) (w : SdoWrite) {n' : Node}
    (h : (CO_SDO_writeOD callbacks n w).2 = n') :
    SerialFrame n n' ∨
    (n.OD_serialNumber.valid = false ∧ n'.OD_serialNumber = { n.OD_serialNumber with serial := w.value } ∧
      n'.OD_identity = n.OD_identity ∧ n'.storage.SERIAL = n.storage.SERIAL) ∨
    (n.OD_serialNumber.valid = false ∧ n'.OD_serialNumber = { n.OD_serialNumber with valid := true } ∧
      n'.OD_identity.serialNumber = n.OD_serialNumber.serial % 100000000 ∧
      n'.storage.SERIAL = if w.saveOk .SERIAL then n'.OD_serialNumber else n.storage.SERIAL) := by
  subst h
  cases hv : n.OD_serialNumber.valid
  · obtain ⟨index, sub, v, saveOk⟩ := w
    cases index with
    | OD_5000_serialNumber =>
      rw [writeOD_serialNumber]
      by_cases hs : sub = 2
      · exact .inr (.inl (by simp [hs, hv]))
      · simpa [hs] using .inl (SerialFrame.refl n)
    | OD_1010_storeParameters =>
      by_cases hb : sub = 5 ∧ v = 0x65766173
      · obtain ⟨-, h₂, h₃, h₄⟩ := writeOD_saveSerialNumber n sub v saveOk hb.1 hb.2 hv
        exact .inr (.inr ⟨rfl, h₂, h₃, by rw [h₄, h₂]⟩)
      · exact .inl (writeOD_storeParameters_frame n sub v saveOk (fun h => hb ⟨h.1, h.2.1⟩))
    | OD_1011_restoreDefaultParameters =>
      exact .inl (writeOD_restoreDefaultParameters_frame n sub v saveOk)
  · exact .inl (writeOD_serial_frozen n w hv)

/-- While every save of the SERIAL record succeeds, the stored record follows RAM
once `valid` is set. -/
theorem writeOD_serial_record (m : Node) (w : SdoWrite) (hok : w.saveOk .SERIAL = true)
    (hm : m.OD_serialNumber.valid = true → m.storage.SERIAL = m.OD_serialNumber) :
    (CO_SDO_writeOD callbacks m w).2.OD_serialNumber.valid = true →
      (CO_SDO_writeOD callbacks m w).2.storage.SERIAL =
        (CO_SDO_writeOD callbacks m w).2.OD_serialNumber := by
  rcases writeOD_serial_cases m w rfl with ⟨h₁, -, h₃⟩ | ⟨hv, h₁, -, -⟩ | ⟨-, -, -, h₃⟩
  · rw [h₁, h₃]; exact hm
  · rw [h₁]; simp [hv]
  · rw [h₃, if_pos hok]; exact fun _ => rfl

/-- With no failed save of the SERIAL record, over every run of writes, RAM
`valid = true` means the stored record equals `OD_serialNumber`. -/
theorem serial_record_follows_ram (n : Node) (ws : List SdoWrite)
    (hn : n.OD_serialNumber.valid = true → n.storage.SERIAL = n.OD_serialNumber)
    (hok : ∀ w ∈ ws, w.saveOk .SERIAL = true) :
    (sdoRun callbacks n ws).OD_serialNumber.valid = true →
      (sdoRun callbacks n ws).storage.SERIAL = (sdoRun callbacks n ws).OD_serialNumber :=
  sdoRun_preserves (fun m => m.OD_serialNumber.valid = true → m.storage.SERIAL = m.OD_serialNumber)
    ws (fun m w hw hm => writeOD_serial_record m w (hok w hw) hm) hn

theorem serial_record_follows_ram_commit :
    (unprogrammedNode.OD_serialNumber.valid = true →
      unprogrammedNode.storage.SERIAL = unprogrammedNode.OD_serialNumber) ∧
    (∀ w ∈ [(⟨.OD_5000_serialNumber, 2, 42, fun _ => true⟩ : SdoWrite),
        ⟨.OD_1010_storeParameters, 5, 0x65766173, fun _ => true⟩], w.saveOk .SERIAL = true) ∧
    let n' := sdoRun callbacks unprogrammedNode
      [⟨.OD_5000_serialNumber, 2, 42, fun _ => true⟩,
        ⟨.OD_1010_storeParameters, 5, 0x65766173, fun _ => true⟩]
    n'.OD_serialNumber.valid = true → n'.storage.SERIAL = n'.OD_serialNumber := by
  have hok : ∀ w ∈ [(⟨.OD_5000_serialNumber, 2, 42, fun _ => true⟩ : SdoWrite),
      ⟨.OD_1010_storeParameters, 5, 0x65766173, fun _ => true⟩], w.saveOk .SERIAL = true := by
    intro w hw
    rcases hw with _ | ⟨_, _ | ⟨_, h⟩⟩
    · rfl
    · rfl
    · cases h
  exact ⟨fun h => absurd h (by decide), hok,
    serial_record_follows_ram unprogrammedNode _ (fun h => absurd h (by decide)) hok⟩

/-! ## The signature contract of 0x1010 and 0x1011 -/

/-- What the store callback does on a write: it hands back the stored value, changes
nothing without the signature, makes only permitted storage calls and writes neither
variable of 0x1010 and 0x1011. -/
theorem store_parameters_callback_write (saveOk : storage_type_t → Bool) (arg : CO_ODF_arg_t)
    (n : Node) (h : arg.reading = false) :
    (store_parameters_callback saveOk arg n).2.1 = arg.stored ∧
    (arg.data ≠ 0x65766173 → (store_parameters_callback saveOk arg n).2.2 = n) ∧
    PermittedCalls n (store_parameters_callback saveOk arg n).2.2 ∧
    (store_parameters_callback saveOk arg n).2.2.OD_storeParameters = n.OD_storeParameters ∧
    (store_parameters_callback saveOk arg n).2.2.OD_restoreDefaultParameters =
      n.OD_restoreDefaultParameters := by
  simp only [store_parameters_callback, h, Bool.false_eq_true, if_false]
  repeat' split
  all_goals refine ⟨rfl, fun hs => by simp_all, ?_, by simp [Node.saveOrHw_eq], by simp [Node.saveOrHw_eq]⟩
  all_goals apply_rules [PermittedCalls.saveOrHw, PermittedCalls.save, PermittedCalls.of_calls_eq, Eq.refl]

/-- The same for the restore callback. -/
theorem restore_default_parameters_callback_write (saveOk : storage_type_t → Bool)
    (arg : CO_ODF_arg_t) (n : Node) (h : arg.reading = false) :
    (restore_default_parameters_callback saveOk arg n).2.1 = arg.stored ∧
    (arg.data ≠ 0x64616F6C → (restore_default_parameters_callback saveOk arg n).2.2 = n) ∧
    PermittedCalls n (restore_default_parameters_callback saveOk arg n).2.2 ∧
    (restore_default_parameters_callback saveOk arg n).2.2.OD_storeParameters =
      n.OD_storeParameters ∧
    (restore_default_parameters_callback saveOk arg n).2.2.OD_restoreDefaultParameters =
      n.OD_restoreDefaultParameters := by
  simp only [restore_default_parameters_callback, h, Bool.false_eq_true, if_false]
  repeat' split
  all_goals refine ⟨rfl, fun hs => by simp_all, ?_, rfl, rfl⟩
  all_goals apply_rules [PermittedCalls.restore, PermittedCalls.of_calls_eq, Eq.refl]

/-- No callback writes the variables of 0x1010 and 0x1011. -/
theorem callbacks_params (index : ODindex) (saveOk : storage_type_t → Bool) (arg : CO_ODF_arg_t)
    (n : Node) :
    (callbacks index saveOk arg n).2.2.OD_storeParameters = n.OD_storeParameters ∧
    (callbacks index saveOk arg n).2.2.OD_restoreDefaultParameters =
      n.OD_restoreDefaultParameters := by
  cases hr : arg.reading
  · cases index
    · exact (store_parameters_callback_write saveOk arg n hr).2.2.2
    · exact (restore_default_parameters_callback_write saveOk arg n hr).2.2.2
    · simp only [callbacks, serial_number_callback, hr, Bool.false_eq_true, if_false]
      split <;> (try split) <;> exact ⟨rfl, rfl⟩
  · cases index <;> simp [callbacks, store_parameters_callback, restore_default_parameters_callback,
      serial_number_callback, hr]

theorem store_parameters_callback_signature :
    SignatureGuarded store_parameters_callback 0x65766173 where
  unsigned saveOk arg n h₁ h₂ := (store_parameters_callback_write saveOk arg n h₁).2.1 h₂
  permitted saveOk arg n h₁ := (store_parameters_callback_write saveOk arg n h₁).2.2.1
  restores saveOk arg n s h₁ h₂ := by
    rw [(store_parameters_callback_write saveOk arg n h₁).1]
    simp [CO_ODF_arg_t.stored, h₂]

theorem restore_default_parameters_callback_signature :
    SignatureGuarded restore_default_parameters_callback 0x64616F6C where
  unsigned saveOk arg n h₁ h₂ := (restore_default_parameters_callback_write saveOk arg n h₁).2.1 h₂
  permitted saveOk arg n h₁ := (restore_default_parameters_callback_write saveOk arg n h₁).2.2.1
  restores saveOk arg n s h₁ h₂ := by
    rw [(restore_default_parameters_callback_write saveOk arg n h₁).1]
    simp [CO_ODF_arg_t.stored, h₂]

end CANopenNode.Canopen.Part000
