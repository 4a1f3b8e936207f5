/-
  Canopen/Part001.lean --- the 0x1010, 0x1011 and 0x5000 callbacks of the second
  revision of canopen.cpp.

  Source: src/unnamed/part_001, `Canopen::store_parameters_callback` (lines
  123-198), `Canopen::restore_default_parameters_callback` (208-247),
  `Canopen::serial_number_callback` (576-607) and the registrations of
  `Canopen::init` (1326-1333).

  This revision answers subindex 0 of 0x1010 and 0x1011 with `CO_SDO_AB_NONE`,
  reports `CO_SDO_AB_INVALID_VALUE` where the first one reported
  `CO_SDO_AB_DATA_TRANSF`, and no longer sets `valid` or the identity's serial
  number in the store callback.  Its serial-number callback takes `valid` from
  `static_cast<bool>(p_odf_arg->ODdataStorage)`, the nullness of a pointer the
  server always sets, so it would refuse every write to 0x5000 sub 1 and 2
  whatever `OD_serialNumber.valid` holds (`serial_number_callback_refuses`).
  `Canopen::init` of this revision, however, registers the 0x1010 and 0x1011
  callbacks and never the serial-number one (`init_callbacks`): with the
  registrations the code makes, the server commits every write to 0x5000 as
  received, the serial fields follow the last write to their subindex whatever
  `valid` holds (`serial_follows_last_write`), and a serial number written and
  then saved leaves `valid` as it was (`serial_write_unprotected`).

  The last section sets the 0x1010 and 0x1011 callbacks of both revisions against
  the contract `SignatureGuarded`: each acts only on its signature, calls only the
  permitted storage functions and leaves the entry's stored value in the buffer
  (`storeRestore_signature_only`).
-/
import CANopenNode.Canopen.Part000

set_option autoImplicit false

namespace CANopenNode.Canopen.Part001

open CANopenNode.Canopen CO_SDO_abortCode_t

/-- `Canopen::store_parameters_callback` (0x1010). -/
def store_parameters_callback : ODF := fun saveOk arg n =>
  if arg.reading = true then (CO_SDO_AB_NONE, arg.data, n)
  else
    let signature := arg.data
    -- `*p_data = *ODdataStorage`: restore the original value
    let data := arg.stored
    match arg.subIndex with
    | 0 => (CO_SDO_AB_NONE, data, n)
    | 2 | 4 => (CO_SDO_AB_INVALID_VALUE, data, n)
    | _ =>
      if signature ≠ 0x65766173 then (CO_SDO_AB_DATA_TRANSF, data, n)
      else
        match arg.subIndex with
        | 1 =>
          let params := n.save saveOk .PARAMS
          if !params.1 then (CO_SDO_AB_HW, data, params.2)
          else
            let test := params.2.save saveOk .TEST
            if !test.1 then (CO_SDO_AB_HW, data, test.2)
            else
              let calib := test.2.save saveOk .CALIB
              if !calib.1 then (CO_SDO_AB_HW, data, calib.2) else (CO_SDO_AB_NONE, data, calib.2)
        | 3 => let r := n.saveOrHw saveOk .PARAMS; (r.1, data, r.2)
        | 5 =>
          if n.OD_serialNumber.valid ≠ false then (CO_SDO_AB_INVALID_VALUE, data, n)
          else let r := n.saveOrHw saveOk .SERIAL; (r.1, data, r.2)
        | 6 => let r := n.saveOrHw saveOk .TEST; (r.1, data, r.2)
        | 7 => let r := n.saveOrHw saveOk .CALIB; (r.1, data, r.2)
        | _ => (CO_SDO_AB_SUB_UNKNOWN, data, n)

/-- `Canopen::restore_default_parameters_callback` (0x1011). -/
def restore_default_parameters_callback : ODF := fun _ arg n =>
  if arg.reading = true then (CO_SDO_AB_NONE, arg.data, n)
  else
    let signature := arg.data
    let data := arg.stored
    match arg.subIndex with
    | 0 => (CO_SDO_AB_NONE, data, n)
    | 1 | 3 =>
      if signature ≠ 0x64616F6C then (CO_SDO_AB_DATA_TRANSF, data, n)
      else (CO_SDO_AB_NONE, data, n.restore .PARAMS)
    | 2 | 4 | 5 | 6 | 7 => (CO_SDO_AB_INVALID_VALUE, data, n)
    | _ => (CO_SDO_AB_SUB_UNKNOWN, data, n)

/-- `Canopen::serial_number_callback` (0x5000). -/
def serial_number_callback : ODF := fun _ arg n =>
  if arg.reading = true then (CO_SDO_AB_NONE, arg.data, n)
  else
    -- `valid = static_cast<bool>(p_odf_arg->ODdataStorage)`
    let valid := arg.ODdataStorage.isSome
    match arg.subIndex with
    | 0 => (CO_SDO_AB_NONE, arg.data, n)
    | 1 =>
      -- `*(p_odf_arg->data) = true`
      if valid = true then (CO_SDO_AB_READONLY, 1, n) else (CO_SDO_AB_NONE, arg.data, n)
    | 2 => if valid = true then (CO_SDO_AB_READONLY, arg.stored, n) else (CO_SDO_AB_NONE, arg.data, n)
    | _ => (CO_SDO_AB_SUB_UNKNOWN, arg.data, n)

/-- Whatever `OD_serialNumber.valid` holds, the serial-number callback refuses a
write to subindex 1 or 2 with `CO_SDO_AB_READONLY` whenever the server passes a
pointer to the entry, and changes nothing. -/
theorem serial_number_callback_refuses (saveOk : storage_type_t → Bool) (arg : CO_ODF_arg_t)
    (n : Node) (hr : arg.reading = false) (hp : arg.ODdataStorage.isSome = true)
    (hs : arg.subIndex = 1 ∨ arg.subIndex = 2) :
    (serial_number_callback saveOk arg n).1 = CO_SDO_AB_READONLY ∧
    (serial_number_callback saveOk arg n).2.2 = n := by
  obtain ⟨reading, sub, data, stored⟩ := arg
  dsimp only at hr hp hs
  subst hr
  rcases hs with rfl | rfl <;> simp [serial_number_callback, hp]

/-! ## The serial fields -/

/-- The store callback of this revision never writes the serial fields or the
identity. -/
theorem store_parameters_callback_ram (saveOk : storage_type_t → Bool) (arg : CO_ODF_arg_t)
    (n : Node) :
    (store_parameters_callback saveOk arg n).2.2.OD_serialNumber = n.OD_serialNumber ∧
    (store_parameters_callback saveOk arg n).2.2.OD_identity = n.OD_identity := by
  simp only [store_parameters_callback]
  repeat' split
  all_goals simp [Node.saveOrHw_eq]

/-! ## What `Canopen::init` registers -/

/-- An object without a registered callback: the server commits the buffer as
received. -/
def noCallback : ODF := fun _ arg n => (CO_SDO_AB_NONE, arg.data, n)

/-- The callbacks `Canopen::init` of this revision registers with `set_callback`:
none for 0x5000, whose `serial_number_callback_wrapper` is never passed. -/
def init_callbacks : ODindex → ODF
  | .OD_1010_storeParameters => store_parameters_callback
  | .OD_1011_restoreDefaultParameters => restore_default_parameters_callback
  | .OD_5000_serialNumber => noCallback

/-- The restore callback of this revision never writes the serial fields. -/
theorem restore_default_parameters_callback_serial (saveOk : storage_type_t → Bool)
    (arg : CO_ODF_arg_t) (n : Node) :
    (restore_default_parameters_callback saveOk arg n).2.2.OD_serialNumber = n.OD_serialNumber := by
  simp only [restore_default_parameters_callback]
  repeat' split
  all_goals rfl

/-- One write under the registrations of `Canopen::init`: `valid` and the serial
number change only by a write to their own subindex of 0x5000, which is
committed as received. -/
theorem writeOD_init_serial (n : Node) (w : SdoWrite) :
    (CO_SDO_writeOD init_callbacks n w).2.OD_serialNumber.serial =
      (if w.index = .OD_5000_serialNumber ∧ w.subIndex = 2 then w.value
        else n.OD_serialNumber.serial) ∧
    (CO_SDO_writeOD init_callbacks n w).2.OD_serialNumber.valid =
      (if w.index = .OD_5000_serialNumber ∧ w.subIndex = 1 then w.value != 0
        else n.OD_serialNumber.valid) := by
  obtain ⟨index, sub, v, saveOk⟩ := w
  cases index with
  | OD_1010_storeParameters =>
    have h := (store_parameters_callback_ram saveOk
      ⟨false, sub, v, some (n.entry .OD_1010_storeParameters sub)⟩ n).1
    rcases CO_SDO_writeOD_snd init_callbacks n ⟨.OD_1010_storeParameters, sub, v, saveOk⟩
      with he | he | he <;> rw [he] <;> simp_all [init_callbacks]
  | OD_1011_restoreDefaultParameters =>
    have h := restore_default_parameters_callback_serial saveOk
      ⟨false, sub, v, some (n.entry .OD_1011_restoreDefaultParameters sub)⟩ n
    rcases CO_SDO_writeOD_snd init_callbacks n ⟨.OD_1011_restoreDefaultParameters, sub, v, saveOk⟩
      with he | he | he <;> rw [he] <;> simp_all [init_callbacks]
  | OD_5000_serialNumber =>
    rcases sub with _ | _ | _ | sub
    · exact ⟨rfl, rfl⟩
    · exact ⟨rfl, rfl⟩
    · exact ⟨rfl, rfl⟩
    · rw [CO_SDO_writeOD_of_lt _ _ _ (by simp [ODindex.maxSubIndex])]
      simp

/-- Overwriting a value at the steps a predicate picks leaves the value of the last
step picked. -/
theorem foldl_overwrite {α β : Type} (p : α → Bool) (f : α → β) :
    ∀ (xs : List α) (b : β),
      xs.foldl (fun b x => if p x then f x else b) b = (((xs.filter p).getLast?).map f).getD b
  | [], _ => rfl
  | x :: xs, b => by
    rw [List.foldl_cons, foldl_overwrite p f xs]
    by_cases hx : p x
    · rw [if_pos hx, List.filter_cons_of_pos hx, List.getLast?_cons]
      cases (xs.filter p).getLast? <;> rfl
    · rw [if_neg hx, List.filter_cons_of_neg hx]

/-- Under the registrations of `Canopen::init`, over every run of SDO writes to
0x1010, 0x1011 and 0x5000 with any storage outcomes, the serial number is the last
value written to 0x5000 sub 2 and `valid` whether the last value written to sub 1
is not 0, each unchanged when the run writes no such value; neither depends on
`valid`, so the serial number is not protected. -/
theorem serial_follows_last_write (n : Node) (ws : List SdoWrite) :
    (sdoRun init_callbacks n ws).OD_serialNumber.serial =
      (((ws.filter fun w => w.index == .OD_5000_serialNumber && w.subIndex == 2).getLast?).map
        (·.value)).getD n.OD_serialNumber.serial ∧
    (sdoRun init_callbacks n ws).OD_serialNumber.valid =
      (((ws.filter fun w => w.index == .OD_5000_serialNumber && w.subIndex == 1).getLast?).map
        (·.value != 0)).getD n.OD_serialNumber.valid := by
  rw [← foldl_overwrite, ← foldl_overwrite]
  induction ws generalizing n with
  | nil => exact ⟨rfl, rfl⟩
  | cons w ws ih =>
    obtain ⟨hs, hv⟩ := writeOD_init_serial n w
    simp only [sdoRun_cons, List.foldl_cons, ih, hs, hv, Bool.and_eq_true, beq_iff_eq, and_self]

/-- Under the registrations of `Canopen::init`, from any node, writing `v` to
0x5000 sub 2 and then "save" to 0x1010 sub 5, whatever the storage does, ends with
the serial number `v` and `valid` as it was: the write is taken while `valid` is
set, and the save never sets it. -/
theorem serial_write_unprotected (n : Node) (v : Nat) (ok₁ ok₂ : storage_type_t → Bool) :
    let n₂ := sdoRun init_callbacks n
      [⟨.OD_5000_serialNumber, 2, v, ok₁⟩, ⟨.OD_1010_storeParameters, 5, 0x65766173, ok₂⟩]
    n₂.OD_serialNumber.serial = v ∧ n₂.OD_serialNumber.valid = n.OD_serialNumber.valid := by
  intro n₂
  have e : n₂ = (CO_SDO_writeOD init_callbacks (CO_SDO_writeOD init_callbacks n
      ⟨.OD_5000_serialNumber, 2, v, ok₁⟩).2 ⟨.OD_1010_storeParameters, 5, 0x65766173, ok₂⟩).2 := by
    rw [show n₂ = sdoRun init_callbacks n _ from rfl, sdoRun_cons, sdoRun_cons, sdoRun_nil]
  rw [e]
  obtain ⟨hs₁, hv₁⟩ := writeOD_init_serial n ⟨.OD_5000_serialNumber, 2, v, ok₁⟩
  obtain ⟨hs₂, hv₂⟩ := writeOD_init_serial
    (CO_SDO_writeOD init_callbacks n ⟨.OD_5000_serialNumber, 2, v, ok₁⟩).2
    ⟨.OD_1010_storeParameters, 5, 0x65766173, ok₂⟩
  refine ⟨hs₂.trans ?_, hv₂.trans ?_⟩
  · rw [if_neg (by simp)]
    exact hs₁.trans (if_pos ⟨rfl, rfl⟩)
  · rw [if_neg (by simp)]
    exact hv₁.trans (if_neg (by simp))

theorem serial_write_unprotected_unprogrammed :
    unprogrammedNode.OD_serialNumber.valid = false ∧
    let n₂ := sdoRun init_callbacks unprogrammedNode
      [⟨.OD_5000_serialNumber, 2, 42, fun _ => true⟩,
        ⟨.OD_1010_storeParameters, 5, 0x65766173, fun _ => true⟩]
    n₂.OD_serialNumber.serial = 42 ∧ n₂.OD_serialNumber.valid = false :=
  ⟨rfl, serial_write_unprotected unprogrammedNode 42 (fun _ => true) (fun _ => true)⟩

/-! ## The signature contract of 0x1010 and 0x1011 -/

/-- What the store callback does on a write: it hands back the stored value, changes
nothing without the signature, makes only permitted storage calls and writes neither
variable of 0x1010 and 0x1011. -/
theorem store_parameters_callback_write (saveOk : storage_type_t → Bool) (arg : CO_ODF_arg_t)
    (n : Node) (h : arg.reading = false) :
    (store_parameters_callback saveOk arg n).2.1 = arg.stored ∧
    (arg.data ≠ 0x65766173 → (store_parameters_callback saveOk arg n).2.2 = n) ∧
    PermittedCalls n (store_parameters_callback saveOk arg n).2.2 ∧
    (store_parameters_callback saveOk arg n).2.2.OD_storeParameters = n.OD_storeParameters ∧
    (store_parameters_callback saveOk arg n).2.2.OD_restoreDefaultParameters =
      n.OD_restoreDefaultParameters := by
  simp only [store_parameters_callback, h, Bool.false_eq_true, if_false]
  repeat' split
  all_goals refine ⟨rfl, fun hs => by simp_all, ?_, by simp [Node.saveOrHw_eq], by simp [Node.saveOrHw_eq]⟩
  all_goals apply_rules [PermittedCalls.saveOrHw, PermittedCalls.save, PermittedCalls.of_calls_eq, Eq.refl]

/-- The same for the restore callback. -/
theorem restore_default_parameters_callback_write (saveOk : storage_type_t → Bool)
    (arg : CO_ODF_arg_t) (n : Node) (h : arg.reading = false) :
    (restore_default_parameters_callback saveOk arg n).2.1 = arg.stored ∧
    (arg.data ≠ 0x64616F6C → (restore_default_parameters_callback saveOk arg n).2.2 = n) ∧
    PermittedCalls n (restore_default_parameters_callback saveOk arg n).2.2 ∧
    (restore_default_parameters_callback saveOk arg n).2.2.OD_storeParameters =
      n.OD_storeParameters ∧
    (restore_default_parameters_callback saveOk arg n).2.2.OD_restoreDefaultParameters =
      n.OD_restoreDefaultParameters := by
  simp only [restore_default_parameters_callback, h, Bool.false_eq_true, if_false]
  repeat' split
  all_goals refine ⟨rfl, fun hs => by simp_all, ?_, rfl, rfl⟩
  all_goals apply_rules [PermittedCalls.restore, PermittedCalls.of_calls_eq, Eq.refl]

/-- No callback `Canopen::init` registers writes the variables of 0x1010 and
0x1011. -/
theorem init_callbacks_params (index : ODindex) (saveOk : storage_type_t → Bool)
    (arg : CO_ODF_arg_t) (n : Node) :
    (init_callbacks index saveOk arg n).2.2.OD_storeParameters = n.OD_storeParameters ∧
    (init_callbacks index saveOk arg n).2.2.OD_restoreDefaultParameters =
      n.OD_restoreDefaultParameters := by
  cases index with
  | OD_5000_serialNumber => exact ⟨rfl, rfl⟩
  | OD_1010_storeParameters =>
    cases hr : arg.reading
    · exact (store_parameters_callback_write saveOk arg n hr).2.2.2
    · simp [init_callbacks, store_parameters_callback, hr]
  | OD_1011_restoreDefaultParameters =>
    cases hr : arg.reading
    · exact (restore_default_parameters_callback_write saveOk arg n hr).2.2.2
    · simp [init_callbacks, restore_default_parameters_callback, hr]

theorem store_parameters_callback_signature :
    SignatureGuarded store_parameters_callback 0x65766173 where
  unsigned saveOk arg n h₁ h₂ := (store_parameters_callback_write saveOk arg n h₁).2.1 h₂
  permitted saveOk arg n h₁ := (store_parameters_callback_write saveOk arg n h₁).2.2.1
  restores saveOk arg n s h₁ h₂ := by
    rw [(store_parameters_callback_write saveOk arg n h₁).1]
    simp [CO_ODF_arg_t.stored, h₂]

theorem restore_default_parameters_callback_signature :
    SignatureGuarded restore_default_parameters_callback 0x64616F6C where
  unsigned saveOk arg n h₁ h₂ := (restore_default_parameters_callback_write saveOk arg n h₁).2.1 h₂
  permitted saveOk arg n h₁ := (restore_default_parameters_callback_write saveOk arg n h₁).2.2.1
  restores saveOk arg n s h₁ h₂ := by
    rw [(restore_default_parameters_callback_write saveOk arg n h₁).1]
    simp [CO_ODF_arg_t.stored, h₂]

/-! ## Both revisions -/

/-- In both revisions the store (0x1010) and restore (0x1011) callbacks, on a write of
any value to any subindex, act only on their signature ("save", "load"): without it
they call no storage function and change no variable; the storage calls they make
never save COMMUNICATION or RUNTIME and restore nothing but PARAMS; and every return
leaves the entry's stored value in the buffer, so no write ever changes the
variables of 0x1010 and 0x1011. -/
theorem storeRestore_signature_only :
    SignatureGuarded Part000.store_parameters_callback 0x65766173 ∧
    SignatureGuarded Part000.restore_default_parameters_callback 0x64616F6C ∧
    SignatureGuarded store_parameters_callback 0x65766173 ∧
    SignatureGuarded restore_default_parameters_callback 0x64616F6C ∧
    ∀ (n : Node) (w : SdoWrite),
      (CO_SDO_writeOD Part000.callbacks n w).2.OD_storeParameters = n.OD_storeParameters ∧
      (CO_SDO_writeOD Part000.callbacks n w).2.OD_restoreDefaultParameters =
        n.OD_restoreDefaultParameters ∧
      (CO_SDO_writeOD init_callbacks n w).2.OD_storeParameters = n.OD_storeParameters ∧
      (CO_SDO_writeOD init_callbacks n w).2.OD_restoreDefaultParameters =
        n.OD_restoreDefaultParameters := by
  refine ⟨Part000.store_parameters_callback_signature,
    Part000.restore_default_parameters_callback_signature, store_parameters_callback_signature,
    restore_default_parameters_callback_signature, fun n w => ?_⟩
  have h₀ := CO_SDO_writeOD_params Part000.callbacks n w (Part000.callbacks_params w.index)
    fun hi => by
      cases hw : w.index
      · exact Part000.store_parameters_callback_signature.restores
      · exact Part000.restore_default_parameters_callback_signature.restores
      · exact absurd hw hi
  have h₁ := CO_SDO_writeOD_params init_callbacks n w (init_callbacks_params w.index)
    fun hi => by
      cases hw : w.index
      · exact store_parameters_callback_signature.restores
      · exact restore_default_parameters_callback_signature.restores
      · exact absurd hw hi
  exact ⟨h₀.1, h₀.2, h₁.1, h₁.2⟩

end CANopenNode.Canopen.Part001
