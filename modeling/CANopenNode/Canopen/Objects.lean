/-
  Canopen/Objects.lean --- the callbacks of 0x1012 (COB-ID time stamp), 0x1F51
  (program control), 0x2108 (temperature), 0x2109 (voltage) and 0x2110 (CAN runtime
  info), each under the SDO server.

  Source: src/unnamed/part_000 and part_001 (canopen.cpp; the two have the same code
  here): `Canopen::cob_id_timestamp_callback` (lines 257-269),
  `Canopen::program_control_callback` (348-375), `Canopen::temperature_callback`
  (407-423), `Canopen::voltage_callback` (430-446) and
  `Canopen::can_runtime_info_callback` (453-519).

  What the device reports while a request is served is an input of the request: the
  bootloader's answer to `bootloader_request`, the REAL32 bits of `globals.get_temp()`
  or `globals.get_vss()`, and the `can_info_t` that `can_ioctl(..., CAN_GET_INFO, ...)`
  fills (`none` when it does not return `CAN_OK`).  The driver's `can_info_t` is not in
  src/: its counters are numbers, cut to the width of the cast the callback writes
  them through.  The server is the one of `ObjectDictionary` (`ODObject.view`), with
  the dictionary's attributes (`writable`, not in src/) a parameter.  The last
  subindex is 0 for 0x1012, 1 for 0x2108 and 0x2109 and 11 for 0x2110, as the names of
  their entries give it; that of 0x1F51 is a parameter.

  A run of requests, seen through one variable or through what the callback acts on,
  is a fold of one small step (`ODObject.run_simulates`).  So 0x1012 is a register that
  ignores a producer's COB-ID (`timestamp_cob_id_never_producer`); 0x1F51 calls the
  bootloader once per write that reaches it and asks for a reboot only when the
  bootloader answers `BOOTLOADER_REBOOT` (`program_control_effects`); 0x2108 and 0x2109
  answer the live value and store it in place of a written one
  (`live_values_not_stored`).
-/
import CANopenNode.Canopen.ObjectDictionary
import Mathlib.Data.BitVec
import Mathlib.Data.Nat.Bitwise

set_option autoImplicit false

namespace CANopenNode.Canopen

open CO_SDO_abortCode_t

/-! ## The server, for any object -/

/-- One SDO request to an object, with what the device reports (`ε`) while it is
served. -/
inductive SdoRequest (ε : Type)
  | read (subIndex : Nat) (env : ε)
  | write (subIndex value : Nat) (env : ε)
  deriving DecidableEq, Repr

/-- An object under the server: the variable of each subindex, and what its callback
acts on. -/
structure ODObject (σ : Type) where
  vars : Nat → Nat
  app : σ

/-- A callback as the server calls it: on what the device reports, the argument and
what it acts on, the abort code, the buffer as it leaves it, and what it acts on after
it. -/
abbrev ObjectODF (ε σ : Type) := ε → CO_ODF_arg_t → σ → CO_SDO_abortCode_t × Nat × σ

/-- A callback that acts on nothing but the buffer. -/
def pureODF {ε : Type} (cb : ε → CO_ODF_arg_t → CO_SDO_abortCode_t × Nat) : ObjectODF ε Unit :=
  fun env arg u => ((cb env arg).1, (cb env arg).2, u)

section Server

variable {ε σ : Type} (maxSubIndex : Nat) (writable : Nat → Bool) (f : ObjectODF ε σ)

/-- How the server sees an object with last subindex `maxSubIndex`. -/
def ODObject.view : ODObjectView (ODObject σ) :=
  ⟨maxSubIndex, fun o => o.vars,
    fun o sub data => { o with vars := Function.update o.vars sub data }⟩

/-- The callback on what the device reports, acting on the object's `app`. -/
def ODObject.lift (env : ε) : ODFunc (ODObject σ) := fun arg o =>
  let (ret, data, app) := f env arg o.app
  (ret, data, { o with app })

/-- The server's read of a subindex: the abort code, the answer and the object. -/
def ODObject.sdoRead (o : ODObject σ) (sub : Nat) (env : ε) :
    CO_SDO_abortCode_t × Nat × ODObject σ :=
  (ODObject.view maxSubIndex).readOD (ODObject.lift f env) o sub

/-- The server's write of a value to a subindex: the abort code and the object. -/
def ODObject.sdoWrite (o : ODObject σ) (sub value : Nat) (env : ε) :
    CO_SDO_abortCode_t × ODObject σ :=
  (ODObject.view maxSubIndex).writeOD writable (ODObject.lift f env) o sub value

/-- One request. -/
def ODObject.step (o : ODObject σ) : SdoRequest ε → ODObject σ
  | .read sub env => (o.sdoRead maxSubIndex f sub env).2.2
  | .write sub value env => (o.sdoWrite maxSubIndex writable f sub value env).2

/-- A run of requests. -/
def ODObject.run (o : ODObject σ) (rs : List (SdoRequest ε)) : ODObject σ :=
  rs.foldl (ODObject.step maxSubIndex writable f) o

/-- The server's read, on this object: the callback's code, buffer and `app` on the
entry's value, or `CO_SDO_AB_SUB_UNKNOWN` past the last subindex. -/
theorem ODObject.sdoRead_eq (o : ODObject σ) (sub : Nat) (env : ε) :
    o.sdoRead maxSubIndex f sub env =
      if maxSubIndex < sub then (CO_SDO_AB_SUB_UNKNOWN, 0, o)
      else
        let r := f env ⟨true, sub, o.vars sub, some (o.vars sub)⟩ o.app
        (r.1, r.2.1, { o with app := r.2.2 }) := by
  by_cases hs : maxSubIndex < sub
  · rw [if_pos hs, ODObject.sdoRead, ODObjectView.readOD_of_lt _ _ _ hs]
  · rw [if_neg hs, ODObject.sdoRead, ODObjectView.readOD_eq _ _ _ (Nat.le_of_not_lt hs)]
    rfl

/-- What a read answers: `CO_SDO_AB_SUB_UNKNOWN` past the last subindex, otherwise the
callback's code and buffer on the entry's value. -/
theorem ODObject.sdoRead_answer (o : ODObject σ) (sub : Nat) (env : ε) :
    ((o.sdoRead maxSubIndex f sub env).1, (o.sdoRead maxSubIndex f sub env).2.1) =
      if maxSubIndex < sub then (CO_SDO_AB_SUB_UNKNOWN, 0)
      else ((f env ⟨true, sub, o.vars sub, some (o.vars sub)⟩ o.app).1,
        (f env ⟨true, sub, o.vars sub, some (o.vars sub)⟩ o.app).2.1) := by
  rw [ODObject.sdoRead_eq]; split <;> rfl

@[simp] theorem ODObject.sdoRead_vars (o : ODObject σ) (sub : Nat) (env : ε) :
    (o.sdoRead maxSubIndex f sub env).2.2.vars = o.vars := by
  rw [ODObject.sdoRead_eq]; split <;> rfl

theorem ODObject.sdoRead_app (o : ODObject σ) (sub : Nat) (env : ε) :
    (o.sdoRead maxSubIndex f sub env).2.2.app =
      if maxSubIndex < sub then o.app
      else (f env ⟨true, sub, o.vars sub, some (o.vars sub)⟩ o.app).2.2 := by
  rw [ODObject.sdoRead_eq]; split <;> rfl

/-- The server's write, on this object: refused and the object unchanged past the last
subindex or on a read-only entry; otherwise the callback's code, with `app` as the
callback leaves it and the buffer stored exactly when it answers `CO_SDO_AB_NONE`. -/
theorem ODObject.sdoWrite_eq (o : ODObject σ) (sub value : Nat) (env : ε) :
    o.sdoWrite maxSubIndex writable f sub value env =
      if maxSubIndex < sub then (CO_SDO_AB_SUB_UNKNOWN, o)
      else if writable sub = false then (CO_SDO_AB_READONLY, o)
      else
        let r := f env ⟨false, sub, value, some (o.vars sub)⟩ o.app
        (r.1, if r.1 = CO_SDO_AB_NONE then ⟨Function.update o.vars sub r.2.1, r.2.2⟩
          else { o with app := r.2.2 }) := by
  by_cases hs : maxSubIndex < sub
  · rw [if_pos hs, ODObject.sdoWrite, ODObjectView.writeOD_of_lt _ _ _ _ _ hs]
  · have hle := Nat.le_of_not_lt hs
    cases hw : writable sub
    · rw [if_neg hs, if_pos rfl, ODObject.sdoWrite,
        ODObjectView.writeOD_of_readonly _ _ _ _ _ hle hw]
    · rw [if_neg hs, if_neg (by decide), ODObject.sdoWrite,
        ODObjectView.writeOD_eq _ _ _ _ _ hle hw]
      dsimp only [ODObject.lift, ODObject.view]
      split <;> rfl

/-- A write stores the callback's buffer exactly when it reaches the callback and the
callback answers `CO_SDO_AB_NONE`. -/
theorem ODObject.sdoWrite_vars (o : ODObject σ) (sub value : Nat) (env : ε) :
    (o.sdoWrite maxSubIndex writable f sub value env).2.vars =
      if sub ≤ maxSubIndex ∧ writable sub = true ∧
          (f env ⟨false, sub, value, some (o.vars sub)⟩ o.app).1 = CO_SDO_AB_NONE then
        Function.update o.vars sub (f env ⟨false, sub, value, some (o.vars sub)⟩ o.app).2.1
      else o.vars := by
  rw [ODObject.sdoWrite_eq]
  by_cases hs : maxSubIndex < sub
  · simp [hs, Nat.not_le.mpr hs]
  · cases hw : writable sub
    · simp [hs]
    · by_cases hr : (f env ⟨false, sub, value, some (o.vars sub)⟩ o.app).1 = CO_SDO_AB_NONE <;>
        simp [hs, hr, Nat.le_of_not_lt hs]

/-- What the callback acts on changes exactly when a write reaches it. -/
theorem ODObject.sdoWrite_app (o : ODObject σ) (sub value : Nat) (env : ε) :
    (o.sdoWrite maxSubIndex writable f sub value env).2.app =
      if sub ≤ maxSubIndex ∧ writable sub = true then
        (f env ⟨false, sub, value, some (o.vars sub)⟩ o.app).2.2
      else o.app := by
  rw [ODObject.sdoWrite_eq]
  by_cases hs : maxSubIndex < sub
  · simp [hs, Nat.not_le.mpr hs]
  · cases hw : writable sub
    · simp [hs]
    · simp only [hs, if_false, Bool.true_eq_false, Nat.le_of_not_lt hs, and_self, if_true]
      split <;> rfl

/-- A run, seen through `π`, is the fold of `g` when each request is. -/
theorem ODObject.run_simulates {β : Type} (π : ODObject σ → β) (g : β → SdoRequest ε → β)
    (hg : ∀ o r, π (o.step maxSubIndex writable f r) = g (π o) r) (o : ODObject σ)
    (rs : List (SdoRequest ε)) : π (o.run maxSubIndex writable f rs) = rs.foldl g (π o) := by
  induction rs generalizing o with
  | nil => rfl
  | cons r rs ih => exact (ih _).trans (congrArg (fun b => rs.foldl g b) (hg o r))

end Server

/-! ## 0x1012: COB-ID time stamp -/

/-- `Canopen::cob_id_timestamp_callback`: a written COB-ID with bit 30 (the producer
bit, `0x40000000U`) is refused with `CO_SDO_AB_DATA_TRANSF`. -/
def cob_id_timestamp_callback (arg : CO_ODF_arg_t) : CO_SDO_abortCode_t × Nat :=
  if arg.reading = true then (CO_SDO_AB_NONE, arg.data)
  -- Timestamp Producer ablehnen
  else if arg.data &&& 0x40000000 ≠ 0 then (CO_SDO_AB_DATA_TRANSF, arg.data)
  else (CO_SDO_AB_NONE, arg.data)

theorem and_producer_bit (n : Nat) : n &&& 0x40000000 ≠ 0 ↔ n.testBit 30 = true := by
  rw [show (0x40000000 : Nat) = 2 ^ 30 from rfl, Nat.and_two_pow]
  cases n.testBit 30 <;> simp

/-- What 0x1012 is, as this code keeps it: a register that takes each COB-ID written
to subindex 0 without the producer bit, if the dictionary lets the write through, and
ignores every other request. -/
def timeCobIdRegister (writable : Nat → Bool) (v : Nat) : SdoRequest Unit → Nat
  | .write 0 value _ => if writable 0 = true ∧ value.testBit 30 = false then value else v
  | _ => v

/-- The server with the callback is one step of the register. -/
theorem cobIdTimestamp_step (writable : Nat → Bool) (o : ODObject Unit) (r : SdoRequest Unit) :
    (o.step 0 writable (pureODF fun _ => cob_id_timestamp_callback) r).vars 0 =
      timeCobIdRegister writable (o.vars 0) r := by
  cases r with
  | read sub env => simp [ODObject.step, timeCobIdRegister]
  | write sub value env =>
    simp only [ODObject.step, ODObject.sdoWrite_vars]
    rcases sub with _ | sub
    · have hp := and_producer_bit value
      by_cases hb : value.testBit 30 = true <;>
        simp_all [timeCobIdRegister, pureODF, cob_id_timestamp_callback, ite_apply]
    · simp [timeCobIdRegister]

theorem timeCobIdRegister_testBit (writable : Nat → Bool) (rs : List (SdoRequest Unit)) :
    ∀ v : Nat, v.testBit 30 = false →
      (rs.foldl (timeCobIdRegister writable) v).testBit 30 = false := by
  induction rs with
  | nil => exact fun _ h => h
  | cons r rs ih =>
    intro v hv
    refine ih _ ?_
    match r with
    | .read _ _ | .write (_ + 1) _ _ => exact hv
    | .write 0 value _ =>
      simp only [timeCobIdRegister]
      split_ifs with h
      · exact h.2
      · exact hv

/-- 0x1012 never becomes a time-stamp producer.  Over every run of SDO requests, the
stored COB-ID is the last one written without the producer bit (bit 30) that the
dictionary let through, or the one it started with; so from a COB-ID without the
producer bit it never gets it. -/
theorem timestamp_cob_id_never_producer (writable : Nat → Bool) (o : ODObject Unit)
    (rs : List (SdoRequest Unit)) (h : (o.vars 0).testBit 30 = false) :
    (o.run 0 writable (pureODF fun _ => cob_id_timestamp_callback) rs).vars 0 =
      rs.foldl (timeCobIdRegister writable) (o.vars 0) ∧
    ((o.run 0 writable (pureODF fun _ => cob_id_timestamp_callback) rs).vars 0).testBit 30 =
      false := by
  have hrun := ODObject.run_simulates 0 writable _ (fun o => o.vars 0) (timeCobIdRegister writable)
    (cobIdTimestamp_step writable) o rs
  exact ⟨hrun, hrun ▸ timeCobIdRegister_testBit writable rs _ h⟩

theorem timestamp_cob_id_refuses_producer :
    (0x180 : Nat).testBit 30 = false ∧
    ((⟨fun _ => 0x180, ()⟩ : ODObject Unit).run 0 (fun _ => true)
        (pureODF fun _ => cob_id_timestamp_callback)
        [.write 0 0x40000100 (), .write 0 0x100 (), .write 0 0x40000200 ()]).vars 0 = 0x100 := by
  have h := timestamp_cob_id_never_producer (fun _ => true) ⟨fun _ => 0x180, ()⟩
    [.write 0 0x40000100 (), .write 0 0x100 (), .write 0 0x40000200 ()] (by decide)
  exact ⟨by decide, h.1.trans (by decide)⟩

/-! ## 0x1F51: program control -/

/-- `bootloader_state_t`, the bootloader's answer to a request; `other` stands for
every value the callback's `switch` does not name. -/
inductive bootloader_state_t
  | BOOTLAODER_TIMEOUT
  | BOOTLOADER_REBOOT
  | BOOTLOADER_OK
  | BOOTLAODER_WRONG_STATE
  | other
  deriving DecidableEq, Repr

/-- What `program_control_callback` acts on: its `bootloader_request(control, nid)`
calls so far, oldest first, and whether it has called `globals.request_reboot()`. -/
structure ProgramControl where
  requests : List (BitVec 8 × BitVec 8)
  reboot : Bool
  deriving DecidableEq, Repr

/-- `Canopen::program_control_callback`; `state` is what `bootloader_request` answers.
The control is the first byte of the buffer. -/
def program_control_callback (p_active_nid : BitVec 8) (state : bootloader_state_t)
    (arg : CO_ODF_arg_t) (p : ProgramControl) : CO_SDO_abortCode_t × Nat × ProgramControl :=
  if arg.reading = true then (CO_SDO_AB_NONE, arg.data, p)
  else
    let control : BitVec 8 := BitVec.ofNat 8 arg.data
    let p := { p with requests := p.requests ++ [(control, p_active_nid)] }
    match state with
    | .BOOTLAODER_TIMEOUT => (CO_SDO_AB_TIMEOUT, arg.data, p)
    | .BOOTLOADER_REBOOT => (CO_SDO_AB_NONE, arg.data, { p with reboot := true })
    | .BOOTLOADER_OK => (CO_SDO_AB_NONE, arg.data, p)
    | .BOOTLAODER_WRONG_STATE => (CO_SDO_AB_DATA_DEV_STATE, arg.data, p)
    | .other => (CO_SDO_AB_INVALID_VALUE, arg.data, p)

section ProgramControlRun

variable (maxSubIndex : Nat) (writable : Nat → Bool) (p_active_nid : BitVec 8)

/-- The `bootloader_request` call a request makes: one for each write the server
passes to the callback, with the value's first byte and the active node ID. -/
def bootloaderCall : SdoRequest bootloader_state_t → Option (BitVec 8 × BitVec 8)
  | .write sub value _ =>
    if sub ≤ maxSubIndex ∧ writable sub = true then some (BitVec.ofNat 8 value, p_active_nid)
    else none
  | .read _ _ => none

/-- Whether a request asks for a reboot: a write the server passes to the callback,
answered `BOOTLOADER_REBOOT`. -/
def rebootRequest : SdoRequest bootloader_state_t → Bool
  | .write sub _ state =>
    decide (sub ≤ maxSubIndex) && writable sub && state == .BOOTLOADER_REBOOT
  | .read _ _ => false

/-- The variable of subindex `s` under one request: a write to it that reaches the
callback and that the bootloader answers `BOOTLOADER_OK` or `BOOTLOADER_REBOOT` stores
the written value. -/
def programControlRegister (s v : Nat) : SdoRequest bootloader_state_t → Nat
  | .write sub value state =>
    if sub = s ∧ sub ≤ maxSubIndex ∧ writable sub = true ∧
        (state = .BOOTLOADER_OK ∨ state = .BOOTLOADER_REBOOT) then value
    else v
  | .read _ _ => v

/-- What the callback has done after one more request. -/
def ProgramControl.after (p : ProgramControl) (r : SdoRequest bootloader_state_t) :
    ProgramControl :=
  ⟨p.requests ++ (bootloaderCall maxSubIndex writable p_active_nid r).toList,
    p.reboot || rebootRequest maxSubIndex writable r⟩

theorem programControl_step_app (o : ODObject ProgramControl) (r : SdoRequest bootloader_state_t) :
    (o.step maxSubIndex writable (program_control_callback p_active_nid) r).app =
      o.app.after maxSubIndex writable p_active_nid r := by
  cases r with
  | read sub env =>
    rw [ODObject.step, ODObject.sdoRead_app]
    split <;> simp [program_control_callback, ProgramControl.after, bootloaderCall, rebootRequest]
  | write sub value state =>
    rw [ODObject.step, ODObject.sdoWrite_app]
    by_cases h1 : sub ≤ maxSubIndex
    · cases hw : writable sub
      · simp [h1, hw, ProgramControl.after, bootloaderCall, rebootRequest]
      · cases state <;> simp [h1, hw, program_control_callback, ProgramControl.after,
          bootloaderCall, rebootRequest]
    · simp [h1, ProgramControl.after, bootloaderCall, rebootRequest]

theorem programControl_step_vars (s : Nat) (o : ODObject ProgramControl)
    (r : SdoRequest bootloader_state_t) :
    (o.step maxSubIndex writable (program_control_callback p_active_nid) r).vars s =
      programControlRegister maxSubIndex writable s (o.vars s) r := by
  cases r with
  | read sub env => simp [ODObject.step, programControlRegister]
  | write sub value state =>
    simp only [ODObject.step, ODObject.sdoWrite_vars, programControlRegister]
    by_cases hs : sub = s
    · subst hs
      cases state <;> simp [program_control_callback, ite_apply]
    · simp [ite_apply, Function.update_apply, hs, Ne.symm hs]

theorem foldl_after (rs : List (SdoRequest bootloader_state_t)) :
    ∀ p : ProgramControl, rs.foldl (ProgramControl.after maxSubIndex writable p_active_nid) p =
      ⟨p.requests ++ rs.filterMap (bootloaderCall maxSubIndex writable p_active_nid),
        p.reboot || rs.any (rebootRequest maxSubIndex writable)⟩ := by
  induction rs with
  | nil => intro p; simp
  | cons r rs ih =>
    intro p
    rw [List.foldl_cons, ih]
    cases hc : bootloaderCall maxSubIndex writable p_active_nid r <;>
      simp [ProgramControl.after, hc, List.filterMap_cons, Bool.or_assoc]

/-- Program control calls the bootloader once per write that reaches it and reboots
only on the bootloader's word.  Over every run of SDO requests to 0x1F51, the
bootloader gets one `bootloader_request` per write the dictionary lets through, in
order, with the value's first byte and the active node ID, and none for a read; a
reboot is requested exactly when it was already or some such write was answered
`BOOTLOADER_REBOOT`; and each variable holds the last value written to it that the
bootloader answered `BOOTLOADER_OK` or `BOOTLOADER_REBOOT`, or its first value. -/
theorem program_control_effects (o : ODObject ProgramControl)
    (rs : List (SdoRequest bootloader_state_t)) :
    (o.run maxSubIndex writable (program_control_callback p_active_nid) rs).app =
      ⟨o.app.requests ++ rs.filterMap (bootloaderCall maxSubIndex writable p_active_nid),
        o.app.reboot || rs.any (rebootRequest maxSubIndex writable)⟩ ∧
    ∀ s, (o.run maxSubIndex writable (program_control_callback p_active_nid) rs).vars s =
      rs.foldl (programControlRegister maxSubIndex writable s) (o.vars s) := by
  refine ⟨?_, fun s => ?_⟩
  · rw [ODObject.run_simulates maxSubIndex writable _ ODObject.app _
      (programControl_step_app maxSubIndex writable p_active_nid), foldl_after]
  · exact ODObject.run_simulates maxSubIndex writable _ (fun o => o.vars s) _
      (programControl_step_vars maxSubIndex writable p_active_nid s) o rs

end ProgramControlRun

/-! ## 0x2108 and 0x2109: live values -/

/-- The callbacks of 0x2108 and 0x2109, which differ only in the value they read:
subindex 0 as stored, subindex 1 the value read at that moment, any other refused.
`reading` is not looked at. -/
def liveValueCallback (live : Nat) (arg : CO_ODF_arg_t) : CO_SDO_abortCode_t × Nat :=
  match arg.subIndex with
  | 0 => (CO_SDO_AB_NONE, arg.data)
  | 1 => (CO_SDO_AB_NONE, live)
  | _ => (CO_SDO_AB_SUB_UNKNOWN, arg.data)

/-- `Canopen::temperature_callback`; `get_temp` is the REAL32 bits of
`globals.get_temp()`. -/
def temperature_callback (get_temp : Nat) (arg : CO_ODF_arg_t) : CO_SDO_abortCode_t × Nat :=
  liveValueCallback get_temp arg

/-- `Canopen::voltage_callback`; `get_vss` is the REAL32 bits of `globals.get_vss()`. -/
def voltage_callback (get_vss : Nat) (arg : CO_ODF_arg_t) : CO_SDO_abortCode_t × Nat :=
  liveValueCallback get_vss arg

/-- The variable of subindex 1 under one request: a write to it that the dictionary
lets through stores the value read at that moment. -/
def liveRegister (writable : Nat → Bool) (v : Nat) : SdoRequest Nat → Nat
  | .write 1 _ live => if writable 1 = true then live else v
  | _ => v

/-- What a live-value object gives its clients: every read of subindex 1 answers
`CO_SDO_AB_NONE` and the value read at that moment, whatever the variable holds; and
over every run of requests, the variable of subindex 1 follows `liveRegister`. -/
def LiveView (cb : Nat → CO_ODF_arg_t → CO_SDO_abortCode_t × Nat) : Prop :=
  (∀ (o : ODObject Unit) (live : Nat),
    ((o.sdoRead 1 (pureODF cb) 1 live).1, (o.sdoRead 1 (pureODF cb) 1 live).2.1) =
      (CO_SDO_AB_NONE, live)) ∧
  ∀ (writable : Nat → Bool) (o : ODObject Unit) (rs : List (SdoRequest Nat)),
    (o.run 1 writable (pureODF cb) rs).vars 1 = rs.foldl (liveRegister writable) (o.vars 1)

theorem liveValue_step (writable : Nat → Bool) (o : ODObject Unit) (r : SdoRequest Nat) :
    (o.step 1 writable (pureODF liveValueCallback) r).vars 1 =
      liveRegister writable (o.vars 1) r := by
  cases r with
  | read sub env => simp [ODObject.step, liveRegister]
  | write sub value live =>
    simp only [ODObject.step, ODObject.sdoWrite_vars]
    match sub with
    | 0 => simp [liveRegister, ite_apply, Function.update_apply]
    | 1 => cases hw : writable 1 <;> simp [hw, liveRegister, pureODF, liveValueCallback, ite_apply]
    | _ + 2 => simp [liveRegister]

theorem liveValueCallback_liveView : LiveView liveValueCallback :=
  ⟨fun o live => by simp [ODObject.sdoRead_answer, pureODF, liveValueCallback],
    fun writable => ODObject.run_simulates 1 writable _ (fun o => o.vars 1) _
      (liveValue_step writable)⟩

/-- Temperature and voltage are live values, never stored ones.  For 0x2108 and
0x2109 alike, every read of subindex 1 answers the value read from the device at that
moment, whatever the variable holds; over every run of requests the variable of
subindex 1 changes only at a write the dictionary lets through, and then takes the
value read at that moment in place of the value written. -/
theorem live_values_not_stored : LiveView temperature_callback ∧ LiveView voltage_callback :=
  ⟨liveValueCallback_liveView, liveValueCallback_liveView⟩

/-! ## 0x2110: CAN runtime info -/

/-- The receive side of `can_info_t`. -/
structure can_info_rx where
  frames : Nat
  bytes : Nat
  dropped : Nat
  /-- `rec`, the receive error counter -/
  rec_ : Nat
  queue_length : Nat
  deriving DecidableEq, Repr

/-- The transmit side of `can_info_t`. -/
structure can_info_tx where
  frames : Nat
  bytes : Nat
  dropped : Nat
  tec : Nat
  queue_length : Nat
  deriving DecidableEq, Repr

/-- `can_info_t`, the fields the callback reads. -/
structure can_info_t where
  rx : can_info_rx
  tx : can_info_tx
  busoff : Nat
  passive : Nat
  warning : Nat
  deriving DecidableEq, Repr

/-- Subindex 11:
`(rti.busoff & 0x01) | (rti.passive & 0x01) << 1 | (rti.warning & 0x01) << 2`. -/
def can_runtime_info_flags (rti : can_info_t) : Nat :=
  (rti.busoff &&& 0x01) ||| ((rti.passive &&& 0x01) <<< 1) ||| ((rti.warning &&& 0x01) <<< 2)

/-- `Canopen::can_runtime_info_callback`; `rti` is `none` when `can_ioctl` does not
return `CAN_OK`.  Each counter is cut to the width of its cast. -/
def can_runtime_info_callback (rti : Option can_info_t) (arg : CO_ODF_arg_t) :
    CO_SDO_abortCode_t × Nat :=
  match rti with
  | none => (CO_SDO_AB_GENERAL, arg.data)
  | some rti =>
    match arg.subIndex with
    | 0 => (CO_SDO_AB_NONE, arg.data)
    | 1 => (CO_SDO_AB_NONE, rti.rx.frames % 2 ^ 64)
    | 2 => (CO_SDO_AB_NONE, rti.rx.bytes % 2 ^ 64)
    | 3 => (CO_SDO_AB_NONE, rti.rx.dropped % 2 ^ 32)
    | 4 => (CO_SDO_AB_NONE, rti.rx.rec_ % 2 ^ 16)
    | 5 => (CO_SDO_AB_NONE, rti.rx.queue_length % 2 ^ 16)
    | 6 => (CO_SDO_AB_NONE, rti.tx.frames % 2 ^ 64)
    | 7 => (CO_SDO_AB_NONE, rti.tx.bytes % 2 ^ 64)
    | 8 => (CO_SDO_AB_NONE, rti.tx.dropped % 2 ^ 32)
    | 9 => (CO_SDO_AB_NONE, rti.tx.tec % 2 ^ 16)
    | 10 => (CO_SDO_AB_NONE, rti.tx.queue_length % 2 ^ 16)
    | 11 => (CO_SDO_AB_NONE, can_runtime_info_flags rti % 2 ^ 32)
    | _ => (CO_SDO_AB_SUB_UNKNOWN, arg.data)

end CANopenNode.Canopen
