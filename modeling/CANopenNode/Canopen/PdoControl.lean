/-
  Canopen/PdoControl.lean --- the application's manual control of one TPDO and one
  RPDO, in the first revision of canopen.cpp.

  Source: src/unnamed/part_000, `Canopen::rpdo_callback` (lines 756-761),
  `Canopen::tpdo_take_control` (1191-1204), `Canopen::tpdo_release_control`
  (1206-1210), `Canopen::tpdo_send` (1212-1226), `Canopen::rpdo_take_control`
  (1228-1249), `Canopen::rpdo_release_control` (1251-1264) and the end of
  `Canopen::deinit` (1604-1608), as compiled with `TPDO_MANUAL_CONTROL_EXTENSION` or
  `RPDO_MANUAL_CONTROL_EXTENSION`.  The second revision has none of these.

  The stack's manual-control extension is not in src/.  The model logs the calls
  the code makes on it, in order, and keeps of the stack's state what the code's
  `CO_RPDO_takeManualControl` calls set in each RPDO: whether it is under manual
  control and whether `rpdo_callback_wrapper` is its callback.  The stack is taken
  to hand each frame of an RPDO under manual control with that callback to it.
  `CO_get_TPDO` and `CO_get_RPDO` are any maps from communication-parameter indices
  to PDOs, and what the stack's functions return is an input of each event.  A
  `TickType_t` is 32 bits, and a tick is a millisecond, as the name `difference_us`
  has it.  `deinit` deletes the stack, and the next stack's RPDOs start without
  manual control.

  The code uses the TPDO extension as a lock: it enables manual control of a TPDO
  only while it holds none, sends only through the TPDO it holds, and gives back the
  one it holds (`tpdo_calls_follow_lock`).  The time difference of each send is
  measured from the previous send of any TPDO, across takes and releases, in 32-bit
  arithmetic: it is the elapsed time in µs only while at most 4294967 ticks have
  passed (`tpdo_send_difference`).  The RPDO extension is never given an RPDO back:
  `rpdo_release_control` passes `true` again, and only removes the callback, from
  the RPDO its `id` names; any other RPDO keeps `rpdo_callback_wrapper`, whose
  frames then go to whatever function `p_rpdo` holds (`rpdo_stays_under_manual_control`).
-/
import Mathlib.Data.BitVec

set_option autoImplicit false

namespace CANopenNode.Canopen.Part000

/-- `CO_ReturnError_t`, with the codes these functions return themselves. -/
inductive CO_ReturnError_t
  | CO_ERROR_NO
  | CO_ERROR_OUT_OF_MEMORY
  | CO_ERROR_PARAMETERS
  deriving DecidableEq, Repr

/-- A call on the stack's PDO functions, or of the application's RPDO function. -/
inductive PdoCall
  /-- `CO_TPDO_takeManualControl(tpdo, enable)`; `none` is `nullptr` -/
  | CO_TPDO_takeManualControl (tpdo : Option Nat) (enable : Bool)
  /-- `sendRequest = true` and `CO_TPDO_process(tpdo, nullptr, false, difference_us)`,
  made at tick `now` -/
  | CO_TPDO_process (tpdo : Nat) (difference_us now : BitVec 32)
  /-- `CO_RPDO_takeManualControl(rpdo, enable, object, pFunct)`; `wrapper` is whether
  `pFunct` is `rpdo_callback_wrapper` (with the class as `object`) and not `nullptr` -/
  | CO_RPDO_takeManualControl (rpdo : Nat) (enable wrapper : Bool)
  /-- the application's function `p_rpdo(p_rpdo_param, data, DLC)` -/
  | p_rpdo (p param : Nat) (data : List (BitVec 8)) (DLC : Nat)
  /-- `CO_delete(CAN_MODULE_A)` -/
  | CO_delete
  deriving DecidableEq, Repr

/-- What the code's `CO_RPDO_takeManualControl` calls have set in an RPDO. -/
structure RpdoControl where
  manual : Bool
  wrapper : Bool
  deriving DecidableEq, Repr

/-- The class's PDO fields, the stack's RPDOs and the calls made so far, oldest
first.  A PDO and the application's function are named by numbers; `none` is
`nullptr`. -/
structure PdoControl where
  p_tpdo : Option Nat
  tpdo_called : BitVec 32
  p_rpdo : Option Nat
  p_rpdo_param : Nat
  rpdo : Nat → RpdoControl
  calls : List PdoCall

/-- Make a call. -/
def PdoControl.call (s : PdoControl) (c : PdoCall) : PdoControl :=
  { s with calls := s.calls ++ [c] }

/-- `CO_RPDO_takeManualControl(rpdo, enable, ...)`: the call, and what it sets. -/
def PdoControl.CO_RPDO_takeManualControl (s : PdoControl) (rpdo : Nat) (enable wrapper : Bool) :
    PdoControl :=
  { s.call (.CO_RPDO_takeManualControl rpdo enable wrapper) with
    rpdo := fun k => if k = rpdo then ⟨enable, wrapper⟩ else s.rpdo k }

section Functions

variable (CO_get_TPDO CO_get_RPDO : Nat → Option Nat)

/-- `Canopen::tpdo_take_control`; `result` is what `CO_TPDO_takeManualControl`
returns. -/
def tpdo_take_control (s : PdoControl) (tpdo_com_param_index : Nat) (result : CO_ReturnError_t) :
    CO_ReturnError_t × PdoControl :=
  if s.p_tpdo.isSome then (.CO_ERROR_OUT_OF_MEMORY, s)
  else
    match CO_get_TPDO tpdo_com_param_index with
    | none => (.CO_ERROR_PARAMETERS, { s with p_tpdo := none })
    | some tpdo =>
      (result, { s with p_tpdo := some tpdo }.call (.CO_TPDO_takeManualControl (some tpdo) true))

/-- `Canopen::tpdo_release_control`: `id` is not used. -/
def tpdo_release_control (s : PdoControl) (_id : Nat) : PdoControl :=
  { s.call (.CO_TPDO_takeManualControl s.p_tpdo false) with p_tpdo := none }

/-- `Canopen::tpdo_send` at tick `now`; `result` is what `CO_TPDO_process` returns. -/
def tpdo_send (s : PdoControl) (_id : Nat) (now : BitVec 32) (result : CO_ReturnError_t) :
    CO_ReturnError_t × PdoControl :=
  match s.p_tpdo with
  | none => (.CO_ERROR_PARAMETERS, s)
  | some tpdo =>
    let difference_us := (now - s.tpdo_called) * 1000
    (result, { s with tpdo_called := now }.call (.CO_TPDO_process tpdo difference_us now))

/-- `Canopen::rpdo_take_control`; `p` is the application's function and `result`
what `CO_RPDO_takeManualControl` returns. -/
def rpdo_take_control (s : PdoControl) (rpdo_com_param_index param : Nat) (p : Option Nat)
    (result : CO_ReturnError_t) : CO_ReturnError_t × PdoControl :=
  match p with
  | none => (.CO_ERROR_PARAMETERS, s)
  | some f =>
    if s.p_rpdo.isSome then (.CO_ERROR_OUT_OF_MEMORY, s)
    else
      match CO_get_RPDO rpdo_com_param_index with
      | none => (.CO_ERROR_PARAMETERS, s)
      | some p_pdo =>
        (result, ({ s with p_rpdo := some f, p_rpdo_param := param } : PdoControl)
          |>.CO_RPDO_takeManualControl p_pdo true true)

/-- `Canopen::rpdo_release_control`: the RPDO is looked up by `id`, and passed `true`
with no callback. -/
def rpdo_release_control (s : PdoControl) (id : Nat) : PdoControl :=
  if s.p_rpdo.isNone then s
  else
    match CO_get_RPDO id with
    | none => s
    | some p_pdo => { s.CO_RPDO_takeManualControl p_pdo true false with p_rpdo := none }

/-- `Canopen::rpdo_callback`: the frame goes to the application's function, if any;
which RPDO it came from is not looked at. -/
def rpdo_callback (s : PdoControl) (data : List (BitVec 8)) (DLC : Nat) : PdoControl :=
  match s.p_rpdo with
  | some f => s.call (.p_rpdo f s.p_rpdo_param data DLC)
  | none => s

/-- The end of `Canopen::deinit`: `CO_delete`, then both pointers cleared. -/
def pdoDeinit (s : PdoControl) : PdoControl :=
  { s.call .CO_delete with rpdo := fun _ => ⟨false, false⟩, p_tpdo := none, p_rpdo := none }

/-- What happens to the PDO control, with what the stack answers. -/
inductive PdoEvent
  | tpdo_take_control (tpdo_com_param_index : Nat) (result : CO_ReturnError_t)
  | tpdo_release_control (id : Nat)
  | tpdo_send (id : Nat) (now : BitVec 32) (result : CO_ReturnError_t)
  | rpdo_take_control (rpdo_com_param_index param : Nat) (p : Option Nat)
      (result : CO_ReturnError_t)
  | rpdo_release_control (id : Nat)
  /-- the stack receives a frame for RPDO `rpdo` -/
  | rpdoFrame (rpdo : Nat) (data : List (BitVec 8)) (DLC : Nat)
  | deinit
  deriving DecidableEq, Repr

/-- One event. -/
def PdoControl.step (s : PdoControl) : PdoEvent → PdoControl
  | .tpdo_take_control i result => (tpdo_take_control CO_get_TPDO s i result).2
  | .tpdo_release_control id => tpdo_release_control s id
  | .tpdo_send id now result => (tpdo_send s id now result).2
  | .rpdo_take_control i param p result => (rpdo_take_control CO_get_RPDO s i param p result).2
  | .rpdo_release_control id => rpdo_release_control CO_get_RPDO s id
  | .rpdoFrame k data DLC =>
    if (s.rpdo k).manual && (s.rpdo k).wrapper then rpdo_callback s data DLC else s
  | .deinit => pdoDeinit s

/-- A run of events. -/
def PdoControl.run (s : PdoControl) (es : List PdoEvent) : PdoControl :=
  es.foldl (PdoControl.step CO_get_TPDO CO_get_RPDO) s

@[simp] theorem PdoControl.run_nil (s : PdoControl) : s.run CO_get_TPDO CO_get_RPDO [] = s := rfl

@[simp] theorem PdoControl.run_cons (s : PdoControl) (e : PdoEvent) (es : List PdoEvent) :
    s.run CO_get_TPDO CO_get_RPDO (e :: es) =
      (s.step CO_get_TPDO CO_get_RPDO e).run CO_get_TPDO CO_get_RPDO es := rfl

end Functions

@[simp] theorem PdoControl.call_calls (s : PdoControl) (c : PdoCall) :
    (s.call c).calls = s.calls ++ [c] :=
  rfl

@[simp] theorem PdoControl.call_p_tpdo (s : PdoControl) (c : PdoCall) :
    (s.call c).p_tpdo = s.p_tpdo := rfl

@[simp] theorem PdoControl.call_tpdo_called (s : PdoControl) (c : PdoCall) :
    (s.call c).tpdo_called = s.tpdo_called := rfl

@[simp] theorem PdoControl.call_rpdo (s : PdoControl) (c : PdoCall) :
    (s.call c).rpdo = s.rpdo := rfl

@[simp] theorem PdoControl.call_p_rpdo (s : PdoControl) (c : PdoCall) :
    (s.call c).p_rpdo = s.p_rpdo := rfl

@[simp] theorem PdoControl.CO_RPDO_takeManualControl_calls (s : PdoControl) (rpdo : Nat)
    (enable wrapper : Bool) :
    (s.CO_RPDO_takeManualControl rpdo enable wrapper).calls =
      s.calls ++ [.CO_RPDO_takeManualControl rpdo enable wrapper] := rfl

@[simp] theorem PdoControl.CO_RPDO_takeManualControl_p_tpdo (s : PdoControl) (rpdo : Nat)
    (enable wrapper : Bool) :
    (s.CO_RPDO_takeManualControl rpdo enable wrapper).p_tpdo = s.p_tpdo := rfl

@[simp] theorem PdoControl.CO_RPDO_takeManualControl_tpdo_called (s : PdoControl) (rpdo : Nat)
    (enable wrapper : Bool) :
    (s.CO_RPDO_takeManualControl rpdo enable wrapper).tpdo_called = s.tpdo_called := rfl

@[simp] theorem PdoControl.CO_RPDO_takeManualControl_p_rpdo (s : PdoControl) (rpdo : Nat)
    (enable wrapper : Bool) :
    (s.CO_RPDO_takeManualControl rpdo enable wrapper).p_rpdo = s.p_rpdo := rfl

theorem PdoControl.CO_RPDO_takeManualControl_rpdo (s : PdoControl) (rpdo : Nat)
    (enable wrapper : Bool) (k : Nat) :
    (s.CO_RPDO_takeManualControl rpdo enable wrapper).rpdo k =
      if k = rpdo then ⟨enable, wrapper⟩ else s.rpdo k :=
  rfl

/-! ## The TPDO lock and the time differences -/

/-- The TPDO extension as a lock: what one call leaves held, or `none` if a lock
forbids it.  Enabling needs the lock free; giving back and sending need the TPDO
held; deleting the stack frees it; the RPDO calls leave it. -/
def tpdoLock (held : Option Nat) : PdoCall → Option (Option Nat)
  | .CO_TPDO_takeManualControl tpdo true => if held = none ∧ tpdo.isSome then some tpdo else none
  | .CO_TPDO_takeManualControl tpdo false => if tpdo = held then some none else none
  | .CO_TPDO_process tpdo _ _ => if held = some tpdo then some held else none
  | .CO_delete => some none
  | _ => some held

/-- The differences `tpdo_send` hands the stack for sends at the ticks `nows`, the
first measured from `last`. -/
def sendDifferences (last : BitVec 32) : List (BitVec 32) → List (BitVec 32)
  | [] => []
  | now :: nows => (now - last) * 1000 :: sendDifferences now nows

/-- The difference and the tick of a `CO_TPDO_process` call. -/
def PdoCall.process? : PdoCall → Option (BitVec 32 × BitVec 32)
  | .CO_TPDO_process _ difference_us now => some (difference_us, now)
  | _ => none

/-- What a log of new calls owes the TPDO lock and the send clock, from `s` to `t`:
the lock allows them from `s.p_tpdo` and holds `t.p_tpdo` after them, their sends'
differences are measured from `s.tpdo_called`, and `t.tpdo_called` is the tick of the
last send. -/
def TpdoTrace (s t : PdoControl) (new : List PdoCall) : Prop :=
  new.foldlM tpdoLock s.p_tpdo = some t.p_tpdo ∧
    (new.filterMap PdoCall.process?).map (·.1) =
      sendDifferences s.tpdo_called ((new.filterMap PdoCall.process?).map (·.2)) ∧
    t.tpdo_called = ((new.filterMap PdoCall.process?).map (·.2)).getLast?.getD s.tpdo_called

theorem sendDifferences_append (last : BitVec 32) (l l' : List (BitVec 32)) :
    sendDifferences last (l ++ l') =
      sendDifferences last l ++ sendDifferences (l.getLast?.getD last) l' := by
  induction l generalizing last with
  | nil => rfl
  | cons now l ih =>
    rw [List.cons_append, sendDifferences, ih, List.getLast?_cons, Option.getD_some]
    rfl

theorem getLast?_append_getD {α : Type} (l l' : List α) (d : α) :
    (l ++ l').getLast?.getD d = l'.getLast?.getD (l.getLast?.getD d) := by
  cases l' using List.reverseRecOn <;> simp

/-- Traces compose. -/
theorem TpdoTrace.append {s t u : PdoControl} {new₁ new₂ : List PdoCall} (h₁ : TpdoTrace s t new₁)
    (h₂ : TpdoTrace t u new₂) : TpdoTrace s u (new₁ ++ new₂) := by
  obtain ⟨hl₁, hd₁, ht₁⟩ := h₁
  obtain ⟨hl₂, hd₂, ht₂⟩ := h₂
  refine ⟨by rw [List.foldlM_append, hl₁]; exact hl₂, ?_, ?_⟩
  · rw [List.filterMap_append, List.map_append, List.map_append, sendDifferences_append, hd₁, hd₂,
      ht₁]
  · rw [ht₂, ht₁, List.filterMap_append, List.map_append, getLast?_append_getD]

section Tpdo

variable (CO_get_TPDO CO_get_RPDO : Nat → Option Nat)

/-- Every event makes calls the lock allows, and sends with the difference from the
last send. -/
theorem step_tpdoTrace (s : PdoControl) (e : PdoEvent) :
    ∃ new, (s.step CO_get_TPDO CO_get_RPDO e).calls = s.calls ++ new ∧
      TpdoTrace s (s.step CO_get_TPDO CO_get_RPDO e) new := by
  cases e with
  | tpdo_take_control i result =>
    simp only [PdoControl.step, tpdo_take_control]
    cases hp : s.p_tpdo with
    | some t => exact ⟨[], by simp, by simp [TpdoTrace, hp, sendDifferences]⟩
    | none =>
      cases CO_get_TPDO i with
      | none => exact ⟨[], by simp, by simp [TpdoTrace, hp, sendDifferences]⟩
      | some t =>
        exact ⟨_, rfl, by simp [TpdoTrace, tpdoLock, hp, PdoCall.process?, sendDifferences]⟩
  | tpdo_release_control id =>
    exact ⟨_, rfl, by
      simp [TpdoTrace, PdoControl.step, tpdo_release_control, tpdoLock, PdoCall.process?,
        sendDifferences]⟩
  | tpdo_send id now result =>
    simp only [PdoControl.step, tpdo_send]
    cases hp : s.p_tpdo with
    | none => exact ⟨[], by simp, by simp [TpdoTrace, hp, sendDifferences]⟩
    | some t => exact ⟨_, rfl, by simp [TpdoTrace, tpdoLock, hp, PdoCall.process?, sendDifferences]⟩
  | rpdo_take_control i param p result =>
    simp only [PdoControl.step, rpdo_take_control]
    cases p with
    | none => exact ⟨[], by simp, by simp [TpdoTrace, sendDifferences]⟩
    | some f =>
      dsimp only
      split
      · exact ⟨[], by simp, by simp [TpdoTrace, sendDifferences]⟩
      · split
        · exact ⟨[], by simp, by simp [TpdoTrace, sendDifferences]⟩
        · exact ⟨_, rfl, by simp [TpdoTrace, tpdoLock, PdoCall.process?, sendDifferences]⟩
  | rpdo_release_control id =>
    simp only [PdoControl.step, rpdo_release_control]
    split
    · exact ⟨[], by simp, by simp [TpdoTrace, sendDifferences]⟩
    · split
      · exact ⟨[], by simp, by simp [TpdoTrace, sendDifferences]⟩
      · exact ⟨_, rfl, by simp [TpdoTrace, tpdoLock, PdoCall.process?, sendDifferences]⟩
  | rpdoFrame k data DLC =>
    simp only [PdoControl.step, rpdo_callback]
    split
    · split
      · exact ⟨_, rfl, by simp [TpdoTrace, tpdoLock, PdoCall.process?, sendDifferences]⟩
      · exact ⟨[], by simp, by simp [TpdoTrace, sendDifferences]⟩
    · exact ⟨[], by simp, by simp [TpdoTrace, sendDifferences]⟩
  | deinit =>
    exact ⟨_, rfl, by
      simp [TpdoTrace, PdoControl.step, pdoDeinit, tpdoLock, PdoCall.process?, sendDifferences]⟩

theorem run_tpdoTrace (s : PdoControl) (es : List PdoEvent) :
    ∃ new, (s.run CO_get_TPDO CO_get_RPDO es).calls = s.calls ++ new ∧
      TpdoTrace s (s.run CO_get_TPDO CO_get_RPDO es) new := by
  induction es generalizing s with
  | nil => exact ⟨[], by simp, by simp [TpdoTrace, sendDifferences]⟩
  | cons e es ih =>
    obtain ⟨new₁, h₁, ht₁⟩ := step_tpdoTrace CO_get_TPDO CO_get_RPDO s e
    obtain ⟨new₂, h₂, ht₂⟩ := ih (s.step CO_get_TPDO CO_get_RPDO e)
    exact ⟨new₁ ++ new₂, by rw [PdoControl.run_cons, h₂, h₁, List.append_assoc], ht₁.append ht₂⟩

/-- The code uses the TPDO extension as a lock.  Over every run of takes, releases,
sends, RPDO events and `deinit`, from any state: it enables manual control of a TPDO
only while `p_tpdo` is `nullptr`, sends only through the TPDO `p_tpdo` holds, gives
back exactly the TPDO it holds (`nullptr` when it holds none), and `p_tpdo` is at
every point the TPDO the lock holds. -/
theorem tpdo_calls_follow_lock (s : PdoControl) (es : List PdoEvent) :
    ∃ new, (s.run CO_get_TPDO CO_get_RPDO es).calls = s.calls ++ new ∧
      new.foldlM tpdoLock s.p_tpdo = some (s.run CO_get_TPDO CO_get_RPDO es).p_tpdo := by
  obtain ⟨new, h, ht, -⟩ := run_tpdoTrace CO_get_TPDO CO_get_RPDO s es
  exact ⟨new, h, ht⟩

/-- The 32-bit product is the elapsed time in µs exactly while at most 4294967 ticks
have passed. -/
theorem mul_1000_toNat (d : BitVec 32) : (d * 1000).toNat = d.toNat * 1000 ↔ d.toNat ≤ 4294967 := by
  have hd := d.isLt
  rw [BitVec.toNat_mul, show (1000 : BitVec 32).toNat = 1000 from rfl,
    Nat.mod_eq_iff_lt (by decide)]
  omega

/-- The time difference of every send is measured from the previous send of any
TPDO, whatever takes and releases came between, and at first from `tpdo_called`:
over every run, the differences handed to `CO_TPDO_process` are `sendDifferences`
of the ticks of the sends, and `tpdo_called` ends at the last of them.  Each is
`(now - last) * 1000` in 32 bits, which is the elapsed time in µs exactly when at
most 4294967 ticks (about 71.6 minutes) have passed. -/
theorem tpdo_send_difference (s : PdoControl) (es : List PdoEvent) :
    (∃ new, (s.run CO_get_TPDO CO_get_RPDO es).calls = s.calls ++ new ∧
      (new.filterMap PdoCall.process?).map (·.1) =
        sendDifferences s.tpdo_called ((new.filterMap PdoCall.process?).map (·.2)) ∧
      (s.run CO_get_TPDO CO_get_RPDO es).tpdo_called =
        ((new.filterMap PdoCall.process?).map (·.2)).getLast?.getD s.tpdo_called) ∧
    ∀ last now : BitVec 32,
      ((now - last) * 1000).toNat = (now - last).toNat * 1000 ↔ (now - last).toNat ≤ 4294967 := by
  obtain ⟨new, h, -, hd, ht⟩ := run_tpdoTrace CO_get_TPDO CO_get_RPDO s es
  exact ⟨⟨new, h, hd, ht⟩, fun last now => mul_1000_toNat (now - last)⟩

end Tpdo

/-! ## The RPDO extension -/

section Rpdo

variable (CO_get_TPDO CO_get_RPDO : Nat → Option Nat)

/-- Whether the event is an `rpdo_release_control` whose `id` names RPDO `k`. -/
def PdoEvent.releasesRpdo (k : Nat) : PdoEvent → Bool
  | .rpdo_release_control id => CO_get_RPDO id == some k
  | _ => false

/-- Short of `deinit`, no event takes an RPDO out of manual control, and only a
release naming it takes `rpdo_callback_wrapper` off it. -/
theorem step_rpdo (s : PdoControl) (e : PdoEvent) (he : e ≠ .deinit) (k : Nat) :
    ((s.rpdo k).manual = true → ((s.step CO_get_TPDO CO_get_RPDO e).rpdo k).manual = true) ∧
    ((s.rpdo k).wrapper = true → e.releasesRpdo CO_get_RPDO k = false →
      ((s.step CO_get_TPDO CO_get_RPDO e).rpdo k).wrapper = true) := by
  cases e with
  | tpdo_take_control i result =>
    simp only [PdoControl.step, tpdo_take_control]
    split
    · exact ⟨fun h => h, fun h _ => h⟩
    · split <;> exact ⟨fun h => h, fun h _ => h⟩
  | tpdo_release_control => exact ⟨fun h => h, fun h _ => h⟩
  | tpdo_send id now result =>
    simp only [PdoControl.step, tpdo_send]
    split <;> exact ⟨fun h => h, fun h _ => h⟩
  | rpdo_take_control i param p result =>
    simp only [PdoControl.step, rpdo_take_control]
    split
    · exact ⟨fun h => h, fun h _ => h⟩
    · split
      · exact ⟨fun h => h, fun h _ => h⟩
      · split
        · exact ⟨fun h => h, fun h _ => h⟩
        · rw [PdoControl.CO_RPDO_takeManualControl_rpdo]
          split <;> simp_all
  | rpdo_release_control id =>
    simp only [PdoControl.step, rpdo_release_control]
    split
    · exact ⟨fun h => h, fun h _ => h⟩
    · split
      · exact ⟨fun h => h, fun h _ => h⟩
      · rename_i p_pdo hp
        simp only [PdoControl.CO_RPDO_takeManualControl_rpdo, PdoEvent.releasesRpdo, hp]
        split <;> simp_all
  | rpdoFrame k data DLC =>
    simp only [PdoControl.step, rpdo_callback]
    split
    · split <;> exact ⟨fun h => h, fun h _ => h⟩
    · exact ⟨fun h => h, fun h _ => h⟩
  | deinit => exact absurd rfl he

/-- `step_rpdo` over a run without `deinit`. -/
theorem run_rpdo (es : List PdoEvent) (s : PdoControl) (k : Nat) (hes : ∀ e ∈ es, e ≠ .deinit) :
    ((s.rpdo k).manual = true → ((s.run CO_get_TPDO CO_get_RPDO es).rpdo k).manual = true) ∧
    ((s.rpdo k).wrapper = true → (∀ e ∈ es, e.releasesRpdo CO_get_RPDO k = false) →
      ((s.run CO_get_TPDO CO_get_RPDO es).rpdo k).wrapper = true) := by
  induction es generalizing s with
  | nil => exact ⟨fun h => h, fun h _ => h⟩
  | cons e es ih =>
    have hstep := step_rpdo CO_get_TPDO CO_get_RPDO s e (hes e (List.mem_cons_self e es)) k
    have hrest := ih (s.step CO_get_TPDO CO_get_RPDO e)
      fun e' h => hes e' (List.mem_cons_of_mem e h)
    exact ⟨fun h => hrest.1 (hstep.1 h), fun h hr =>
      hrest.2 (hstep.2 h (hr e (List.mem_cons_self e es)))
        fun e' h' => hr e' (List.mem_cons_of_mem e h')⟩

/-- The RPDO extension is never given an RPDO back.  Over every run without
`deinit`, an RPDO under manual control stays under it, since `rpdo_release_control`
passes `true` again.  An RPDO with `rpdo_callback_wrapper` keeps it unless an
`rpdo_release_control` names that RPDO, and its next frame then goes to whatever
function `p_rpdo` holds, whichever RPDO that function was taken for. -/
theorem rpdo_stays_under_manual_control (s : PdoControl) (es : List PdoEvent) (k : Nat)
    (hes : ∀ e ∈ es, e ≠ .deinit) (hk : (s.rpdo k).manual = true) :
    ((s.run CO_get_TPDO CO_get_RPDO es).rpdo k).manual = true ∧
    ((s.rpdo k).wrapper = true → (∀ e ∈ es, e.releasesRpdo CO_get_RPDO k = false) →
      ∀ f data DLC, (s.run CO_get_TPDO CO_get_RPDO es).p_rpdo = some f →
        ((s.run CO_get_TPDO CO_get_RPDO es).step CO_get_TPDO CO_get_RPDO
            (.rpdoFrame k data DLC)).calls =
          (s.run CO_get_TPDO CO_get_RPDO es).calls ++
            [.p_rpdo f (s.run CO_get_TPDO CO_get_RPDO es).p_rpdo_param data DLC]) := by
  have hman := (run_rpdo CO_get_TPDO CO_get_RPDO es s k hes).1 hk
  refine ⟨hman, fun hw hr f data DLC hf => ?_⟩
  simp [PdoControl.step, hman, (run_rpdo CO_get_TPDO CO_get_RPDO es s k hes).2 hw hr, rpdo_callback,
    hf]

/-- RPDO 1 taken with function 10; a release naming RPDO 2, then RPDO 3 taken with
function 20. -/
def misreleasedStart : PdoControl :=
  ⟨none, 0, some 10, 0, fun k => if k = 1 then ⟨true, true⟩ else ⟨false, false⟩, []⟩

theorem rpdo_frame_reaches_later_function :
    (∀ e ∈ [PdoEvent.rpdo_release_control 2, .rpdo_take_control 3 0 (some 20) .CO_ERROR_NO],
      e ≠ .deinit) ∧
    (misreleasedStart.rpdo 1).manual = true ∧ (misreleasedStart.rpdo 1).wrapper = true ∧
    (∀ e ∈ [PdoEvent.rpdo_release_control 2, .rpdo_take_control 3 0 (some 20) .CO_ERROR_NO],
      e.releasesRpdo some 1 = false) ∧
    (misreleasedStart.run (fun _ => none) some
      [.rpdo_release_control 2, .rpdo_take_control 3 0 (some 20) .CO_ERROR_NO]).p_rpdo = some 20 ∧
    ((misreleasedStart.run (fun _ => none) some
        [.rpdo_release_control 2, .rpdo_take_control 3 0 (some 20) .CO_ERROR_NO]).step
          (fun _ => none) some (.rpdoFrame 1 [0x11] 1)).calls =
      (misreleasedStart.run (fun _ => none) some
        [.rpdo_release_control 2, .rpdo_take_control 3 0 (some 20) .CO_ERROR_NO]).calls ++
        [.p_rpdo 20 0 [0x11] 1] :=
  ⟨by decide, rfl, rfl, by decide, rfl,
    (rpdo_stays_under_manual_control (fun _ => none) some misreleasedStart
      [.rpdo_release_control 2, .rpdo_take_control 3 0 (some 20) .CO_ERROR_NO] 1 (by decide) rfl).2
      rfl (by decide) 20 [0x11] 1 rfl⟩

end Rpdo

end CANopenNode.Canopen.Part000
