/-
  Driver/RxTable.lean --- the receive buffer table: `CO_CANmodule_init` and
  `CO_CANrxBufferInit` of the neuberger FreeRTOS driver.

  Source: src/stack/neuberger-socketCAN/CO_error.c, lines 399-519, and the
  buffer layout of CO_driver.h (`CO_CANrx_t`).

  The receive array is the caller's memory, so it is a total function from
  indices to entries: `CO_CANmodule_init` resets `ident` and `pFunct` of the
  entries below `rxSize` and leaves everything else, `mask` included, as it
  found it.  The table after any sequence of `CO_CANrxBufferInit` calls is
  described entry by entry (`rxTable_rxArray`): the latest accepted call for
  that index wins, and an index no call configured keeps its leftover mask.
-/
import CANopenNode.Driver.Frame

set_option autoImplicit false

namespace CANopenNode.Driver

open BitVec

/-! ## Buffers and the module -/

/-- `CO_CANrx_t`: one receive buffer.  Pointers are addresses, `0` is `NULL`. -/
structure CO_CANrx_t where
  /-- standard identifier in bits 0..10, `CAN_RTR_FLAG` for remote requests -/
  ident : BitVec 32
  /-- identifier mask with the same alignment as `ident` -/
  mask : BitVec 32
  object : Nat
  pFunct : Nat
  deriving DecidableEq, Repr

/-- `CO_CANmodule_t`, with the fields the receive path reads. -/
structure CO_CANmodule_t where
  rxArray : Nat → CO_CANrx_t
  rxSize : Nat
  useCANrxFilters : Bool

/-- `CO_CANmodule_init`.  `setup` is what the first-time configuration (mutexes,
`can_create`, `can_init`) answered; it decides only the return code, since the
early returns come after both array loops. -/
def CO_CANmodule_init (rxArray : Nat → CO_CANrx_t) (rxSize : Nat)
    (setup : CO_ReturnError_t) : CO_ReturnError_t × CO_CANmodule_t :=
  (setup,
    { rxArray := fun i =>
        if i < rxSize then { rxArray i with ident := 0, pFunct := 0 } else rxArray i
      rxSize := rxSize
      useCANrxFilters := false })

/-- The buffer `CO_CANrxBufferInit` writes: identifier and mask bit aligned with
the CAN module, the RTR bit in both. -/
def rxBuffer (ident mask : BitVec 16) (rtr : Bool) (object pFunct : Nat) : CO_CANrx_t where
  object := object
  pFunct := pFunct
  ident := if rtr then (ident.setWidth 32 &&& CAN_SFF_MASK) ||| CAN_RTR_FLAG
    else ident.setWidth 32 &&& CAN_SFF_MASK
  mask := (mask.setWidth 32 &&& CAN_SFF_MASK) ||| CAN_EFF_FLAG ||| CAN_RTR_FLAG

/-- `CO_CANrxBufferInit`. -/
def CO_CANrxBufferInit (m : CO_CANmodule_t) (index : Nat) (ident mask : BitVec 16)
    (rtr : Bool) (object pFunct : Nat) : CO_ReturnError_t × CO_CANmodule_t :=
  if object ≠ 0 ∧ pFunct ≠ 0 ∧ index < m.rxSize then
    (.CO_ERROR_NO,
      { m with rxArray := Function.update m.rxArray index (rxBuffer ident mask rtr object pFunct) })
  else (.CO_ERROR_ILLEGAL_ARGUMENT, m)

/-! ## Tables built by registration -/

/-- The arguments of one `CO_CANrxBufferInit` call. -/
structure RxRegistration where
  index : Nat
  ident : BitVec 16
  mask : BitVec 16
  rtr : Bool
  object : Nat
  pFunct : Nat
  deriving DecidableEq, Repr

/-- `CO_CANrxBufferInit` accepts the call on a table of `rxSize` entries. -/
def RxRegistration.accepted (rxSize : Nat) (r : RxRegistration) : Bool :=
  r.object != 0 && r.pFunct != 0 && decide (r.index < rxSize)

/-- The buffer the call writes. -/
def RxRegistration.buffer (r : RxRegistration) : CO_CANrx_t :=
  rxBuffer r.ident r.mask r.rtr r.object r.pFunct

/-- Apply one registration to the module. -/
def RxRegistration.apply (m : CO_CANmodule_t) (r : RxRegistration) : CO_CANmodule_t :=
  (CO_CANrxBufferInit m r.index r.ident r.mask r.rtr r.object r.pFunct).2

/-- The module after `CO_CANmodule_init` and the calls `regs`, in order. -/
def rxTable (rxArray : Nat → CO_CANrx_t) (rxSize : Nat) (setup : CO_ReturnError_t)
    (regs : List RxRegistration) : CO_CANmodule_t :=
  regs.foldl RxRegistration.apply (CO_CANmodule_init rxArray rxSize setup).2

/-- The latest call accepted for index `i` since `CO_CANmodule_init`. -/
def lastConfig (rxSize : Nat) (regs : List RxRegistration) (i : Nat) : Option RxRegistration :=
  (regs.filter fun r => r.accepted rxSize && r.index == i).getLast?

@[simp] theorem apply_rxSize (m : CO_CANmodule_t) (r : RxRegistration) :
    (r.apply m).rxSize = m.rxSize := by
  unfold RxRegistration.apply CO_CANrxBufferInit; split <;> rfl

@[simp] theorem apply_useCANrxFilters (m : CO_CANmodule_t) (r : RxRegistration) :
    (r.apply m).useCANrxFilters = m.useCANrxFilters := by
  unfold RxRegistration.apply CO_CANrxBufferInit; split <;> rfl

theorem apply_rxArray (m : CO_CANmodule_t) (r : RxRegistration) (i : Nat) :
    (r.apply m).rxArray i =
      if r.accepted m.rxSize && r.index == i then r.buffer else m.rxArray i := by
  unfold RxRegistration.apply CO_CANrxBufferInit RxRegistration.accepted
  by_cases h : r.object ≠ 0 ∧ r.pFunct ≠ 0 ∧ r.index < m.rxSize
  · by_cases hi : r.index = i
    · subst hi; simp [h, RxRegistration.buffer]
    · simp [h, hi, Function.update_noteq (Ne.symm hi)]
  · simp only [h, if_false]
    simp only [ne_eq, not_and, not_lt] at h
    by_cases h1 : r.object = 0
    · simp [h1]
    · by_cases h2 : r.pFunct = 0
      · simp [h2]
      · simp [h1, h2, Nat.not_lt.mpr (h h1 h2)]

@[simp] theorem rxTable_rxSize (a : Nat → CO_CANrx_t) (n : Nat) (s : CO_ReturnError_t)
    (regs : List RxRegistration) : (rxTable a n s regs).rxSize = n := by
  induction regs using List.reverseRecOn with
  | nil => rfl
  | append_singleton regs r ih => simp [rxTable, List.foldl_append] at *; exact ih

@[simp] theorem rxTable_useCANrxFilters (a : Nat → CO_CANrx_t) (n : Nat) (s : CO_ReturnError_t)
    (regs : List RxRegistration) : (rxTable a n s regs).useCANrxFilters = false := by
  induction regs using List.reverseRecOn with
  | nil => rfl
  | append_singleton regs r ih => simp [rxTable, List.foldl_append] at *; exact ih

theorem lastConfig_append (n : Nat) (regs : List RxRegistration) (r : RxRegistration) (i : Nat) :
    lastConfig n (regs ++ [r]) i =
      if r.accepted n && r.index == i then some r else lastConfig n regs i := by
  unfold lastConfig
  by_cases h : (r.accepted n && r.index == i) = true
  · simp only [List.filter_append, List.filter_singleton, h, if_true, cond_true,
      List.getLast?_append_of_ne_nil _ (List.cons_ne_nil r []), List.getLast?_singleton]
  · simp [List.filter_append, List.filter_singleton, h]

/-- Every entry of a built table: the buffer of the latest accepted call for its
index, or else what `CO_CANmodule_init` left there. -/
theorem rxTable_rxArray (a : Nat → CO_CANrx_t) (n : Nat) (s : CO_ReturnError_t)
    (regs : List RxRegistration) (i : Nat) :
    (rxTable a n s regs).rxArray i =
      match lastConfig n regs i with
      | some r => r.buffer
      | none => if i < n then { a i with ident := 0, pFunct := 0 } else a i := by
  induction regs using List.reverseRecOn with
  | nil => rfl
  | append_singleton regs r ih =>
    have hsize := rxTable_rxSize a n s regs
    simp only [rxTable, List.foldl_append, List.foldl_cons, List.foldl_nil] at ih hsize ⊢
    rw [apply_rxArray, lastConfig_append, hsize]
    split <;> simp_all

end CANopenNode.Driver
