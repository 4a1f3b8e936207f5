/-
  Driver/Frame.lean --- the socketCAN frame, the identifier flags the driver
  tests, and the return codes of the CAN layer.

  Source: src/stack/neuberger-socketCAN/CO_error.c (both halves: the error
  handler and the neuberger FreeRTOS driver) and CO_driver.h.  The flag and mask
  values are those of the Linux headers `linux/can.h` and `linux/can/error.h`
  that CO_error.c includes.

  `can_id` is a 32-bit `canid_t`, so identifiers, masks and flags are
  `BitVec 32`.  Each constant's bits are computed once, at the end of the file;
  every fact about the receive filter is derived from those lemmas bit by bit.
-/
import Mathlib.Data.BitVec

set_option autoImplicit false

namespace CANopenNode.Driver

open BitVec

/-! ## socketCAN constants -/

/-- `CAN_EFF_FLAG`: the frame carries a 29-bit extended identifier. -/
def CAN_EFF_FLAG : BitVec 32 := 0x80000000#32
/-- `CAN_RTR_FLAG`: remote transmission request. -/
def CAN_RTR_FLAG : BitVec 32 := 0x40000000#32
/-- `CAN_ERR_FLAG`: error message frame. -/
def CAN_ERR_FLAG : BitVec 32 := 0x20000000#32
/-- `CAN_SFF_MASK`: the 11 bits of a standard frame identifier. -/
def CAN_SFF_MASK : BitVec 32 := 0x7FF#32

/-- `CAN_ERR_CRTL`: error class "controller problems", details in `data[1]`. -/
def CAN_ERR_CRTL : BitVec 32 := 0x04#32
/-- `CAN_ERR_ACK`: error class "received no ACK on transmission". -/
def CAN_ERR_ACK : BitVec 32 := 0x20#32
/-- `CAN_ERR_BUSOFF`: error class "bus off". -/
def CAN_ERR_BUSOFF : BitVec 32 := 0x40#32

/-! ## Frames and return codes -/

/-- `struct can_frame`, as `can_read` and `recv` fill it. -/
structure can_frame where
  can_id : BitVec 32
  can_dlc : BitVec 8
  data : List (BitVec 8)
  deriving DecidableEq, Repr

/-- `CO_ReturnError_t` (CO_driver.h). -/
inductive CO_ReturnError_t
  | CO_ERROR_NO
  | CO_ERROR_ILLEGAL_ARGUMENT
  | CO_ERROR_OUT_OF_MEMORY
  | CO_ERROR_TIMEOUT
  | CO_ERROR_ILLEGAL_BAUDRATE
  | CO_ERROR_RX_OVERFLOW
  | CO_ERROR_RX_PDO_OVERFLOW
  | CO_ERROR_RX_MSG_LENGTH
  | CO_ERROR_RX_PDO_LENGTH
  | CO_ERROR_TX_OVERFLOW
  | CO_ERROR_TX_BUSY
  | CO_ERROR_TX_PDO_WINDOW
  | CO_ERROR_TX_UNCONFIGURED
  | CO_ERROR_PARAMETERS
  | CO_ERROR_DATA_CORRUPT
  | CO_ERROR_CRC
  | CO_ERROR_WRONG_NMT_STATE
  | CO_ERROR_SYSCALL
  deriving DecidableEq, Repr

/-- `can_state_t` of the FreeRTOS `can.h` driver, which is not under src/: the
driver code only tells `CAN_OK` and `CAN_ERR_TIMEOUT` from every other answer. -/
inductive can_state_t
  | CAN_OK
  | CAN_ERR_TIMEOUT
  /-- any other failure, by its driver code -/
  | other (code : Nat)
  deriving DecidableEq, Repr

/-! ## The bits of each constant -/

@[simp] theorem getLsbD_CAN_SFF_MASK (j : Nat) :
    CAN_SFF_MASK.getLsbD j = decide (j < 11) := by
  have h : (0x7FF : Nat) = 2 ^ 11 - 1 := rfl
  simp only [CAN_SFF_MASK, getLsbD_ofNat, h, Nat.testBit_two_pow_sub_one]
  by_cases hj : j < 11
  · simp [hj]; omega
  · simp [hj]

@[simp] theorem getLsbD_CAN_EFF_FLAG (j : Nat) :
    CAN_EFF_FLAG.getLsbD j = decide (j = 31) := by
  have h : (0x80000000 : Nat) = 2 ^ 31 := rfl
  simp only [CAN_EFF_FLAG, getLsbD_ofNat, h, Nat.testBit_two_pow]
  by_cases hj : j = 31 <;> simp [hj, eq_comm]

@[simp] theorem getLsbD_CAN_RTR_FLAG (j : Nat) :
    CAN_RTR_FLAG.getLsbD j = decide (j = 30) := by
  have h : (0x40000000 : Nat) = 2 ^ 30 := rfl
  simp only [CAN_RTR_FLAG, getLsbD_ofNat, h, Nat.testBit_two_pow]
  by_cases hj : j = 30 <;> simp [hj, eq_comm]

/-- An 8-bit length field widened to 32 bits never has the extended-frame bit. -/
theorem dlc_and_CAN_EFF_FLAG (dlc : BitVec 8) :
    dlc.setWidth 32 &&& CAN_EFF_FLAG = 0 := by
  apply eq_of_getLsbD_eq
  intro j
  simp only [getLsbD_and, getLsbD_setWidth, getLsbD_CAN_EFF_FLAG, getLsbD_zero]
  by_cases hj : (j : Nat) = 31
  · simp [hj]
  · simp [hj]

end CANopenNode.Driver
