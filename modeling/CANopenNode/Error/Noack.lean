/-
  Error/Noack.lean --- the no-ACK counter of the fault handler over every run.

  Source: src/stack/neuberger-socketCAN/CO_error.c, lines 118-136, 184-209 and
  284-319.

  `CO_CANerror_rxMsgError` hands a bus-off frame to `CO_CANerrorBusoff` and
  returns before `CO_CANerrorNoack` sees it, so a bus-off frame neither counts
  nor clears the count.  `noackBlock` counts, at the end of a run, the no-ACK
  frames of the maximal block of error frames that all carry `CAN_ERR_ACK` or
  `CAN_ERR_BUSOFF`, bus-off frames not counted; the counter is that number
  modulo 11 after every run (`noackCounter_run`), and the no-ACK reset falls on
  every 11th frame of such a block (`noack_reset_iff`).  `resets` names, from the
  frames alone, the calls that reset the interface by either path.

  Ten no-ACK frames, a bus-off frame and one more no-ACK frame reset the
  interface on the last one (`noack_count_survives_busoff`): the source marks
  the zeroing of the counter as undecided ("todo wo 0?"), and the bus-off path
  returns before it.
-/
import CANopenNode.Error.Handler

set_option autoImplicit false

namespace CANopenNode.Error

open CANopenNode.Driver CO_CANinterfaceState_t

/-- The error frame a call passes, if any. -/
def ErrorhandlerCall.errorFrame? : ErrorhandlerCall → Option can_frame
  | .rxMsgError msg _ => some msg
  | _ => none

/-- The error frames of a run, oldest first. -/
def errorFrames (cs : List ErrorhandlerCall) : List can_frame :=
  cs.filterMap ErrorhandlerCall.errorFrame?

/-- The no-ACK frames that count at the end of a run: those of the maximal block
of error frames ending the run in which every frame carries `CAN_ERR_ACK` or
`CAN_ERR_BUSOFF`, bus-off frames not counted. -/
def noackBlock (cs : List ErrorhandlerCall) : Nat :=
  (((errorFrames cs).reverse.takeWhile fun m => hasAck m || hasBusoff m).filter
    fun m => hasAck m && !hasBusoff m).length

theorem errorFrames_append_singleton (cs : List ErrorhandlerCall) (c : ErrorhandlerCall) :
    errorFrames (cs ++ [c]) = errorFrames cs ++ c.errorFrame?.toList := by
  cases c <;> simp [errorFrames, ErrorhandlerCall.errorFrame?]

theorem noackBlock_append_singleton (cs : List ErrorhandlerCall) (c : ErrorhandlerCall) :
    noackBlock (cs ++ [c]) =
      match c with
      | .rxMsgError msg _ =>
        if hasBusoff msg then noackBlock cs
        else if hasAck msg then noackBlock cs + 1
        else 0
      | _ => noackBlock cs := by
  unfold noackBlock
  rw [errorFrames_append_singleton]
  cases c with
  | rxMsgError msg now =>
    simp only [ErrorhandlerCall.errorFrame?, Option.toList_some, List.reverse_append,
      List.reverse_singleton, List.singleton_append, List.takeWhile_cons]
    by_cases hb : hasBusoff msg = true
    · simp [hb]
    · by_cases ha : hasAck msg = true <;> simp [hb, ha]
  | rxMsg => simp [ErrorhandlerCall.errorFrame?]
  | txMsg now => simp [ErrorhandlerCall.errorFrame?]

/-- After every run the counter is the block's no-ACK count modulo 11. -/
theorem noackCounter_run (cs : List ErrorhandlerCall) :
    (errorhandlerRun cs).noackCounter = noackBlock cs % 11 := by
  induction cs using List.reverseRecOn with
  | nil => rfl
  | append_singleton cs c ih =>
    rw [errorhandlerRun_append_singleton, noackBlock_append_singleton]
    cases c with
    | rxMsg => simpa [ErrorhandlerCall.perform, CO_CANerror_rxMsg_noackCounter] using ih
    | txMsg now => simpa [ErrorhandlerCall.perform, CO_CANerror_txMsg_noackCounter] using ih
    | rxMsgError msg now =>
      simp only [ErrorhandlerCall.perform, CO_CANerror_rxMsgError_eq]
      by_cases hb : hasBusoff msg = true
      · simpa [hb] using ih
      · by_cases ha : hasAck msg = true
        · by_cases hc : 10 < (errorhandlerRun cs).noackCounter + 1 <;>
            simp only [hb, ha, hc, Bool.false_eq_true, if_true, if_false] <;> omega
        · simp [hb, ha]

/-- Whether the call `c`, made after the calls `pre`, resets the interface
through `CO_CANerrorResetIf`: a bus-off frame, or a no-ACK frame that finds 10
(modulo 11) no-ACK frames in its block, so that the count passes 10. -/
def resets (pre : List ErrorhandlerCall) : ErrorhandlerCall → Bool
  | .rxMsgError msg _ => hasBusoff msg || (hasAck msg && noackBlock pre % 11 == 10)
  | _ => false

/-- After a run, the error-frame path sets listen-only and stamps the reading
exactly on the calls `resets` names, and leaves both alone otherwise. -/
theorem CO_CANerror_rxMsgError_run (cs : List ErrorhandlerCall) (msg : can_frame)
    (now : timespec) :
    let h := (CO_CANerror_rxMsgError (errorhandlerRun cs) msg now).2
    if resets cs (.rxMsgError msg now) then h.listenOnly = true ∧ h.timestamp = now
    else h.listenOnly = (errorhandlerRun cs).listenOnly ∧
      h.timestamp = (errorhandlerRun cs).timestamp := by
  have h10 : 10 < (errorhandlerRun cs).noackCounter + 1 ↔ noackBlock cs % 11 = 10 := by
    rw [noackCounter_run]; omega
  simp only [resets, CO_CANerror_rxMsgError_eq, h10]
  by_cases hb : hasBusoff msg = true
  · simp [hb]
  · by_cases ha : hasAck msg = true
    · by_cases h : noackBlock cs % 11 = 10 <;> simp [hb, ha, h]
    · simp [hb, ha]

/-- The no-ACK reset, over every run: the call on `msg` resets the interface
through `CO_CANerrorNoack` exactly when `msg` carries `CAN_ERR_ACK` but not
`CAN_ERR_BUSOFF` and is the 11th, 22nd, ... no-ACK frame of the block ending at
it; a frame with neither bit ends a block, a bus-off frame does not.  The
counter never leaves `0..10`. -/
theorem noack_reset_iff (cs : List ErrorhandlerCall) (msg : can_frame) (now : timespec) :
    (((CO_CANerror_rxMsgError (errorhandlerRun cs) msg now).1 = CO_INTERFACE_LISTEN_ONLY ∧
        hasBusoff msg = false) ↔
      hasAck msg = true ∧ hasBusoff msg = false ∧
        noackBlock (cs ++ [.rxMsgError msg now]) % 11 = 0) ∧
    (errorhandlerRun cs).noackCounter ≤ 10 := by
  have hc := noackCounter_run cs
  refine ⟨?_, by omega⟩
  rw [CO_CANerror_rxMsgError_eq, noackBlock_append_singleton]
  by_cases hb : hasBusoff msg = true
  · simp [hb]
  · by_cases ha : hasAck msg = true
    · by_cases h10 : 10 < (errorhandlerRun cs).noackCounter + 1
      · simp only [hb, ha, h10, Bool.false_eq_true, if_true, if_false, true_and]
        simp only [Bool.not_eq_true] at hb
        simp only [hb, and_true, true_iff]
        omega
      · simp only [hb, ha, h10, Bool.false_eq_true, if_true, if_false, reduceCtorEq, false_and,
          false_iff, not_and, true_and]
        intro _
        omega
    · simp [hb, ha]

/-- An error frame with `CAN_ERR_FLAG` and `CAN_ERR_ACK`. -/
def ackErrorFrame : can_frame := ⟨0x20000020#32, 8#8, []⟩

/-- An error frame with `CAN_ERR_FLAG` and `CAN_ERR_BUSOFF`. -/
def busoffErrorFrame : can_frame := ⟨0x20000040#32, 8#8, []⟩

/-- Ten no-ACK frames, a bus-off frame, then one more no-ACK frame.  The
bus-off path leaves the count at 10, and the last frame, the first of its run of
frames carrying `CAN_ERR_ACK`, resets the interface through the no-ACK path. -/
theorem noack_count_survives_busoff :
    (errorhandlerRun (List.replicate 10 (.rxMsgError ackErrorFrame ⟨0, 0⟩) ++
        [.rxMsgError busoffErrorFrame ⟨0, 0⟩])).noackCounter = 10 ∧
    ((errorFrames (List.replicate 10 (.rxMsgError ackErrorFrame ⟨0, 0⟩) ++
        [.rxMsgError busoffErrorFrame ⟨0, 0⟩, .rxMsgError ackErrorFrame ⟨1, 0⟩])).reverse.takeWhile
        hasAck).length = 1 ∧
    (CO_CANerror_rxMsgError
        (errorhandlerRun (List.replicate 10 (.rxMsgError ackErrorFrame ⟨0, 0⟩) ++
          [.rxMsgError busoffErrorFrame ⟨0, 0⟩])) ackErrorFrame ⟨1, 0⟩).1 =
      CO_INTERFACE_LISTEN_ONLY ∧
    hasBusoff ackErrorFrame = false := by
  decide

end CANopenNode.Error
