/-
  Error/Handler.lean --- the per-interface fault handler of the socketCAN
  driver: bus-off and no-ACK resets, listen-only mode and its 5 s dwell.

  Source: src/stack/neuberger-socketCAN/CO_error.c, lines 62-319.

  `CO_CANerrorResetIf` also takes the link down and up and drains the socket;
  those effects are outside the handler's state and are not followed here, only
  the clock reading it stores.  Every clock reading is a parameter: the
  functions that may call `clock_gettime(CLOCK_MONOTONIC)` take it as `now`.
  `tv_sec` is a signed `time_t`, an `Int` here: overflow of `tv_sec + 5` is
  undefined behaviour in C, so no reading the code can rely on wraps.

  `CO_CANerror_rxMsgError_eq` is the one closed form of the error-frame path
  that every later proof cites.
-/
import CANopenNode.Driver.Frame

set_option autoImplicit false

namespace CANopenNode.Error

open CANopenNode.Driver

/-- `struct timespec`, as `clock_gettime(CLOCK_MONOTONIC)` fills it. -/
structure timespec where
  tv_sec : Int
  tv_nsec : Int
  deriving DecidableEq, Repr

/-- `CO_CANinterfaceState_t`: what the handler tells the transmit path. -/
inductive CO_CANinterfaceState_t
  | CO_INTERFACE_ACTIVE
  | CO_INTERFACE_LISTEN_ONLY
  | CO_INTERFACE_BUS_OFF
  deriving DecidableEq, Repr

/-- `CO_CANinterfaceErrorhandler_t`, with the fields the handler's logic reads
(`fd` and `ifName` only serve the shell commands of the reset). -/
structure CO_CANinterfaceErrorhandler_t where
  noackCounter : Nat
  listenOnly : Bool
  timestamp : timespec
  deriving DecidableEq, Repr

open CO_CANinterfaceState_t

/-- Whether an error frame carries `CAN_ERR_ACK`. -/
def hasAck (msg : can_frame) : Bool := msg.can_id &&& CAN_ERR_ACK != 0

/-- Whether an error frame carries `CAN_ERR_BUSOFF`. -/
def hasBusoff (msg : can_frame) : Bool := msg.can_id &&& CAN_ERR_BUSOFF != 0

/-! ## The handler's functions -/

/-- `CO_CANerrorResetIf`: reset the interface and set it listen-only. -/
def CO_CANerrorResetIf (h : CO_CANinterfaceErrorhandler_t) (now : timespec) :
    CO_CANinterfaceState_t × CO_CANinterfaceErrorhandler_t :=
  (CO_INTERFACE_LISTEN_ONLY, { h with timestamp := now, listenOnly := true })

/-- `CO_CANerrorClearListenOnly`. -/
def CO_CANerrorClearListenOnly (h : CO_CANinterfaceErrorhandler_t) :
    CO_CANinterfaceErrorhandler_t :=
  { h with listenOnly := false, timestamp := ⟨0, 0⟩ }

/-- `CO_CANerrorBusoff`: a bus-off frame resets the interface. -/
def CO_CANerrorBusoff (h : CO_CANinterfaceErrorhandler_t) (msg : can_frame) (now : timespec) :
    CO_CANinterfaceState_t × CO_CANinterfaceErrorhandler_t :=
  if msg.can_id &&& CAN_ERR_BUSOFF ≠ 0 then CO_CANerrorResetIf h now
  else (CO_INTERFACE_ACTIVE, h)

/-- `CO_CANerrorCrtl`: controller warnings, passive and overflow states are only
logged. -/
def CO_CANerrorCrtl (h : CO_CANinterfaceErrorhandler_t) (_msg : can_frame) :
    CO_CANinterfaceState_t × CO_CANinterfaceErrorhandler_t :=
  (CO_INTERFACE_ACTIVE, h)

/-- `CO_CANerrorNoack`: count consecutive no-ACK frames, reset past 10. -/
def CO_CANerrorNoack (h : CO_CANinterfaceErrorhandler_t) (msg : can_frame) (now : timespec) :
    CO_CANinterfaceState_t × CO_CANinterfaceErrorhandler_t :=
  if msg.can_id &&& CAN_ERR_ACK ≠ 0 then
    let h := { h with noackCounter := h.noackCounter + 1 }
    if h.noackCounter > 10 then
      let (result, h) := CO_CANerrorResetIf h now
      (result, { h with noackCounter := 0 })
    else (CO_INTERFACE_ACTIVE, h)
  else (CO_INTERFACE_ACTIVE, { h with noackCounter := 0 })

/-- `CO_CANerror_init`. -/
def CO_CANerror_init : CO_CANinterfaceErrorhandler_t :=
  { noackCounter := 0, listenOnly := false, timestamp := ⟨0, 0⟩ }

/-- `CO_CANerror_rxMsg`: a received frame ends listen-only at once. -/
def CO_CANerror_rxMsg (h : CO_CANinterfaceErrorhandler_t) : CO_CANinterfaceErrorhandler_t :=
  if h.listenOnly = true then CO_CANerrorClearListenOnly h else h

/-- `CO_CANerror_txMsg`: may the stack send now? -/
def CO_CANerror_txMsg (h : CO_CANinterfaceErrorhandler_t) (now : timespec) :
    CO_CANinterfaceState_t × CO_CANinterfaceErrorhandler_t :=
  if h.listenOnly = true then
    if h.timestamp.tv_sec + 5 < now.tv_sec then (CO_INTERFACE_ACTIVE, CO_CANerrorClearListenOnly h)
    else (CO_INTERFACE_LISTEN_ONLY, h)
  else (CO_INTERFACE_ACTIVE, h)

/-- `CO_CANerror_rxMsgError`: the checks in order, the first that is not
`CO_INTERFACE_ACTIVE` answers. -/
def CO_CANerror_rxMsgError (h : CO_CANinterfaceErrorhandler_t) (msg : can_frame) (now : timespec) :
    CO_CANinterfaceState_t × CO_CANinterfaceErrorhandler_t :=
  let (result, h) := CO_CANerrorBusoff h msg now
  if result ≠ CO_INTERFACE_ACTIVE then (result, h)
  else
    let (result, h) := CO_CANerrorCrtl h msg
    if result ≠ CO_INTERFACE_ACTIVE then (result, h)
    else
      let (result, h) := CO_CANerrorNoack h msg now
      if result ≠ CO_INTERFACE_ACTIVE then (result, h)
      else (CO_INTERFACE_ACTIVE, h)

/-! ## Closed forms -/

/-- The error-frame path in one piece: a bus-off frame resets and leaves the
counter alone; otherwise a no-ACK frame counts and resets on the 11th, and any
other frame clears the count. -/
theorem CO_CANerror_rxMsgError_eq (h : CO_CANinterfaceErrorhandler_t) (msg : can_frame)
    (now : timespec) :
    CO_CANerror_rxMsgError h msg now =
      if hasBusoff msg then
        (CO_INTERFACE_LISTEN_ONLY, { h with timestamp := now, listenOnly := true })
      else if hasAck msg then
        if 10 < h.noackCounter + 1 then
          (CO_INTERFACE_LISTEN_ONLY,
            { h with timestamp := now, listenOnly := true, noackCounter := 0 })
        else (CO_INTERFACE_ACTIVE, { h with noackCounter := h.noackCounter + 1 })
      else (CO_INTERFACE_ACTIVE, { h with noackCounter := 0 }) := by
  unfold CO_CANerror_rxMsgError CO_CANerrorBusoff CO_CANerrorCrtl CO_CANerrorNoack
    CO_CANerrorResetIf hasAck hasBusoff
  by_cases hb : msg.can_id &&& CAN_ERR_BUSOFF = 0#32
  · by_cases ha : msg.can_id &&& CAN_ERR_ACK = 0#32
    · simp [hb, ha]
    · by_cases hc : 10 < h.noackCounter + 1 <;> simp [hb, ha, hc]
  · simp [hb]

theorem CO_CANerror_txMsg_noackCounter (h : CO_CANinterfaceErrorhandler_t) (now : timespec) :
    (CO_CANerror_txMsg h now).2.noackCounter = h.noackCounter := by
  unfold CO_CANerror_txMsg CO_CANerrorClearListenOnly
  split_ifs <;> rfl

theorem CO_CANerror_rxMsg_noackCounter (h : CO_CANinterfaceErrorhandler_t) :
    (CO_CANerror_rxMsg h).noackCounter = h.noackCounter := by
  unfold CO_CANerror_rxMsg CO_CANerrorClearListenOnly
  split_ifs <;> rfl

theorem CO_CANerror_rxMsg_listenOnly (h : CO_CANinterfaceErrorhandler_t) :
    (CO_CANerror_rxMsg h).listenOnly = false := by
  unfold CO_CANerror_rxMsg CO_CANerrorClearListenOnly
  split_ifs with hl
  · rfl
  · simpa using hl

/-! ## Runs -/

/-- One call on the handler, with the clock reading it would take. -/
inductive ErrorhandlerCall
  | rxMsg
  | txMsg (now : timespec)
  | rxMsgError (msg : can_frame) (now : timespec)
  deriving DecidableEq, Repr

/-- Perform one call: the handler after it.  What the call returns is read off
the function itself. -/
def ErrorhandlerCall.perform :
    ErrorhandlerCall → CO_CANinterfaceErrorhandler_t → CO_CANinterfaceErrorhandler_t
  | .rxMsg, h => CO_CANerror_rxMsg h
  | .txMsg now, h => (CO_CANerror_txMsg h now).2
  | .rxMsgError msg now, h => (CO_CANerror_rxMsgError h msg now).2

/-- The handler after the calls `cs`, started by `CO_CANerror_init`. -/
def errorhandlerRun (cs : List ErrorhandlerCall) : CO_CANinterfaceErrorhandler_t :=
  cs.foldl (fun h c => c.perform h) CO_CANerror_init

@[simp] theorem errorhandlerRun_nil : errorhandlerRun [] = CO_CANerror_init := rfl

@[simp] theorem errorhandlerRun_append_singleton (cs : List ErrorhandlerCall) (c : ErrorhandlerCall) :
    errorhandlerRun (cs ++ [c]) = c.perform (errorhandlerRun cs) := by
  simp [errorhandlerRun, List.foldl_append]

end CANopenNode.Error
