/-
  Driver/RxWait.lean --- `CO_CANrxWait`, the receive path of the neuberger
  FreeRTOS driver, and what it dispatches on a table built by registration.

  Source: src/stack/neuberger-socketCAN/CO_error.c, lines 630-703.

  The software filter is a linear scan that stops at the first entry whose
  `((rx_id ^ ident) & mask) == 0`; a handler is called only if that entry has
  one.  `CO_CANrxWait_rxTable` states the dispatch in terms of the calls that
  built the table: the first index in array order that *fires* decides, where a
  configured data-frame entry fires on its 11-bit mask test, an entry configured
  for RTR never fires (`rx_id` has lost the RTR bit the entry requires), and an
  entry no call configured fires on the mask `CO_CANmodule_init` left in it and
  has no handler.  The guard meant to drop extended frames tests `can_dlc`, an
  8-bit field, so it never fires (`dlc_and_CAN_EFF_FLAG`).
-/
import CANopenNode.Driver.RxTable

set_option autoImplicit false

namespace CANopenNode.Driver

open BitVec

/-- What `CO_CANrxWait` does besides returning a code. -/
inductive RxEffect
  | idle
  /-- `buffer->pFunct(buffer->object, &frame)` -/
  | call (object pFunct : Nat) (msg : can_frame)
  /-- `CO_errorReport(em, CO_EM_RXMSG_OVERFLOW, CO_EMC_CAN_OVERRUN, state)` -/
  | errorReport (state : can_state_t)
  deriving DecidableEq, Repr

/-- The filter test of one entry. -/
def rxTest (rx_id : BitVec 32) (buffer : CO_CANrx_t) : Bool :=
  (rx_id ^^^ buffer.ident) &&& buffer.mask == 0

/-- The search loop of `CO_CANrxWait`: `i` counts down from `rxSize` while
`buffer` walks up from entry `0`; the result is the entry the loop breaks at. -/
def rxSearch (rxArray : Nat → CO_CANrx_t) (rx_id : BitVec 32) : (i buffer : Nat) → Option Nat
  | 0, _ => none
  | i + 1, buffer =>
    if rxTest rx_id (rxArray buffer) then some buffer
    else rxSearch rxArray rx_id i (buffer + 1)

/-- `CO_CANrxWait`, after `can_poll` answered `poll` and `can_read` answered
`read` with `frame`. -/
def CO_CANrxWait (m : CO_CANmodule_t) (poll read : can_state_t) (frame : can_frame) :
    CO_ReturnError_t × RxEffect :=
  if poll = .CAN_ERR_TIMEOUT then (.CO_ERROR_TIMEOUT, .idle)
  else if poll ≠ .CAN_OK then (.CO_ERROR_RX_OVERFLOW, .errorReport poll)
  else if read ≠ .CAN_OK then (.CO_ERROR_RX_OVERFLOW, .errorReport read)
  else if frame.can_dlc.setWidth 32 &&& CAN_EFF_FLAG ≠ 0 then (.CO_ERROR_NO, .idle)
  else if frame.can_id &&& CAN_ERR_FLAG ≠ 0 then (.CO_ERROR_NO, .idle)
  else
    let rx_id := frame.can_id &&& CAN_SFF_MASK
    if m.useCANrxFilters then (.CO_ERROR_NO, .idle)
    else
      match rxSearch m.rxArray rx_id m.rxSize 0 with
      | some k =>
        if (m.rxArray k).pFunct ≠ 0 then
          (.CO_ERROR_NO, .call (m.rxArray k).object (m.rxArray k).pFunct frame)
        else (.CO_ERROR_NO, .idle)
      | none => (.CO_ERROR_NO, .idle)

/-- The calloc'd receive array: every entry, mask included, is zero. -/
def zeroRxArray : Nat → CO_CANrx_t := fun _ => ⟨0, 0, 0, 0⟩

/-! ## The search loop -/

/-- The loop is `List.find?` over the indices it visits, for any predicate that
agrees with the filter test there. -/
theorem rxSearch_eq_find (rxArray : Nat → CO_CANrx_t) (rx_id : BitVec 32) (p : Nat → Bool) :
    ∀ (i buffer : Nat), (∀ k, buffer ≤ k → k < buffer + i → rxTest rx_id (rxArray k) = p k) →
      rxSearch rxArray rx_id i buffer = (List.range' buffer i).find? p
  | 0, _, _ => rfl
  | i + 1, buffer, hp => by
    have hb : rxTest rx_id (rxArray buffer) = p buffer := hp buffer le_rfl (by omega)
    have ih := rxSearch_eq_find rxArray rx_id p i (buffer + 1)
      fun k h1 h2 => hp k (by omega) (by omega)
    simp only [rxSearch, List.range'_succ, List.find?_cons, hb, ih]
    cases p buffer <;> rfl

/-- `CO_CANrxWait` reads no entry at an index `≥ rxSize`. -/
theorem CO_CANrxWait_congr (m m' : CO_CANmodule_t) (hsize : m.rxSize = m'.rxSize)
    (hfilters : m.useCANrxFilters = m'.useCANrxFilters)
    (hrx : ∀ k, k < m.rxSize → m.rxArray k = m'.rxArray k)
    (poll read : can_state_t) (frame : can_frame) :
    CO_CANrxWait m poll read frame = CO_CANrxWait m' poll read frame := by
  have hsearch : ∀ rx_id, rxSearch m.rxArray rx_id m.rxSize 0 = rxSearch m'.rxArray rx_id m'.rxSize 0 := by
    intro rx_id
    rw [rxSearch_eq_find m.rxArray rx_id (fun k => rxTest rx_id (m.rxArray k)) _ _ (fun _ _ _ => rfl),
      rxSearch_eq_find m'.rxArray rx_id (fun k => rxTest rx_id (m.rxArray k)) _ _
        (fun k _ hk => (congrArg (rxTest rx_id) (hrx k (by omega))).symm), hsize]
  simp only [CO_CANrxWait, hsearch, hfilters]
  cases hk : rxSearch m'.rxArray (frame.can_id &&& CAN_SFF_MASK) m'.rxSize 0 with
  | none => rfl
  | some k =>
    have hk' : k < m.rxSize := by
      rw [rxSearch_eq_find m'.rxArray _ (fun k => rxTest _ (m'.rxArray k)) _ _ (fun _ _ _ => rfl)] at hk
      have := List.mem_of_find?_eq_some hk
      simp only [List.mem_range'_1] at this
      omega
    simp only [hrx k hk']

theorem CO_CANrxWait_congr_past_rxSize :
    (⟨zeroRxArray, 1, false⟩ : CO_CANmodule_t).rxSize =
      (⟨Function.update zeroRxArray 1 ⟨0, 0, 1, 1⟩, 1, false⟩ : CO_CANmodule_t).rxSize ∧
    (⟨zeroRxArray, 1, false⟩ : CO_CANmodule_t).useCANrxFilters =
      (⟨Function.update zeroRxArray 1 ⟨0, 0, 1, 1⟩, 1, false⟩ : CO_CANmodule_t).useCANrxFilters ∧
    (∀ k, k < (⟨zeroRxArray, 1, false⟩ : CO_CANmodule_t).rxSize →
      (⟨zeroRxArray, 1, false⟩ : CO_CANmodule_t).rxArray k =
        (⟨Function.update zeroRxArray 1 ⟨0, 0, 1, 1⟩, 1, false⟩ : CO_CANmodule_t).rxArray k) ∧
    CO_CANrxWait ⟨zeroRxArray, 1, false⟩ .CAN_OK .CAN_OK ⟨0x181#32, 8#8, []⟩ =
      CO_CANrxWait ⟨Function.update zeroRxArray 1 ⟨0, 0, 1, 1⟩, 1, false⟩ .CAN_OK .CAN_OK
        ⟨0x181#32, 8#8, []⟩ :=
  have hrx : ∀ k, k < 1 → zeroRxArray k = Function.update zeroRxArray 1 ⟨0, 0, 1, 1⟩ k :=
    fun _ hk => (Function.update_noteq (by omega) _ _).symm
  ⟨rfl, rfl, hrx, CO_CANrxWait_congr ⟨zeroRxArray, 1, false⟩
    ⟨Function.update zeroRxArray 1 ⟨0, 0, 1, 1⟩, 1, false⟩ rfl rfl hrx _ _ _⟩

/-! ## The filter test on configured entries -/

/-- A data-frame entry tests the 11 identifier bits under the registered mask. -/
theorem rxTest_rxBuffer_data (id : BitVec 32) (ident mask : BitVec 16) (object pFunct : Nat) :
    rxTest (id &&& CAN_SFF_MASK) (rxBuffer ident mask false object pFunct) =
      ((id ^^^ ident.setWidth 32) &&& mask.setWidth 32 &&& CAN_SFF_MASK == 0) := by
  have h : ((id &&& CAN_SFF_MASK) ^^^ (ident.setWidth 32 &&& CAN_SFF_MASK)) &&&
      ((mask.setWidth 32 &&& CAN_SFF_MASK) ||| CAN_EFF_FLAG ||| CAN_RTR_FLAG) =
      (id ^^^ ident.setWidth 32) &&& mask.setWidth 32 &&& CAN_SFF_MASK := by
    apply eq_of_getLsbD_eq
    intro j
    simp only [getLsbD_and, getLsbD_xor, getLsbD_or, getLsbD_CAN_SFF_MASK,
      getLsbD_CAN_EFF_FLAG, getLsbD_CAN_RTR_FLAG]
    by_cases hj : (j : Nat) < 11
    · have h1 : (j : Nat) ≠ 31 := by omega
      have h2 : (j : Nat) ≠ 30 := by omega
      simp [hj, h1, h2]
    · simp [hj]
  simp only [rxTest, rxBuffer, Bool.false_eq_true, if_false, h]

/-- An entry configured for remote requests never passes: the received
identifier is masked to 11 bits, the entry demands the RTR bit. -/
theorem rxTest_rxBuffer_rtr (id : BitVec 32) (ident mask : BitVec 16) (object pFunct : Nat) :
    rxTest (id &&& CAN_SFF_MASK) (rxBuffer ident mask true object pFunct) = false := by
  simp only [rxTest, rxBuffer, if_true, beq_eq_false_iff_ne, ne_eq]
  intro h
  have := congrArg (fun v => v.getLsbD 30) h
  simp at this

/-! ## Dispatch on a built table -/

/-- The identifier test a registration stands for:
`(id XOR ident) AND mask AND 0x7FF = 0`. -/
def RxRegistration.accepts (r : RxRegistration) (id : BitVec 32) : Bool :=
  (id ^^^ r.ident.setWidth 32) &&& r.mask.setWidth 32 &&& CAN_SFF_MASK == 0

/-- Whether entry `k` of the table built from `a` and `regs` stops the search for
the identifier `id`. -/
def firesOn (a : Nat → CO_CANrx_t) (n : Nat) (regs : List RxRegistration) (id : BitVec 32)
    (k : Nat) : Bool :=
  match lastConfig n regs k with
  | some r => !r.rtr && r.accepts id
  | none => id &&& CAN_SFF_MASK &&& (a k).mask == 0

theorem rxTest_rxTable (a : Nat → CO_CANrx_t) (n : Nat) (s : CO_ReturnError_t)
    (regs : List RxRegistration) (id : BitVec 32) {k : Nat} (hk : k < n) :
    rxTest (id &&& CAN_SFF_MASK) ((rxTable a n s regs).rxArray k) = firesOn a n regs id k := by
  rw [rxTable_rxArray, firesOn]
  cases lastConfig n regs k with
  | some r =>
    cases hr : r.rtr <;>
      simp [RxRegistration.buffer, RxRegistration.accepts, hr, rxTest_rxBuffer_data,
        rxTest_rxBuffer_rtr]
  | none => simp [hk, rxTest]

theorem lastConfig_pFunct {n : Nat} {regs : List RxRegistration} {k : Nat} {r : RxRegistration}
    (h : lastConfig n regs k = some r) : r.pFunct ≠ 0 := by
  have hmem := List.mem_of_getLast?_eq_some h
  simp only [List.mem_filter, RxRegistration.accepted, Bool.and_eq_true, bne_iff_ne] at hmem
  exact hmem.2.1.1.2

/-- `CO_CANrxWait` on any non-error frame and a table built by `CO_CANmodule_init`
and `CO_CANrxBufferInit`: the first index that fires decides, and only a
configured one has a handler to call. -/
theorem CO_CANrxWait_rxTable (a : Nat → CO_CANrx_t) (n : Nat) (s : CO_ReturnError_t)
    (regs : List RxRegistration) (frame : can_frame)
    (herr : frame.can_id &&& CAN_ERR_FLAG = 0) :
    CO_CANrxWait (rxTable a n s regs) .CAN_OK .CAN_OK frame =
      (.CO_ERROR_NO,
        match (List.range n).find? (firesOn a n regs frame.can_id) with
        | some k =>
          match lastConfig n regs k with
          | some r => .call r.object r.pFunct frame
          | none => .idle
        | none => .idle) := by
  have hsearch : rxSearch (rxTable a n s regs).rxArray (frame.can_id &&& CAN_SFF_MASK) n 0 =
      (List.range n).find? (firesOn a n regs frame.can_id) := by
    rw [List.range_eq_range']
    exact rxSearch_eq_find _ _ _ n 0 fun k _ hk => rxTest_rxTable a n s regs _ (by omega)
  simp only [CO_CANrxWait, dlc_and_CAN_EFF_FLAG, herr, rxTable_useCANrxFilters, rxTable_rxSize,
    hsearch, reduceCtorEq, if_false, ne_eq, not_true_eq_false, Bool.false_eq_true]
  split
  · rename_i k hk
    have hkn : k < n := List.mem_range.mp (List.mem_of_find?_eq_some hk)
    rw [rxTable_rxArray]
    cases hr : lastConfig n regs k with
    | some r => simp [RxRegistration.buffer, rxBuffer, lastConfig_pFunct hr]
    | none => simp [hkn]
  · rfl

/-- Only index 1 is configured, for data frame `0x181`; the zero mask left in
index 0 stops the scan there, and index 0 has no handler. -/
theorem unconfigured_slot_captures_frame :
    lastConfig 2 [⟨1, 0x181, 0x7FF, false, 1, 1⟩] 1 = some ⟨1, 0x181, 0x7FF, false, 1, 1⟩ ∧
    CO_CANrxWait (rxTable zeroRxArray 2 .CO_ERROR_NO [⟨1, 0x181, 0x7FF, false, 1, 1⟩])
      .CAN_OK .CAN_OK ⟨0x181#32, 8#8, []⟩ = (.CO_ERROR_NO, .idle) := by
  decide

/-- An extended frame whose low 11 bits are `0x181` reaches the handler
registered for standard identifier `0x181`. -/
theorem extended_frame_reaches_handler :
    CO_CANrxWait (rxTable zeroRxArray 1 .CO_ERROR_NO [⟨0, 0x181, 0x7FF, false, 1, 1⟩])
      .CAN_OK .CAN_OK ⟨0x80000181#32, 8#8, []⟩ =
      (.CO_ERROR_NO, .call 1 1 ⟨0x80000181#32, 8#8, []⟩) := by
  decide

/-- A remote request for `0x701` reaches the data-frame buffer at index 0, not
the buffer registered for remote requests at index 1. -/
theorem remote_request_reaches_data_buffer :
    CO_CANrxWait
      (rxTable zeroRxArray 2 .CO_ERROR_NO
        [⟨0, 0x701, 0x7FF, false, 1, 1⟩, ⟨1, 0x701, 0x7FF, true, 2, 2⟩])
      .CAN_OK .CAN_OK ⟨0x40000701#32, 0#8, []⟩ =
      (.CO_ERROR_NO, .call 1 1 ⟨0x40000701#32, 0#8, []⟩) := by
  decide

/-! ## Dispatch laws -/

theorem find?_range_congr {n : Nat} {p q : Nat → Bool} (h : ∀ k, k < n → p k = q k) :
    (List.range n).find? p = (List.range n).find? q := by
  cases hq : (List.range n).find? q with
  | none =>
    rw [List.find?_range_eq_none] at hq ⊢
    exact fun i hi => h i hi ▸ hq i hi
  | some i =>
    obtain ⟨h1, h2, h3⟩ := List.find?_range_eq_some.mp hq
    have hi := List.mem_range.mp h2
    exact List.find?_range_eq_some.mpr ⟨h i hi ▸ h1, h2, fun j hj => h j (by omega) ▸ h3 j hj⟩

/-- The least index whose latest configuration is for data frames and accepts `id`. -/
def firstDataMatch (n : Nat) (regs : List RxRegistration) (id : BitVec 32) : Option Nat :=
  (List.range n).find? fun k =>
    match lastConfig n regs k with
    | some r => !r.rtr && r.accepts id
    | none => false

/-- The call made by first-match dispatch over the configured data-frame entries. -/
def firstDataDispatch (n : Nat) (regs : List RxRegistration) (frame : can_frame) : RxEffect :=
  match firstDataMatch n regs frame.can_id with
  | some k =>
    match lastConfig n regs k with
    | some r => .call r.object r.pFunct frame
    | none => .idle
  | none => .idle

/-- On a table in which every index below `rxSize` has been configured, a
non-error frame goes to the least index configured for data frames whose
identifier and mask accept it, and to no handler if there is none. -/
theorem CO_CANrxWait_configured_table (a : Nat → CO_CANrx_t) (n : Nat) (s : CO_ReturnError_t)
    (regs : List RxRegistration) (frame : can_frame)
    (hfull : ∀ k, k < n → lastConfig n regs k ≠ none)
    (herr : frame.can_id &&& CAN_ERR_FLAG = 0) :
    CO_CANrxWait (rxTable a n s regs) .CAN_OK .CAN_OK frame =
      (.CO_ERROR_NO, firstDataDispatch n regs frame) := by
  have hfind : (List.range n).find? (firesOn a n regs frame.can_id) =
      firstDataMatch n regs frame.can_id := by
    refine find?_range_congr fun k hk => ?_
    unfold firesOn
    cases h : lastConfig n regs k with
    | none => exact absurd h (hfull k hk)
    | some r => rfl
  rw [CO_CANrxWait_rxTable a n s regs frame herr, hfind, firstDataDispatch]

theorem CO_CANrxWait_configured_table_two_slots :
    (∀ k, k < 2 → lastConfig 2 [⟨0, 0x181, 0x7FF, false, 1, 1⟩, ⟨1, 0x181, 0x7FF, false, 2, 2⟩] k ≠ none) ∧
    CO_CANrxWait
      (rxTable zeroRxArray 2 .CO_ERROR_NO [⟨0, 0x181, 0x7FF, false, 1, 1⟩, ⟨1, 0x181, 0x7FF, false, 2, 2⟩])
      .CAN_OK .CAN_OK ⟨0x181#32, 8#8, []⟩ =
      (.CO_ERROR_NO, firstDataDispatch 2
        [⟨0, 0x181, 0x7FF, false, 1, 1⟩, ⟨1, 0x181, 0x7FF, false, 2, 2⟩] ⟨0x181#32, 8#8, []⟩) :=
  ⟨by decide, CO_CANrxWait_configured_table _ _ _ _ _ (by decide) (by decide)⟩

/-- Every handler `CO_CANrxWait` calls on a built table is that of an index below
`rxSize` whose latest configuration is for data frames and accepts the frame's
identifier: no entry left unconfigured and no entry configured for remote requests
ever has its handler called. -/
theorem CO_CANrxWait_call_sound (a : Nat → CO_CANrx_t) (n : Nat) (s : CO_ReturnError_t)
    (regs : List RxRegistration) (frame : can_frame) (object pFunct : Nat) (msg : can_frame)
    (h : (CO_CANrxWait (rxTable a n s regs) .CAN_OK .CAN_OK frame).2 = .call object pFunct msg) :
    ∃ k r, k < n ∧ lastConfig n regs k = some r ∧ r.rtr = false ∧ r.accepts frame.can_id ∧
      object = r.object ∧ pFunct = r.pFunct ∧ msg = frame := by
  by_cases herr : frame.can_id &&& CAN_ERR_FLAG = 0
  · rw [CO_CANrxWait_rxTable a n s regs frame herr] at h
    cases hk : (List.range n).find? (firesOn a n regs frame.can_id) with
    | none => simp [hk] at h
    | some k =>
      obtain ⟨hfire, hmem, -⟩ := List.find?_range_eq_some.mp hk
      cases hr : lastConfig n regs k with
      | none => simp [hk, hr] at h
      | some r =>
        simp only [hk, hr, RxEffect.call.injEq] at h
        simp only [firesOn, hr, Bool.and_eq_true, Bool.not_eq_true'] at hfire
        exact ⟨k, r, List.mem_range.mp hmem, hr, hfire.1, hfire.2, h.1.symm, h.2.1.symm, h.2.2.symm⟩
  · simp only [CO_CANrxWait, reduceCtorEq, if_false, ne_eq, not_true_eq_false,
      dlc_and_CAN_EFF_FLAG, herr, not_false_eq_true, if_true] at h

theorem CO_CANrxWait_call_sound_data_frame :
    ∃ k r, k < 1 ∧ lastConfig 1 [⟨0, 0x181, 0x7FF, false, 1, 1⟩] k = some r ∧ r.rtr = false ∧
      r.accepts (0x181#32) ∧ 1 = r.object ∧ 1 = r.pFunct ∧
      (⟨0x181#32, 8#8, []⟩ : can_frame) = ⟨0x181#32, 8#8, []⟩ :=
  CO_CANrxWait_call_sound zeroRxArray 1 .CO_ERROR_NO [⟨0, 0x181, 0x7FF, false, 1, 1⟩]
    ⟨0x181#32, 8#8, []⟩ 1 1 ⟨0x181#32, 8#8, []⟩ (by decide)

end CANopenNode.Driver
