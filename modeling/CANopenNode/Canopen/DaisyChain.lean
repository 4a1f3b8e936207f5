/-
  Canopen/DaisyChain.lean --- object 0x2112 (daisy chain): the SDO callback
  `Canopen::daisychain_callback`, the shift-in handler
  `Canopen::daisychain_event_callback`, and the node running both.

  Source: src/unnamed/part_000, `Canopen::daisychain_callback` (lines 526-574) and
  `Canopen::daisychain_event_callback` (700-713).  src/unnamed/part_001 has the same
  code (526-574, 780-793); its handler hands the event to `CO_sendDaisyEvent`
  instead of `CO_DaisyProducer_sendEvent`, with the same arguments.

  The daisy-chain driver and the producer are not in src/: what `daisy_read_so`
  reports (`DAISY_NEXT_OCCUPIED` or not) is an input of the request, and the calls
  on `daisy_shift_so` and on the producer are logged in order.  Every entry of
  0x2112 is one byte and `TRUE` is 1.  The SDO server is the one of
  `ObjectDictionary` (`daisyView`), with the dictionary's attributes (`writable`,
  any table, not in src/) a parameter.

  The handler counts shift-in interrupts in `shiftIn`, a `u8`, and only a write of
  0 to subindex 1 resets it: over every run of interrupts and SDO requests that does
  not reset it, it grows by one per interrupt modulo 256 and the events report the
  consecutive counts (`shiftIn_counts_events`).  The callback does not look at
  `reading` for subindex 2: once TRUE is stored there, every read of it shifts the
  chain again (`shiftOut_read_shifts`).
-/
import CANopenNode.Canopen.ObjectDictionary
import Mathlib.Data.BitVec

set_option autoImplicit false

namespace CANopenNode.Canopen

open CO_SDO_abortCode_t

/-! ## The object and the handler -/

/-- A call the daisy-chain code makes on the driver or on the producer. -/
inductive DaisyCall
  | daisy_shift_so
  /-- `CO_DaisyProducer_sendEvent(CO->DaisyProducer, shift_count, nid)` -/
  | sendEvent (shift_count nid : BitVec 8)
  deriving DecidableEq, Repr

/-- The event a call sends, if it is one. -/
def DaisyCall.event? : DaisyCall → Option (BitVec 8 × BitVec 8)
  | .daisy_shift_so => none
  | .sendEvent shift_count nid => some (shift_count, nid)

/-- `OD_daisyChain` (0x2112), the node ID the handler reads, and the calls made so
far, oldest first. -/
structure DaisyNode where
  maxSubIndex : BitVec 8
  shiftIn : BitVec 8
  shiftOut : BitVec 8
  next : BitVec 8
  OD_CANNodeID : BitVec 8
  calls : List DaisyCall
  deriving DecidableEq, Repr

/-- The variable of a subindex of 0x2112. -/
def DaisyNode.entry (n : DaisyNode) : Nat → BitVec 8
  | 0 => n.maxSubIndex
  | 1 => n.shiftIn
  | 2 => n.shiftOut
  | _ => n.next

/-- Copy the buffer into the variable of a subindex. -/
def DaisyNode.commit (n : DaisyNode) : Nat → BitVec 8 → DaisyNode
  | 0, v => { n with maxSubIndex := v }
  | 1, v => { n with shiftIn := v }
  | 2, v => { n with shiftOut := v }
  | _, v => { n with next := v }

/-- `Canopen::daisychain_callback`; `occupied` is whether `daisy_read_so` reports
`DAISY_NEXT_OCCUPIED`. -/
def daisychain_callback (occupied : Bool) (arg : CO_ODF_arg_t) (n : DaisyNode) :
    CO_SDO_abortCode_t × Nat × DaisyNode :=
  match arg.subIndex with
  | 0 => (CO_SDO_AB_NONE, arg.data, n)
  | 1 =>
    if arg.reading = true then (CO_SDO_AB_NONE, arg.data, n)
    -- an invalid write: restore the previous value
    else if arg.data ≠ 0 then (CO_SDO_AB_INVALID_VALUE, arg.stored, n)
    else (CO_SDO_AB_NONE, arg.data, n)
  | 2 =>
    (CO_SDO_AB_NONE, arg.data,
      if arg.data = 1 then { n with calls := n.calls ++ [.daisy_shift_so] } else n)
  | 3 => (CO_SDO_AB_NONE, if occupied then 1 else 0, n)
  | _ => (CO_SDO_AB_SUB_UNKNOWN, arg.data, n)

/-- `Canopen::daisychain_event_callback`: count the shift-in and send the count with
the node ID. -/
def daisychain_event_callback (n : DaisyNode) : DaisyNode :=
  let shift_count := n.shiftIn + 1
  { n with shiftIn := shift_count,
           calls := n.calls ++ [.sendEvent shift_count n.OD_CANNodeID] }

/-! ## The node under SDO requests and interrupts -/

/-- How the server sees 0x2112: its last subindex is 3, and every entry is one
byte. -/
def daisyView : ODObjectView DaisyNode :=
  ⟨3, fun n sub => (n.entry sub).toNat, fun n sub data => n.commit sub (BitVec.ofNat 8 data)⟩

/-- The SDO server's write to 0x2112. -/
def daisyWrite (writable : Nat → Bool) (n : DaisyNode) (sub : Nat) (value : BitVec 8)
    (occupied : Bool) : CO_SDO_abortCode_t × DaisyNode :=
  daisyView.writeOD writable (daisychain_callback occupied) n sub value.toNat

/-- The SDO server's read of 0x2112: the abort code, the answer and the node. -/
def daisyRead (n : DaisyNode) (sub : Nat) (occupied : Bool) :
    CO_SDO_abortCode_t × Nat × DaisyNode :=
  daisyView.readOD (daisychain_callback occupied) n sub

/-- What reaches the node: an SDO write or read of 0x2112, with what `daisy_read_so`
reports at that moment, or a shift-in interrupt of the driver. -/
inductive DaisyRequest
  | write (subIndex : Nat) (value : BitVec 8) (occupied : Bool)
  | read (subIndex : Nat) (occupied : Bool)
  | shiftIn
  deriving DecidableEq, Repr

/-- One request. -/
def DaisyNode.step (writable : Nat → Bool) (n : DaisyNode) : DaisyRequest → DaisyNode
  | .write sub value occupied => (daisyWrite writable n sub value occupied).2
  | .read sub occupied => (daisyRead n sub occupied).2.2
  | .shiftIn => daisychain_event_callback n

/-- A run of requests. -/
def DaisyNode.run (writable : Nat → Bool) (n : DaisyNode) (rs : List DaisyRequest) : DaisyNode :=
  rs.foldl (DaisyNode.step writable) n

@[simp] theorem DaisyNode.run_nil (writable : Nat → Bool) (n : DaisyNode) :
    n.run writable [] = n := rfl

@[simp] theorem DaisyNode.run_cons (writable : Nat → Bool) (n : DaisyNode) (r : DaisyRequest)
    (rs : List DaisyRequest) : n.run writable (r :: rs) = (n.step writable r).run writable rs := rfl

/-- The request that resets the shift-in counter: a write of 0 to subindex 1, if the
dictionary lets it through. -/
def DaisyRequest.resets (writable : Nat → Bool) : DaisyRequest → Bool
  | .write 1 value _ => value == 0 && writable 1
  | _ => false

/-- Whether a request is a shift-in interrupt. -/
def DaisyRequest.isShiftIn : DaisyRequest → Bool
  | .shiftIn => true
  | _ => false

/-- The calls a request makes on the driver and the producer: an event with the new
count on a shift-in, one shift of the chain on a write of TRUE to subindex 2 that
gets through or on a read of subindex 2 while it holds TRUE. -/
def DaisyRequest.emits (writable : Nat → Bool) (n : DaisyNode) : DaisyRequest → List DaisyCall
  | .shiftIn => [.sendEvent (n.shiftIn + 1) n.OD_CANNodeID]
  | .read sub _ => if sub = 2 ∧ n.shiftOut = 1 then [.daisy_shift_so] else []
  | .write sub value _ => if sub = 2 ∧ value = 1 ∧ writable 2 = true then [.daisy_shift_so] else []

/-! ## What one request does -/

theorem DaisyRequest.resets_write (writable : Nat → Bool) (sub : Nat) (value : BitVec 8)
    (occupied : Bool) :
    (DaisyRequest.write sub value occupied).resets writable = (sub == 1 && value == 0 && writable 1) := by
  match sub with
  | 0 => rfl
  | 1 => simp [DaisyRequest.resets]
  | _ + 2 => simp [DaisyRequest.resets]

@[simp] theorem DaisyNode.commit_calls (n : DaisyNode) (sub : Nat) (v : BitVec 8) :
    (n.commit sub v).calls = n.calls := by
  unfold DaisyNode.commit; split <;> rfl

@[simp] theorem DaisyNode.commit_OD_CANNodeID (n : DaisyNode) (sub : Nat) (v : BitVec 8) :
    (n.commit sub v).OD_CANNodeID = n.OD_CANNodeID := by
  unfold DaisyNode.commit; split <;> rfl

theorem DaisyNode.commit_shiftIn (n : DaisyNode) (sub : Nat) (v : BitVec 8) :
    (n.commit sub v).shiftIn = if sub = 1 then v else n.shiftIn := by
  unfold DaisyNode.commit; split <;> simp_all

theorem DaisyNode.commit_shiftOut (n : DaisyNode) (sub : Nat) (v : BitVec 8) :
    (n.commit sub v).shiftOut = if sub = 2 then v else n.shiftOut := by
  unfold DaisyNode.commit; split <;> simp_all

/-- A read changes no variable; it shifts the chain when it reads subindex 2 holding
TRUE. -/
theorem DaisyNode.step_read (writable : Nat → Bool) (n : DaisyNode) (sub : Nat) (occupied : Bool) :
    n.step writable (.read sub occupied) =
      if sub = 2 ∧ n.shiftOut = 1 then { n with calls := n.calls ++ [.daisy_shift_so] } else n := by
  simp only [DaisyNode.step, daisyRead, daisyView, ODObjectView.readOD]
  match sub with
  | 0 | 1 | 3 => rfl
  | 2 =>
    have h : n.shiftOut.toNat = 1 ↔ n.shiftOut = 1#8 := by rw [BitVec.toNat_eq]; rfl
    simp [daisychain_callback, DaisyNode.entry, h]
  | sub + 4 => simp

/-- A write: refused past subindex 3 or on a read-only entry; to subindex 1 only 0 is
taken; to subindex 2 TRUE shifts the chain; subindex 3 takes what `daisy_read_so`
reports, not the value written. -/
theorem DaisyNode.step_write (writable : Nat → Bool) (n : DaisyNode) (sub : Nat) (value : BitVec 8)
    (occupied : Bool) :
    n.step writable (.write sub value occupied) =
      if 3 < sub ∨ writable sub = false ∨ (sub = 1 ∧ value ≠ 0) then n
      else if sub = 2 then
        ((if value = 1 then { n with calls := n.calls ++ [.daisy_shift_so] } else n).commit 2 value)
      else if sub = 3 then n.commit 3 (if occupied then 1 else 0)
      else n.commit sub value := by
  simp only [DaisyNode.step, daisyWrite, daisyView, ODObjectView.writeOD]
  by_cases hw : writable sub = false
  · by_cases h3 : 3 < sub <;> simp [h3, hw]
  · match sub with
    | 0 => simp [hw, daisychain_callback]
    | 1 =>
      have h : value.toNat = 0 ↔ value = 0#8 := by rw [BitVec.toNat_eq]; rfl
      by_cases hv : value = 0#8 <;> simp [hw, daisychain_callback, h, hv]
    | 2 =>
      have h : value.toNat = 1 ↔ value = 1#8 := by rw [BitVec.toNat_eq]; rfl
      by_cases hv : value = 1#8 <;> simp [hw, daisychain_callback, h, hv]
    | 3 => cases occupied <;> simp [hw, daisychain_callback]
    | sub + 4 => simp

/-- A request makes the calls `emits` says and no others. -/
theorem DaisyNode.step_calls (writable : Nat → Bool) (n : DaisyNode) (r : DaisyRequest) :
    (n.step writable r).calls = n.calls ++ r.emits writable n := by
  cases r with
  | shiftIn => rfl
  | read sub occupied => rw [DaisyNode.step_read]; split <;> simp_all [DaisyRequest.emits]
  | write sub value occupied =>
    rw [DaisyNode.step_write]
    by_cases h2 : sub = 2
    · subst h2
      by_cases hw : writable 2 = true <;> by_cases hv : value = 1#8 <;>
        simp [hw, hv, DaisyRequest.emits]
    · split_ifs <;> simp_all [DaisyRequest.emits]

/-- One request moves the shift-in counter by one on a shift-in, sets it to 0 on a
reset and leaves it otherwise, and never changes the node ID. -/
theorem DaisyNode.step_shiftIn (writable : Nat → Bool) (n : DaisyNode) (r : DaisyRequest) :
    (n.step writable r).shiftIn =
      (if r.isShiftIn then n.shiftIn + 1 else if r.resets writable then 0 else n.shiftIn) ∧
    (n.step writable r).OD_CANNodeID = n.OD_CANNodeID := by
  cases r with
  | shiftIn => exact ⟨rfl, rfl⟩
  | read sub occupied => rw [DaisyNode.step_read]; split <;> exact ⟨rfl, rfl⟩
  | write sub value occupied =>
    rw [DaisyNode.step_write, DaisyRequest.resets_write]
    by_cases h1 : sub = 1
    · subst h1
      by_cases hv : value = 0#8 <;> cases hw : writable 1 <;>
        simp [hv, hw, DaisyRequest.isShiftIn, DaisyNode.commit]
    · split_ifs <;> simp_all [DaisyRequest.isShiftIn, DaisyNode.commit_shiftIn]

/-- One request changes what subindex 2 holds only if it is a write to it. -/
theorem DaisyNode.step_shiftOut (writable : Nat → Bool) (n : DaisyNode) (r : DaisyRequest)
    (hr : ∀ value occupied, r ≠ .write 2 value occupied) :
    (n.step writable r).shiftOut = n.shiftOut := by
  cases r with
  | shiftIn => rfl
  | read sub occupied => rw [DaisyNode.step_read]; split <;> rfl
  | write sub value occupied =>
    have h2 : sub ≠ 2 := fun h => hr value occupied (by rw [h])
    rw [DaisyNode.step_write]
    split_ifs <;> simp_all [DaisyNode.commit_shiftOut]

/-! ## The shift-in counter and the events -/

/-- Over every run of shift-in interrupts and SDO reads and writes of 0x2112, in any
order, that does not reset the counter (no write of 0 to subindex 1 gets through),
`shiftIn` grows by one per interrupt modulo 256, and the events sent during the run
are, in order, the counts `shiftIn + 1, shiftIn + 2, ...` with the node ID; a reset
sets the counter to 0 and a non-zero write to subindex 1 changes nothing. -/
theorem shiftIn_counts_events (writable : Nat → Bool) (n : DaisyNode) (rs : List DaisyRequest)
    (hrs : ∀ r ∈ rs, r.resets writable = false) :
    (n.run writable rs).shiftIn = n.shiftIn + BitVec.ofNat 8 (rs.countP DaisyRequest.isShiftIn) ∧
    (∃ out, (n.run writable rs).calls = n.calls ++ out ∧
      out.filterMap DaisyCall.event? =
        (List.range (rs.countP DaisyRequest.isShiftIn)).map
          fun i => (n.shiftIn + BitVec.ofNat 8 (i + 1), n.OD_CANNodeID)) ∧
    (writable 1 = true → ∀ occupied, (n.step writable (.write 1 0 occupied)).shiftIn = 0) ∧
    (∀ value occupied, value ≠ 0 → n.step writable (.write 1 value occupied) = n) := by
  refine ⟨?_, ?_, fun hw occupied => ?_, fun value occupied hv => ?_⟩
  · induction rs generalizing n with
    | nil => simp
    | cons r rs ih =>
      have hr := hrs r (List.mem_cons_self r rs)
      rw [DaisyNode.run_cons, ih _ fun r' h => hrs r' (List.mem_cons_of_mem r h),
        (n.step_shiftIn writable r).1, hr, List.countP_cons]
      cases r.isShiftIn
      · simp
      · simp only [if_true, Nat.add_comm _ 1, BitVec.ofNat_add, BitVec.add_assoc]; rfl
  · induction rs generalizing n with
    | nil => exact ⟨[], (List.append_nil _).symm, rfl⟩
    | cons r rs ih =>
      obtain ⟨hs, hid⟩ := n.step_shiftIn writable r
      obtain ⟨out, hc, he⟩ := ih (n.step writable r) fun r' h => hrs r' (List.mem_cons_of_mem r h)
      have hr := hrs r (List.mem_cons_self r rs)
      refine ⟨r.emits writable n ++ out,
        by rw [DaisyNode.run_cons, hc, DaisyNode.step_calls, List.append_assoc], ?_⟩
      rw [List.filterMap_append, he, hs, hid, hr, List.countP_cons]
      cases r with
      | shiftIn =>
        simp only [DaisyRequest.isShiftIn, if_true, List.range_succ_eq_map, List.map_cons,
          List.map_map]
        refine congrArg₂ List.cons rfl (List.map_congr_left fun i _ => ?_)
        simp only [Function.comp, Nat.succ_eq_add_one, Prod.mk.injEq, and_true]
        rw [BitVec.ofNat_add (i + 1), BitVec.add_assoc, BitVec.add_comm 1]
        rfl
      | read sub occupied =>
        simp only [DaisyRequest.emits]; split <;> simp [DaisyCall.event?, DaisyRequest.isShiftIn]
      | write sub value occupied =>
        simp only [DaisyRequest.emits]; split <;> simp [DaisyCall.event?, DaisyRequest.isShiftIn]
  · rw [DaisyNode.step_write, if_neg (by simp [hw]), if_neg (by decide), if_neg (by decide)]
    rfl
  · rw [DaisyNode.step_write, if_pos (.inr (.inr ⟨rfl, hv⟩))]

theorem shiftIn_counts_three :
    (∀ r ∈ [DaisyRequest.shiftIn, .read 2 false, .shiftIn, .write 2 1 true, .shiftIn],
      r.resets (fun _ => true) = false) ∧
    (DaisyNode.run (fun _ => true) ⟨3, 0xFE, 0, 0, 5, []⟩
      [.shiftIn, .read 2 false, .shiftIn, .write 2 1 true, .shiftIn]).shiftIn = 1 :=
  ⟨by decide, (shiftIn_counts_events (fun _ => true) ⟨3, 0xFE, 0, 0, 5, []⟩
      [.shiftIn, .read 2 false, .shiftIn, .write 2 1 true, .shiftIn] (by decide)).1⟩

/-! ## Shifting out -/

/-- The callback does not look at `reading` for subindex 2: over every run of
requests that writes nothing to subindex 2, the chain is shifted once for every read
of subindex 2 if it holds TRUE, and never if it does not; a write of TRUE that gets
through shifts it once and stores TRUE, so from then on every read shifts it again. -/
theorem shiftOut_read_shifts (writable : Nat → Bool) (n : DaisyNode) (rs : List DaisyRequest)
    (hrs : ∀ r ∈ rs, ∀ value occupied, r ≠ .write 2 value occupied) :
    (∃ out, (n.run writable rs).calls = n.calls ++ out ∧
      out.count .daisy_shift_so =
        if n.shiftOut = 1 then rs.countP (fun r => r matches .read 2 _) else 0) ∧
    (writable 2 = true → ∀ occupied,
      (n.step writable (.write 2 1 occupied)).shiftOut = 1 ∧
      (n.step writable (.write 2 1 occupied)).calls = n.calls ++ [.daisy_shift_so]) := by
  refine ⟨?_, fun hw occupied => ?_⟩
  · induction rs generalizing n with
    | nil => exact ⟨[], (List.append_nil _).symm, by split <;> rfl⟩
    | cons r rs ih =>
      have hr := hrs r (List.mem_cons_self r rs)
      obtain ⟨out, hc, hn⟩ := ih (n.step writable r) fun r' h => hrs r' (List.mem_cons_of_mem r h)
      refine ⟨r.emits writable n ++ out,
        by rw [DaisyNode.run_cons, hc, DaisyNode.step_calls, List.append_assoc], ?_⟩
      rw [List.count_append, hn, n.step_shiftOut writable r hr, List.countP_cons]
      cases r with
      | write sub value occupied =>
        have h2 : sub ≠ 2 := fun h => hr value occupied (by rw [h])
        split <;> simp [h2, DaisyRequest.emits]
      | read sub occupied =>
        by_cases h2 : sub = 2 <;> split <;> simp_all [DaisyRequest.emits, Nat.add_comm]
      | shiftIn => split <;> simp [DaisyRequest.emits]
  · rw [DaisyNode.step_write, if_neg (by simp [hw]), if_pos rfl, if_pos rfl]
    exact ⟨rfl, rfl⟩

theorem shiftOut_read_twice :
    (∀ r ∈ [DaisyRequest.read 2 false, .shiftIn, .read 2 true],
      ∀ value occupied, r ≠ .write 2 value occupied) ∧
    (∃ out, (DaisyNode.run (fun _ => true) ⟨3, 0, 1, 0, 5, []⟩
        [.read 2 false, .shiftIn, .read 2 true]).calls = [] ++ out ∧
      out.count .daisy_shift_so = 2) := by
  have hrs : ∀ r ∈ [DaisyRequest.read 2 false, .shiftIn, .read 2 true],
      ∀ value occupied, r ≠ .write 2 value occupied := fun r hr value occupied h => by
    simp [h] at hr
  refine ⟨hrs, ?_⟩
  obtain ⟨out, hc, hn⟩ := (shiftOut_read_shifts (fun _ => true) ⟨3, 0, 1, 0, 5, []⟩
    [.read 2 false, .shiftIn, .read 2 true] hrs).1
  exact ⟨out, hc, by rw [hn]; decide⟩

end CANopenNode.Canopen
