/-
  Canopen/Registrations.lean --- what canopen.cpp registers with the stack and what
  reaches the application's queues: the object callbacks, the `od_event`
  subscriptions and the NMT subscription, across communication resets.

  Source: src/unnamed/part_000, `Canopen::nmt_state_callback` (lines 623-626),
  `Canopen::generic_write_callback` (635-656), `Canopen::set_callback` (664-668),
  `Canopen::nmt_register` (800-804), `Canopen::nmt_relay_event` (806-814),
  `Canopen::od_event` (1110-1114), `Canopen::co_start` (1492-1546), `Canopen::init`
  (1553-1590), `Canopen::deinit` (1592-1609) and `Canopen::process` (1611-1648);
  src/unnamed/part_001, `Canopen::nmt_state_callback` (697-706),
  `Canopen::generic_write_callback` (715-736), `Canopen::set_callback` (744-748),
  `Canopen::od_event` (1187-1191), `Canopen::nmt_event` (1193-1197), `Canopen::init`
  (1201-1352), `Canopen::deinit` (1365-1378) and `Canopen::process` (1380-1417).

  The stack is not in src/.  It is modelled as the code uses it, and as the comment
  in the first revision's `co_start` says ("Durch Reset Communication werden alle
  Callbacks im Stack gelöscht"):
  * `CO_OD_configure` puts a function and its `object` at an index that the object
    dictionary has (`has`), over whatever was there, and does nothing elsewhere;
  * `CO_delete` frees the stack; `CO_new` and `CO_CANopenInit` make one with no
    object callback and no NMT callback;
  * the SDO server calls the callback at an index on every access that passed its
    own checks, and the NMT calls `nmt_state_callback`, if registered, on a change
    of state; both only while a stack exists;
  * `CO_NMT_initCallback` only stores the callback: it does not call it at once
    with the current state.  The events a subscriber hears
    (`nmt_subscription_survives_reset`, `nmt_subscription_lost_at_reset`) rest on
    this: with an immediate call, each registration would add the state of that
    moment.
  `xQueueSend` is logged; whether a message fits into its queue is the queue's
  matter.  What the class's own callbacks do is modelled in their modules; none of
  them sends to a queue.  A failed `init` returns before its first registration:
  whether or not it has freed the stack, no callback of this code is registered,
  and the model records the stack as gone.  With no stack, `threadMain_process`
  reports no reset.  The run lies within one power-on, so the static
  `nmt_event_queue` is never cleared.  The header that declares `nmt_event_t` is
  not in src/: the cast in `nmt_state_callback` is taken to map each NMT state to
  the event of its name.

  An `od_event` subscription lasts until the next communication reset, in both
  revisions: until then each write to the object sends one event and each read
  none (`od_event_delivers_writes`).  The reset puts the class's callbacks back,
  over any subscription made on their objects, and no access sends an event after
  it until the next `od_event` (`reset_ends_od_events`).  The first revision's NMT
  subscription survives every communication reset, which the subscriber sees as
  INITIALIZING and then RESET_COMMUNICATION (`nmt_subscription_survives_reset`).
  The second revision does not register `nmt_state_callback` again, so the
  subscriber hears nothing after the first reset, though the queue is still set
  (`nmt_subscription_lost_at_reset`).
-/
import CANopenNode.Canopen.Tasks

set_option autoImplicit false

namespace CANopenNode.Canopen

/-! ## Queues and messages -/

/-- `QueueHandle_t`: a FreeRTOS queue, by its handle; `0` is `NULL`. -/
abbrev QueueHandle_t := Nat

/-- `CO_NMT_internalState_t`: the states the NMT hands to its callback. -/
inductive CO_NMT_internalState_t
  | CO_NMT_INITIALIZING
  | CO_NMT_PRE_OPERATIONAL
  | CO_NMT_OPERATIONAL
  | CO_NMT_STOPPED
  deriving DecidableEq, Repr

/-- `nmt_event_t`: what the application's NMT queue receives. -/
inductive nmt_event_t
  | INITIALIZING
  | PRE_OPERATIONAL
  | OPERATIONAL
  | STOPPED
  | RESET_COMMUNICATION
  deriving DecidableEq, Repr

/-- `static_cast<nmt_event_t>(state)`. -/
def nmt_event_t.ofState : CO_NMT_internalState_t → nmt_event_t
  | .CO_NMT_INITIALIZING => .INITIALIZING
  | .CO_NMT_PRE_OPERATIONAL => .PRE_OPERATIONAL
  | .CO_NMT_OPERATIONAL => .OPERATIONAL
  | .CO_NMT_STOPPED => .STOPPED

/-- `od_event_t`: the object `generic_write_callback` reports written. -/
structure od_event_t where
  index : Nat
  subindex : Nat
  deriving DecidableEq, Repr

/-- A message handed to `xQueueSend`. -/
inductive QueueMsg
  | od (event : od_event_t)
  | nmt (event : nmt_event_t)
  deriving DecidableEq, Repr

/-- The NMT events of a log of sends, with their queues. -/
def nmtSent : List (QueueHandle_t × QueueMsg) → List (QueueHandle_t × nmt_event_t) :=
  List.filterMap fun
    | (q, .nmt e) => some (q, e)
    | _ => none

/-- The object events of a log of sends, with their queues. -/
def odSent : List (QueueHandle_t × QueueMsg) → List (QueueHandle_t × od_event_t) :=
  List.filterMap fun
    | (q, .od e) => some (q, e)
    | _ => none

@[simp] theorem nmtSent_nil : nmtSent [] = [] := rfl

@[simp] theorem nmtSent_append (l l' : List (QueueHandle_t × QueueMsg)) :
    nmtSent (l ++ l') = nmtSent l ++ nmtSent l' := List.filterMap_append ..

@[simp] theorem nmtSent_nmt (q : QueueHandle_t) (e : nmt_event_t)
    (l : List (QueueHandle_t × QueueMsg)) :
    nmtSent ((q, .nmt e) :: l) = (q, e) :: nmtSent l := rfl

@[simp] theorem nmtSent_od (q : QueueHandle_t) (e : od_event_t)
    (l : List (QueueHandle_t × QueueMsg)) :
    nmtSent ((q, .od e) :: l) = nmtSent l := rfl

@[simp] theorem odSent_append (l l' : List (QueueHandle_t × QueueMsg)) :
    odSent (l ++ l') = odSent l ++ odSent l' := List.filterMap_append ..

@[simp] theorem odSent_nil : odSent [] = [] := rfl

@[simp] theorem odSent_nmt (q : QueueHandle_t) (e : nmt_event_t)
    (l : List (QueueHandle_t × QueueMsg)) :
    odSent ((q, .nmt e) :: l) = odSent l := rfl

@[simp] theorem odSent_od (q : QueueHandle_t) (e : od_event_t)
    (l : List (QueueHandle_t × QueueMsg)) :
    odSent ((q, .od e) :: l) = (q, e) :: odSent l := rfl

/-! ## The stack's registrations -/

/-- The class's object callbacks, which `set_callback` registers through their
wrappers. -/
inductive CanopenCallback
  | store_parameters_callback
  | restore_default_parameters_callback
  | cob_id_timestamp_callback
  | program_control_callback
  | temperature_callback
  | voltage_callback
  | can_runtime_info_callback
  | daisychain_callback
  | serial_number_callback
  deriving DecidableEq, Repr

/-- What `CO_OD_configure` keeps at an index: a callback of the class, whose
`object` is the class, or `generic_write_callback`, whose `object` is a queue. -/
inductive CO_OD_extension_t
  | canopen (pODFunc : CanopenCallback)
  | generic_write_callback (object : QueueHandle_t)
  deriving DecidableEq, Repr

/-- The stack, as far as this code registers with it. -/
structure CO_t where
  /-- `CO->SDO[0]->ODExtensions`: what is registered at each index -/
  ODExtensions : Nat → Option CO_OD_extension_t
  /-- `CO->NMT->pFunctNMT` is `nmt_state_callback` -/
  pFunctNMT : Bool

/-- The stack that `CO_new` and `CO_CANopenInit` leave: no callback anywhere. -/
def CO_t.fresh : CO_t := ⟨fun _ => none, false⟩

/-- `CO_OD_configure(CO->SDO[0], index, pODFunc, object, NULL, 0)`. -/
def CO_t.CO_OD_configure (has : Nat → Bool) (co : CO_t) (index : Nat) (ext : CO_OD_extension_t) :
    CO_t :=
  if has index then
    { co with ODExtensions := fun i => if i = index then some ext else co.ODExtensions i }
  else co

/-- The stack after the `set_callback` calls `regs`, made in order on `co`. -/
def CO_t.setCallbacks (has : Nat → Bool) (co : CO_t) (regs : List (Nat × CanopenCallback)) : CO_t :=
  regs.foldl (fun co c => co.CO_OD_configure has c.1 (.canopen c.2)) co

/-- The stack, the static `nmt_event_queue`, the sends so far and whether
`globals.request_reboot()` has been called. -/
structure Registry where
  /-- `CO`; `none` after `CO_delete` until the next `init` -/
  CO : Option CO_t
  nmt_event_queue : QueueHandle_t
  /-- the `xQueueSend` calls, oldest first -/
  sent : List (QueueHandle_t × QueueMsg)
  reboot : Bool

section Functions

variable (has : Nat → Bool)

/-- `xQueueSend(queue, &msg, 0)`. -/
def Registry.xQueueSend (r : Registry) (queue : QueueHandle_t) (msg : QueueMsg) : Registry :=
  { r with sent := r.sent ++ [(queue, msg)] }

/-- `Canopen::set_callback`: the callback, with the class as `object`. -/
def Registry.set_callback (r : Registry) (obj_dict_id : Nat) (pODFunc : CanopenCallback) :
    Registry :=
  { r with CO := r.CO.map fun co => co.CO_OD_configure has obj_dict_id (.canopen pODFunc) }

/-- `Canopen::od_event`: `generic_write_callback`, with the queue as `object`. -/
def Registry.od_event (r : Registry) (index : Nat) (event_queue : QueueHandle_t) : Registry :=
  { r with
    CO := r.CO.map fun co => co.CO_OD_configure has index (.generic_write_callback event_queue) }

/-- `Canopen::generic_write_callback`: on a write, send the index and subindex to
the queue held as `object`; on a read, nothing.  It returns `CO_SDO_AB_NONE`. -/
def Registry.generic_write_callback (r : Registry) (object : QueueHandle_t) (reading : Bool)
    (index subIndex : Nat) : Registry :=
  if reading = true then r else r.xQueueSend object (.od ⟨index, subIndex⟩)

/-- `Canopen::nmt_relay_event`: send to `nmt_event_queue` if there is one. -/
def Registry.nmt_relay_event (r : Registry) (event : nmt_event_t) : Registry :=
  if r.nmt_event_queue ≠ 0 then r.xQueueSend r.nmt_event_queue (.nmt event) else r

/-- `Canopen::nmt_state_callback`: the first revision relays the cast state; the
second sends it to `nmt_event_queue`, if there is one, itself. -/
def Registry.nmt_state_callback (r : Registry) (state : CO_NMT_internalState_t) : Registry :=
  r.nmt_relay_event (.ofState state)

/-- `Canopen::nmt_register` (`Canopen::nmt_event` in the second revision, with the
same body): keep the queue and register `nmt_state_callback`. -/
def Registry.nmt_register (r : Registry) (event_queue : QueueHandle_t) : Registry :=
  { r with nmt_event_queue := event_queue, CO := r.CO.map fun co => { co with pFunctNMT := true } }

/-- The SDO server's access to `index`, `subIndex`: it calls what is registered
there. -/
def Registry.sdoAccess (r : Registry) (index subIndex : Nat) (reading : Bool) : Registry :=
  match r.CO.bind (·.ODExtensions index) with
  | some (.generic_write_callback object) => r.generic_write_callback object reading index subIndex
  | _ => r

/-- The NMT's change to `state`: it calls `nmt_state_callback` if registered. -/
def Registry.nmtChange (r : Registry) (state : CO_NMT_internalState_t) : Registry :=
  match r.CO with
  | some co => if co.pFunctNMT then r.nmt_state_callback state else r
  | none => r

/-- `Canopen::process`, from the reset `threadMain_process` reports; the same in
both revisions, over the revision's `deinit` and `init`.  `ok` is whether `init`
returns `CO_ERROR_NO`. -/
def Registry.process (deinit : Registry → Registry) (init : Registry → Bool → Registry)
    (r : Registry) (reset : CO_NMT_reset_cmd_t) (ok : Bool) : Registry :=
  match r.CO with
  | none => r
  | some _ =>
    match reset with
    | .CO_RESET_NOT => r
    | .CO_RESET_COMM =>
      let r := init (deinit r) ok
      if ok then r else { r with reboot := true }
    | .CO_RESET_APP => { r with reboot := true }
    | .CO_RESET_QUIT => deinit r

/-- What happens to the registrations. -/
inductive RegEvent
  /-- the application calls `od_event(index, event_queue)` -/
  | od_event (index : Nat) (event_queue : QueueHandle_t)
  /-- the application subscribes a queue to the NMT's state -/
  | nmt_register (event_queue : QueueHandle_t)
  /-- an SDO access that passed the server's checks -/
  | sdo (index subIndex : Nat) (reading : Bool)
  /-- the NMT changes state -/
  | nmtState (state : CO_NMT_internalState_t)
  /-- `Canopen::process`, with the reset it is told and whether `init` succeeds -/
  | process (reset : CO_NMT_reset_cmd_t) (ok : Bool)
  deriving DecidableEq, Repr

/-- One event, for the revision whose `deinit` and `init` are given. -/
def Registry.step (deinit : Registry → Registry) (init : Registry → Bool → Registry)
    (r : Registry) :
    RegEvent → Registry
  | .od_event index event_queue => r.od_event has index event_queue
  | .nmt_register event_queue => r.nmt_register event_queue
  | .sdo index subIndex reading => r.sdoAccess index subIndex reading
  | .nmtState state => r.nmtChange state
  | .process reset ok => r.process deinit init reset ok

/-- A run of events. -/
def Registry.run (deinit : Registry → Registry) (init : Registry → Bool → Registry) (r : Registry)
    (es : List RegEvent) : Registry :=
  es.foldl (Registry.step has deinit init) r

namespace Part000

/-- The `set_callback` calls of `Canopen::co_start`, in order. -/
def co_start_set_callbacks : List (Nat × CanopenCallback) :=
  [(0x1010, .store_parameters_callback), (0x1011, .restore_default_parameters_callback),
    (0x1012, .cob_id_timestamp_callback), (0x1F51, .program_control_callback),
    (0x2108, .temperature_callback), (0x2109, .voltage_callback),
    (0x2110, .can_runtime_info_callback), (0x2112, .daisychain_callback),
    (0x5000, .serial_number_callback)]

/-- `Canopen::deinit`, on the registrations: `nmt_relay_event(INITIALIZING)`, then
`CO_delete`. -/
def deinit (r : Registry) : Registry :=
  { r.nmt_relay_event .INITIALIZING with CO := none }

/-- `Canopen::init` with `co_init` and `co_start`, on the registrations: a new stack
with the class's callbacks and, if a queue is set, `nmt_register` and
`nmt_relay_event(RESET_COMMUNICATION)`. -/
def init (r : Registry) (ok : Bool) : Registry :=
  if ok then
    let r := co_start_set_callbacks.foldl (fun r c => r.set_callback has c.1 c.2)
      { r with CO := some .fresh }
    if r.nmt_event_queue ≠ 0 then
      (r.nmt_register r.nmt_event_queue).nmt_relay_event .RESET_COMMUNICATION
    else r
  else { r with CO := none }

/-- A run of the first revision. -/
def run (r : Registry) (es : List RegEvent) : Registry := Registry.run has deinit (init has) r es

end Part000

namespace Part001

/-- The `set_callback` calls of `Canopen::init` of this revision, in order. -/
def init_set_callbacks : List (Nat × CanopenCallback) :=
  [(0x1010, .store_parameters_callback), (0x1011, .restore_default_parameters_callback),
    (0x1012, .cob_id_timestamp_callback), (0x1F51, .program_control_callback),
    (0x2108, .temperature_callback), (0x2109, .voltage_callback),
    (0x2110, .can_runtime_info_callback), (0x2112, .daisychain_callback)]

/-- `Canopen::deinit` of this revision, on the registrations: `CO_delete`. -/
def deinit (r : Registry) : Registry := { r with CO := none }

/-- `Canopen::init` of this revision, on the registrations: a new stack with the
class's callbacks. -/
def init (r : Registry) (ok : Bool) : Registry :=
  if ok then
    init_set_callbacks.foldl (fun r c => r.set_callback has c.1 c.2) { r with CO := some .fresh }
  else { r with CO := none }

/-- A run of the second revision. -/
def run (r : Registry) (es : List RegEvent) : Registry := Registry.run has deinit (init has) r es

end Part001

end Functions

/-! ## The stack after registrations -/

section Stack

variable (has : Nat → Bool)

@[simp] theorem CO_OD_configure_pFunctNMT (co : CO_t) (index : Nat) (ext : CO_OD_extension_t) :
    (co.CO_OD_configure has index ext).pFunctNMT = co.pFunctNMT := by
  unfold CO_t.CO_OD_configure; split <;> rfl

theorem CO_OD_configure_ODExtensions (co : CO_t) (index : Nat) (ext : CO_OD_extension_t) (i : Nat) :
    (co.CO_OD_configure has index ext).ODExtensions i =
      if has index = true ∧ i = index then some ext else co.ODExtensions i := by
  unfold CO_t.CO_OD_configure
  by_cases h : has index = true <;> by_cases hi : i = index <;> simp [h, hi]

@[simp] theorem setCallbacks_pFunctNMT (co : CO_t) (regs : List (Nat × CanopenCallback)) :
    (co.setCallbacks has regs).pFunctNMT = co.pFunctNMT := by
  induction regs generalizing co with
  | nil => rfl
  | cons c regs ih => exact (ih _).trans (CO_OD_configure_pFunctNMT has co c.1 _)

/-- `set_callback` calls leave an index none of them names as it was. -/
theorem setCallbacks_of_not_mem (co : CO_t) (regs : List (Nat × CanopenCallback)) (i : Nat)
    (hi : i ∉ regs.map Prod.fst) :
    (co.setCallbacks has regs).ODExtensions i = co.ODExtensions i := by
  induction regs generalizing co with
  | nil => rfl
  | cons c regs ih =>
    simp only [List.map_cons, List.mem_cons, not_or] at hi
    rw [CO_t.setCallbacks, List.foldl_cons, ← CO_t.setCallbacks, ih _ hi.2,
      CO_OD_configure_ODExtensions, if_neg fun h => hi.1 h.2]

/-- After `set_callback` calls for distinct indices, each index the object dictionary
has holds its callback. -/
theorem setCallbacks_of_mem (co : CO_t) (regs : List (Nat × CanopenCallback))
    (hregs : (regs.map Prod.fst).Nodup) (c : Nat × CanopenCallback) (hc : c ∈ regs)
    (hhas : has c.1 = true) :
    (co.setCallbacks has regs).ODExtensions c.1 = some (.canopen c.2) := by
  induction regs generalizing co with
  | nil => cases hc
  | cons d regs ih =>
    rw [List.map_cons, List.nodup_cons] at hregs
    rw [CO_t.setCallbacks, List.foldl_cons, ← CO_t.setCallbacks]
    rcases List.mem_cons.mp hc with rfl | hc
    · rw [setCallbacks_of_not_mem has _ regs _ hregs.1, CO_OD_configure_ODExtensions,
        if_pos ⟨hhas, rfl⟩]
    · exact ih _ hregs.2 hc

/-- A stack with no `generic_write_callback` registered. -/
def CO_t.NoOdEvents (co : CO_t) : Prop :=
  ∀ i q, co.ODExtensions i ≠ some (.generic_write_callback q)

/-- `set_callback` registers no `generic_write_callback`. -/
theorem setCallbacks_noOdEvents (co : CO_t) (regs : List (Nat × CanopenCallback))
    (h : co.NoOdEvents) :
    (co.setCallbacks has regs).NoOdEvents := by
  induction regs generalizing co with
  | nil => exact h
  | cons c regs ih =>
    refine ih _ fun i q => ?_
    rw [CO_OD_configure_ODExtensions]
    split
    · simp
    · exact h i q

theorem fresh_noOdEvents : CO_t.fresh.NoOdEvents := fun _ _ => nofun

/-- The registry-level `set_callback` calls act on the stack only. -/
theorem foldl_set_callback (regs : List (Nat × CanopenCallback)) (r : Registry) :
    regs.foldl (fun r c => r.set_callback has c.1 c.2) r =
      { r with CO := r.CO.map fun co => co.setCallbacks has regs } := by
  induction regs generalizing r with
  | nil => cases r with | mk CO _ _ _ => cases CO <;> rfl
  | cons c regs ih =>
    rw [List.foldl_cons, ih]
    cases r with | mk CO _ _ _ => cases CO <;> rfl

end Stack

/-! ## What one event does -/

/-- Whether the event subscribes a queue to the NMT. -/
def RegEvent.isSubscribe : RegEvent → Bool
  | .nmt_register _ => true
  | _ => false

/-- Whether the event is `od_event` on any object. -/
def RegEvent.isOdEvent : RegEvent → Bool
  | .od_event _ _ => true
  | _ => false

/-- Whether the event is `od_event` on `index`. -/
def RegEvent.odEventAt (index : Nat) : RegEvent → Bool
  | .od_event i _ => i == index
  | _ => false

/-- Whether the event deletes the stack: a communication reset or `CO_RESET_QUIT`. -/
def RegEvent.restartsStack : RegEvent → Bool
  | .process .CO_RESET_COMM _ => true
  | .process .CO_RESET_QUIT _ => true
  | _ => false

/-- Whether the event leaves no stack: `CO_RESET_QUIT`, or a communication reset whose
`init` fails. -/
def RegEvent.stopsStack : RegEvent → Bool
  | .process .CO_RESET_COMM ok => !ok
  | .process .CO_RESET_QUIT _ => true
  | _ => false

/-- The subindex of a write to `index`. -/
def RegEvent.writeAt (index : Nat) : RegEvent → Option Nat
  | .sdo i subIndex false => if i = index then some subIndex else none
  | _ => none

/-- The NMT state an event reports. -/
def RegEvent.nmtEvents : RegEvent → List nmt_event_t
  | .nmtState state => [.ofState state]
  | _ => []

@[simp] theorem generic_write_callback_CO (r : Registry) (q : QueueHandle_t) (reading : Bool)
    (index subIndex : Nat) : (r.generic_write_callback q reading index subIndex).CO = r.CO := by
  unfold Registry.generic_write_callback; split <;> rfl

@[simp] theorem generic_write_callback_nmt_event_queue (r : Registry) (q : QueueHandle_t)
    (reading : Bool) (index subIndex : Nat) :
    (r.generic_write_callback q reading index subIndex).nmt_event_queue = r.nmt_event_queue := by
  unfold Registry.generic_write_callback; split <;> rfl

theorem generic_write_callback_sent (r : Registry) (q : QueueHandle_t) (reading : Bool)
    (index subIndex : Nat) :
    (r.generic_write_callback q reading index subIndex).sent =
      r.sent ++ if reading = true then [] else [(q, .od ⟨index, subIndex⟩)] := by
  unfold Registry.generic_write_callback; split <;> simp_all [Registry.xQueueSend]

@[simp] theorem sdoAccess_CO (r : Registry) (index subIndex : Nat) (reading : Bool) :
    (r.sdoAccess index subIndex reading).CO = r.CO := by
  unfold Registry.sdoAccess; split <;> simp

@[simp] theorem sdoAccess_nmt_event_queue (r : Registry) (index subIndex : Nat) (reading : Bool) :
    (r.sdoAccess index subIndex reading).nmt_event_queue = r.nmt_event_queue := by
  unfold Registry.sdoAccess; split <;> simp

@[simp] theorem nmtSent_sdoAccess (r : Registry) (index subIndex : Nat) (reading : Bool) :
    nmtSent (r.sdoAccess index subIndex reading).sent = nmtSent r.sent := by
  unfold Registry.sdoAccess; split
  · rw [generic_write_callback_sent]; split <;> simp
  · rfl

/-- Where no `generic_write_callback` is registered, an access sends nothing. -/
theorem sdoAccess_of_not_generic (r : Registry) (index subIndex : Nat) (reading : Bool)
    (h : ∀ q, r.CO.bind (·.ODExtensions index) ≠ some (.generic_write_callback q)) :
    r.sdoAccess index subIndex reading = r := by
  unfold Registry.sdoAccess; split
  · exact absurd ‹_› (h _)
  · rfl

/-- A subscribed object: a write sends its event to the queue, a read nothing. -/
theorem sdoAccess_of_generic (r : Registry) (index subIndex : Nat) (reading : Bool)
    (q : QueueHandle_t)
    (h : r.CO.bind (·.ODExtensions index) = some (.generic_write_callback q)) :
    r.sdoAccess index subIndex reading = r.generic_write_callback q reading index subIndex := by
  unfold Registry.sdoAccess; rw [h]

@[simp] theorem nmtChange_CO (r : Registry) (state : CO_NMT_internalState_t) :
    (r.nmtChange state).CO = r.CO := by
  simp only [Registry.nmtChange, Registry.nmt_state_callback, Registry.nmt_relay_event]
  split
  · split <;> (try split) <;> rfl
  · rfl

@[simp] theorem nmtChange_nmt_event_queue (r : Registry) (state : CO_NMT_internalState_t) :
    (r.nmtChange state).nmt_event_queue = r.nmt_event_queue := by
  simp only [Registry.nmtChange, Registry.nmt_state_callback, Registry.nmt_relay_event]
  split
  · split <;> (try split) <;> rfl
  · rfl

@[simp] theorem odSent_nmtChange (r : Registry) (state : CO_NMT_internalState_t) :
    odSent (r.nmtChange state).sent = odSent r.sent := by
  simp only [Registry.nmtChange, Registry.nmt_state_callback, Registry.nmt_relay_event]
  split
  · split <;> (try split) <;> simp [Registry.xQueueSend]
  · rfl

section Steps

variable (has : Nat → Bool) (deinit : Registry → Registry) (init : Registry → Bool → Registry)

/-- `nmt_event_queue` is `q`, and a stack exists with `nmt_state_callback` registered. -/
def NmtSubscribed (q : QueueHandle_t) (r : Registry) : Prop :=
  r.nmt_event_queue = q ∧ ∃ co, r.CO = some co ∧ co.pFunctNMT = true

/-- The stack, if any, has no NMT callback. -/
def NmtUnregistered (r : Registry) : Prop := ∀ co, r.CO = some co → co.pFunctNMT = false

/-- An event that neither subscribes nor deletes the stack keeps a subscription, and
hands the subscribed queue the state it reports. -/
theorem step_nmtSubscribed {q : QueueHandle_t} (hq : q ≠ 0) {r : Registry} (hr : NmtSubscribed q r)
    (e : RegEvent) (hs : e.isSubscribe = false) (hd : e.restartsStack = false) :
    NmtSubscribed q (r.step has deinit init e) ∧
      nmtSent (r.step has deinit init e).sent = nmtSent r.sent ++ e.nmtEvents.map (q, ·) := by
  obtain ⟨rfl, co, hco, hp⟩ := hr
  cases e with
  | od_event index event_queue =>
    exact ⟨⟨rfl, co.CO_OD_configure has index (.generic_write_callback event_queue),
      by simp [Registry.step, Registry.od_event, hco], by simp [hp]⟩, by
      simp [Registry.step, Registry.od_event, RegEvent.nmtEvents]⟩
  | nmt_register => cases hs
  | sdo index subIndex reading =>
    exact ⟨⟨by simp [Registry.step], co, by simp [Registry.step, hco], hp⟩, by
      simp [Registry.step, RegEvent.nmtEvents]⟩
  | nmtState state =>
    simp [Registry.step, Registry.nmtChange, hco, hp, Registry.nmt_state_callback,
      Registry.nmt_relay_event, hq, Registry.xQueueSend, RegEvent.nmtEvents, NmtSubscribed]
  | process reset ok =>
    cases reset <;>
      simp_all [Registry.step, Registry.process, RegEvent.restartsStack, RegEvent.nmtEvents,
        NmtSubscribed]

/-- An event that subscribes no queue keeps the stack without NMT callback, and sends
no NMT event, if `deinit` and `init` send none and register none. -/
theorem step_nmtUnregistered
    (hdeinit : ∀ r, NmtUnregistered (deinit r) ∧ nmtSent (deinit r).sent = nmtSent r.sent)
    (hinit : ∀ r ok, NmtUnregistered (init r ok) ∧ nmtSent (init r ok).sent = nmtSent r.sent)
    {r : Registry} (hr : NmtUnregistered r) (e : RegEvent) (hs : e.isSubscribe = false) :
    NmtUnregistered (r.step has deinit init e) ∧
      nmtSent (r.step has deinit init e).sent = nmtSent r.sent := by
  cases e with
  | od_event index event_queue =>
    refine ⟨fun co h => ?_, rfl⟩
    cases hco : r.CO with
    | none => simp [Registry.step, Registry.od_event, hco] at h
    | some co' =>
      simp only [Registry.step, Registry.od_event, hco, Option.map_some', Option.some.injEq] at h
      rw [← h, CO_OD_configure_pFunctNMT, hr co' hco]
  | nmt_register => cases hs
  | sdo index subIndex reading => exact ⟨fun co h => hr co (by simpa [Registry.step] using h), by
      simp [Registry.step]⟩
  | nmtState state =>
    simp only [Registry.step, Registry.nmtChange]
    split
    · rw [if_neg (by simp [hr _ ‹_›])]; exact ⟨hr, rfl⟩
    · exact ⟨hr, rfl⟩
  | process reset ok =>
    simp only [Registry.step]
    unfold Registry.process
    split
    · exact ⟨hr, rfl⟩
    · cases reset with
      | CO_RESET_NOT => exact ⟨hr, rfl⟩
      | CO_RESET_COMM =>
        obtain ⟨h1, h2⟩ := hinit (deinit r) ok
        dsimp only
        split <;> exact ⟨h1, h2.trans (hdeinit r).2⟩
      | CO_RESET_APP => exact ⟨hr, rfl⟩
      | CO_RESET_QUIT => exact hdeinit r

/-- No `generic_write_callback` is registered in the stack, if any. -/
def NoOdSubscription (r : Registry) : Prop := ∀ co, r.CO = some co → co.NoOdEvents

/-- An event that is no `od_event` keeps every object unsubscribed and sends no object
event, if `deinit` and `init` register no subscription and send no object event. -/
theorem step_noOdSubscription
    (hdeinit : ∀ r, NoOdSubscription (deinit r) ∧ odSent (deinit r).sent = odSent r.sent)
    (hinit : ∀ r ok, NoOdSubscription (init r ok) ∧ odSent (init r ok).sent = odSent r.sent)
    {r : Registry} (hr : NoOdSubscription r) (e : RegEvent) (he : e.isOdEvent = false) :
    NoOdSubscription (r.step has deinit init e) ∧
      odSent (r.step has deinit init e).sent = odSent r.sent := by
  cases e with
  | od_event => cases he
  | nmt_register event_queue =>
    refine ⟨fun co h => ?_, rfl⟩
    cases hco : r.CO with
    | none => simp [Registry.step, Registry.nmt_register, hco] at h
    | some co' =>
      simp only [Registry.step, Registry.nmt_register, hco, Option.map_some', Option.some.injEq]
        at h
      exact h ▸ hr co' hco
  | sdo index subIndex reading =>
    rw [Registry.step, sdoAccess_of_not_generic]
    · exact ⟨hr, rfl⟩
    · intro q h
      cases hco : r.CO with
      | none => simp [hco] at h
      | some co => exact hr co hco index q (by simpa [hco] using h)
  | nmtState state =>
    exact ⟨fun co h => hr co (by simpa [Registry.step] using h), by simp [Registry.step]⟩
  | process reset ok =>
    simp only [Registry.step]
    unfold Registry.process
    split
    · exact ⟨hr, rfl⟩
    · cases reset with
      | CO_RESET_NOT => exact ⟨hr, rfl⟩
      | CO_RESET_COMM =>
        obtain ⟨h1, h2⟩ := hinit (deinit r) ok
        dsimp only
        split <;> exact ⟨h1, h2.trans (hdeinit r).2⟩
      | CO_RESET_APP => exact ⟨hr, rfl⟩
      | CO_RESET_QUIT => exact hdeinit r

/-- `generic_write_callback` for `q` is registered at `index`. -/
def OdSubscribed (index : Nat) (q : QueueHandle_t) (r : Registry) : Prop :=
  r.CO.bind (·.ODExtensions index) = some (.generic_write_callback q)

/-- An event that neither deletes the stack nor calls `od_event` on `index` keeps the
subscription at `index`, and sends `q` the event of a write to `index`, and no other
event about `index` to any queue. -/
theorem step_odSubscribed {index : Nat} {q : QueueHandle_t} {r : Registry}
    (hr : OdSubscribed index q r)
    (e : RegEvent) (hd : e.restartsStack = false) (ho : e.odEventAt index = false) :
    OdSubscribed index q (r.step has deinit init e) ∧
      (odSent (r.step has deinit init e).sent).filter (·.2.index == index) =
        (odSent r.sent).filter (·.2.index == index) ++
          (e.writeAt index).toList.map fun s => (q, ⟨index, s⟩) := by
  cases e with
  | od_event i event_queue =>
    have hi : index ≠ i := fun h => by simp [RegEvent.odEventAt, h] at ho
    refine ⟨?_, by simp [Registry.step, Registry.od_event, RegEvent.writeAt]⟩
    unfold OdSubscribed at hr ⊢
    cases hco : r.CO with
    | none => simp [hco] at hr
    | some co =>
      simp only [hco, Option.some_bind] at hr
      simp [Registry.step, Registry.od_event, hco, CO_OD_configure_ODExtensions, hi, hr]
  | nmt_register event_queue =>
    refine ⟨?_, by simp [Registry.step, Registry.nmt_register, RegEvent.writeAt]⟩
    unfold OdSubscribed at hr ⊢
    cases hco : r.CO with
    | none => simp [hco] at hr
    | some co => simpa [Registry.step, Registry.nmt_register, hco] using hr
  | sdo i subIndex reading =>
    refine ⟨by simpa [OdSubscribed, Registry.step] using hr, ?_⟩
    simp only [Registry.step]
    by_cases hi : i = index
    · subst hi
      rw [sdoAccess_of_generic r i subIndex reading q hr, generic_write_callback_sent]
      cases reading <;> simp [RegEvent.writeAt]
    · rw [show (RegEvent.sdo i subIndex reading).writeAt index = none by
        cases reading <;> simp [RegEvent.writeAt, hi]]
      cases h : r.CO.bind (·.ODExtensions i) with
      | some ext =>
        cases ext with
        | generic_write_callback q' =>
          rw [sdoAccess_of_generic r i subIndex reading q' h, generic_write_callback_sent]
          split <;> simp [hi]
        | canopen f => rw [sdoAccess_of_not_generic r i subIndex reading (by simp [h])]; simp
      | none => rw [sdoAccess_of_not_generic r i subIndex reading (by simp [h])]; simp
  | nmtState state =>
    exact ⟨by simpa [OdSubscribed, Registry.step] using hr,
      by simp [Registry.step, RegEvent.writeAt]⟩
  | process reset ok =>
    cases reset <;> simp_all [Registry.step, Registry.process, RegEvent.restartsStack,
      RegEvent.writeAt, OdSubscribed] <;> split <;> simp_all

end Steps

/-! ## Runs -/

section Runs

variable (has : Nat → Bool) (deinit : Registry → Registry) (init : Registry → Bool → Registry)

@[simp] theorem Registry.run_nil (r : Registry) : r.run has deinit init [] = r := rfl

@[simp] theorem Registry.run_cons (r : Registry) (e : RegEvent) (es : List RegEvent) :
    r.run has deinit init (e :: es) = (r.step has deinit init e).run has deinit init es := rfl

/-- From a stack without NMT callback, a run with no new subscription sends no NMT
event, if `deinit` and `init` send and register none. -/
theorem run_nmtUnregistered
    (hdeinit : ∀ r, NmtUnregistered (deinit r) ∧ nmtSent (deinit r).sent = nmtSent r.sent)
    (hinit : ∀ r ok, NmtUnregistered (init r ok) ∧ nmtSent (init r ok).sent = nmtSent r.sent)
    (rs : List RegEvent) {r : Registry} (hr : NmtUnregistered r)
    (hrs : ∀ e ∈ rs, e.isSubscribe = false) :
    nmtSent (r.run has deinit init rs).sent = nmtSent r.sent := by
  induction rs generalizing r with
  | nil => rfl
  | cons e rs ih =>
    obtain ⟨hr', hsent⟩ := step_nmtUnregistered has deinit init hdeinit hinit hr e
      (hrs e (List.mem_cons_self e rs))
    rw [Registry.run_cons, ih hr' fun e' h => hrs e' (List.mem_cons_of_mem e h), hsent]

/-- With no subscription anywhere, a run with no `od_event` sends no object event, if
`deinit` and `init` subscribe nothing. -/
theorem run_noOdSubscription
    (hdeinit : ∀ r, NoOdSubscription (deinit r) ∧ odSent (deinit r).sent = odSent r.sent)
    (hinit : ∀ r ok, NoOdSubscription (init r ok) ∧ odSent (init r ok).sent = odSent r.sent)
    (rs : List RegEvent) {r : Registry} (hr : NoOdSubscription r)
    (hrs : ∀ e ∈ rs, e.isOdEvent = false) :
    odSent (r.run has deinit init rs).sent = odSent r.sent := by
  induction rs generalizing r with
  | nil => rfl
  | cons e rs ih =>
    obtain ⟨hr', hsent⟩ := step_noOdSubscription has deinit init hdeinit hinit hr e
      (hrs e (List.mem_cons_self e rs))
    rw [Registry.run_cons, ih hr' fun e' h => hrs e' (List.mem_cons_of_mem e h), hsent]

/-- A successful communication reset of a running stack leaves no subscription and
sends no object event, if `deinit` and `init` do neither. -/
theorem step_reset_noOdSubscription
    (hdeinit : ∀ r, NoOdSubscription (deinit r) ∧ odSent (deinit r).sent = odSent r.sent)
    (hinit : ∀ r ok, NoOdSubscription (init r ok) ∧ odSent (init r ok).sent = odSent r.sent)
    {r : Registry} (hr : r.CO.isSome = true) :
    NoOdSubscription (r.step has deinit init (.process .CO_RESET_COMM true)) ∧
      odSent (r.step has deinit init (.process .CO_RESET_COMM true)).sent = odSent r.sent := by
  obtain ⟨co, hco⟩ := Option.isSome_iff_exists.mp hr
  simp only [Registry.step, Registry.process, hco]
  exact ⟨(hinit _ true).1, (hinit _ true).2.trans (hdeinit r).2⟩

/-- Over a run with no stack deletion and no other `od_event` on `index`, the queue
subscribed at `index` gets one event per write to it, in order, and no queue gets
any other event about `index`. -/
theorem run_odSubscribed {index : Nat} {q : QueueHandle_t} (rs : List RegEvent) {r : Registry}
    (hr : OdSubscribed index q r)
    (hrs : ∀ e ∈ rs, e.restartsStack = false ∧ e.odEventAt index = false) :
    (odSent (r.run has deinit init rs).sent).filter (·.2.index == index) =
      (odSent r.sent).filter (·.2.index == index) ++
        (rs.filterMap (·.writeAt index)).map fun s => (q, ⟨index, s⟩) := by
  induction rs generalizing r with
  | nil => simp
  | cons e rs ih =>
    obtain ⟨hd, ho⟩ := hrs e (List.mem_cons_self e rs)
    obtain ⟨hr', hsent⟩ := step_odSubscribed has deinit init hr e hd ho
    rw [Registry.run_cons, ih hr' fun e' h => hrs e' (List.mem_cons_of_mem e h), hsent,
      List.filterMap_cons]
    cases e.writeAt index <;> simp

end Runs

/-! ## The two revisions' `deinit` and `init` -/

section Revisions

variable (has : Nat → Bool)

theorem Part000.init_true (r : Registry) :
    Part000.init has r true =
      if r.nmt_event_queue ≠ 0 then
        { r with
          CO := some { CO_t.fresh.setCallbacks has Part000.co_start_set_callbacks with
            pFunctNMT := true },
                 sent := r.sent ++ [(r.nmt_event_queue, .nmt .RESET_COMMUNICATION)] }
      else { r with CO := some (CO_t.fresh.setCallbacks has Part000.co_start_set_callbacks) } := by
  by_cases hq : r.nmt_event_queue = 0 <;>
    simp [Part000.init, foldl_set_callback, hq, Registry.nmt_register, Registry.nmt_relay_event,
      Registry.xQueueSend]

theorem Part001.init_true (r : Registry) :
    Part001.init has r true =
      { r with CO := some (CO_t.fresh.setCallbacks has Part001.init_set_callbacks) } := by
  simp [Part001.init, foldl_set_callback]

theorem Part000.deinit_noOdSubscription (r : Registry) :
    NoOdSubscription (Part000.deinit r) ∧ odSent (Part000.deinit r).sent = odSent r.sent := by
  refine ⟨fun _ h => (nomatch h), ?_⟩
  simp only [Part000.deinit, Registry.nmt_relay_event]
  split <;> simp [Registry.xQueueSend]

theorem Part000.init_noOdSubscription (r : Registry) (ok : Bool) :
    NoOdSubscription (Part000.init has r ok) ∧
      odSent (Part000.init has r ok).sent = odSent r.sent := by
  cases ok with
  | false => exact ⟨fun _ h => (nomatch h), rfl⟩
  | true =>
    have h := setCallbacks_noOdEvents has CO_t.fresh Part000.co_start_set_callbacks fresh_noOdEvents
    rw [Part000.init_true]
    split
    · exact ⟨fun co hco => by cases hco; exact h, by simp⟩
    · exact ⟨fun co hco => by cases hco; exact h, rfl⟩

theorem Part001.deinit_noOdSubscription (r : Registry) :
    NoOdSubscription (Part001.deinit r) ∧ odSent (Part001.deinit r).sent = odSent r.sent :=
  ⟨fun _ h => (nomatch h), rfl⟩

theorem Part001.init_noOdSubscription (r : Registry) (ok : Bool) :
    NoOdSubscription (Part001.init has r ok) ∧
      odSent (Part001.init has r ok).sent = odSent r.sent := by
  cases ok with
  | false => exact ⟨fun _ h => (nomatch h), rfl⟩
  | true =>
    rw [Part001.init_true]
    exact ⟨fun co hco => by
      cases hco; exact setCallbacks_noOdEvents has CO_t.fresh _ fresh_noOdEvents, rfl⟩

theorem Part001.deinit_nmtUnregistered (r : Registry) :
    NmtUnregistered (Part001.deinit r) ∧ nmtSent (Part001.deinit r).sent = nmtSent r.sent :=
  ⟨fun _ h => (nomatch h), rfl⟩

theorem Part001.init_nmtUnregistered (r : Registry) (ok : Bool) :
    NmtUnregistered (Part001.init has r ok) ∧
      nmtSent (Part001.init has r ok).sent = nmtSent r.sent := by
  cases ok with
  | false => exact ⟨fun _ h => (nomatch h), rfl⟩
  | true =>
    rw [Part001.init_true]
    exact ⟨fun co hco => by cases hco; simp [CO_t.fresh], rfl⟩

end Revisions

/-! ## Object subscriptions across a reset -/

section OdEvents

variable (has : Nat → Bool)

/-- `od_event(index, q)` on an object the dictionary has, with a stack: after it,
until a reset deletes the stack or `od_event` is called on `index` again, in both
revisions, `q` gets one event for each write to `index`, in order and with its
subindex, none for a read, and no queue gets any other event about `index`. -/
theorem od_event_delivers_writes (r : Registry) (hr : r.CO.isSome = true) (index : Nat)
    (hi : has index = true) (q : QueueHandle_t) (rs : List RegEvent)
    (hrs : ∀ e ∈ rs, e.restartsStack = false ∧ e.odEventAt index = false) :
    (odSent (Part000.run has r (.od_event index q :: rs)).sent).filter (·.2.index == index) =
        (odSent r.sent).filter (·.2.index == index) ++
          (rs.filterMap (·.writeAt index)).map (fun s => (q, ⟨index, s⟩)) ∧
    (odSent (Part001.run has r (.od_event index q :: rs)).sent).filter (·.2.index == index) =
        (odSent r.sent).filter (·.2.index == index) ++
          (rs.filterMap (·.writeAt index)).map (fun s => (q, ⟨index, s⟩)) := by
  have hsub : ∀ deinit init, OdSubscribed index q (r.step has deinit init (.od_event index q)) := by
    intro deinit init
    obtain ⟨co, hco⟩ := Option.isSome_iff_exists.mp hr
    simp [OdSubscribed, Registry.step, Registry.od_event, hco, CO_OD_configure_ODExtensions, hi]
  exact ⟨run_odSubscribed has _ _ rs (hsub _ _) hrs, run_odSubscribed has _ _ rs (hsub _ _) hrs⟩

theorem od_event_delivers_two_writes :
    (some CO_t.fresh).isSome = true ∧ (fun _ => true : Nat → Bool) 0x2000 = true ∧
    (∀ e ∈ [RegEvent.sdo 0x2000 1 false, .sdo 0x2000 2 true, .nmtState .CO_NMT_OPERATIONAL,
        .sdo 0x2001 0 false, .od_event 0x2001 9, .sdo 0x2000 3 false],
      e.restartsStack = false ∧ e.odEventAt 0x2000 = false) ∧
    (odSent (Part001.run (fun _ => true) ⟨some CO_t.fresh, 0, [], false⟩
        [.od_event 0x2000 4, .sdo 0x2000 1 false, .sdo 0x2000 2 true, .nmtState .CO_NMT_OPERATIONAL,
          .sdo 0x2001 0 false, .od_event 0x2001 9, .sdo 0x2000 3 false]).sent).filter
      (·.2.index == 0x2000) = [(4, ⟨0x2000, 1⟩), (4, ⟨0x2000, 3⟩)] := by
  refine ⟨rfl, rfl, by decide, ?_⟩
  rw [(od_event_delivers_writes (fun _ => true) ⟨some CO_t.fresh, 0, [], false⟩ rfl 0x2000 rfl 4
    [.sdo 0x2000 1 false, .sdo 0x2000 2 true, .nmtState .CO_NMT_OPERATIONAL, .sdo 0x2001 0 false,
      .od_event 0x2001 9, .sdo 0x2000 3 false] (by decide)).2]
  rfl

/-- A communication reset whose `init` succeeds puts each of the class's callbacks
back at its object, over any `od_event` made there, in both revisions; and from the
reset on, until the next `od_event`, no queue gets any object event. -/
theorem reset_ends_od_events (r : Registry) (hr : r.CO.isSome = true) (post : List RegEvent)
    (hpost : ∀ e ∈ post, e.isOdEvent = false) :
    odSent (Part000.run has r (.process .CO_RESET_COMM true :: post)).sent = odSent r.sent ∧
    odSent (Part001.run has r (.process .CO_RESET_COMM true :: post)).sent = odSent r.sent ∧
    (∀ c ∈ Part000.co_start_set_callbacks, has c.1 = true →
      (Part000.run has r [.process .CO_RESET_COMM true]).CO.bind (·.ODExtensions c.1) =
        some (.canopen c.2)) ∧
    (∀ c ∈ Part001.init_set_callbacks, has c.1 = true →
      (Part001.run has r [.process .CO_RESET_COMM true]).CO.bind (·.ODExtensions c.1) =
        some (.canopen c.2)) := by
  obtain ⟨co, hco⟩ := Option.isSome_iff_exists.mp hr
  have h0 : ∀ c ∈ Part000.co_start_set_callbacks, has c.1 = true →
      (CO_t.fresh.setCallbacks has Part000.co_start_set_callbacks).ODExtensions c.1 =
        some (.canopen c.2) :=
    setCallbacks_of_mem has _ _ (by decide)
  have h1 : ∀ c ∈ Part001.init_set_callbacks, has c.1 = true →
      (CO_t.fresh.setCallbacks has Part001.init_set_callbacks).ODExtensions c.1 =
        some (.canopen c.2) :=
    setCallbacks_of_mem has _ _ (by decide)
  have hs₀ := step_reset_noOdSubscription has _ _ Part000.deinit_noOdSubscription
    (Part000.init_noOdSubscription has) hr
  have hs₁ := step_reset_noOdSubscription has _ _ Part001.deinit_noOdSubscription
    (Part001.init_noOdSubscription has) hr
  refine ⟨?_, ?_, fun c hc hh => ?_, fun c hc hh => ?_⟩
  · rw [Part000.run, Registry.run_cons, run_noOdSubscription has _ _ Part000.deinit_noOdSubscription
      (Part000.init_noOdSubscription has) post hs₀.1 hpost, hs₀.2]
  · rw [Part001.run, Registry.run_cons, run_noOdSubscription has _ _ Part001.deinit_noOdSubscription
      (Part001.init_noOdSubscription has) post hs₁.1 hpost, hs₁.2]
  · simp only [Part000.run, Registry.run_cons, Registry.run_nil, Registry.step, Registry.process,
      hco,
      if_true, Part000.init_true]
    split <;> simp [h0 c hc hh]
  · simp [Part001.run, Registry.step, Registry.process, hco, Part001.init_true, h1 c hc hh]

theorem reset_ends_daisy_chain_subscription :
    (some ⟨fun i => if i = 0x2112 then some (.generic_write_callback 3) else none, false⟩ :
      Option CO_t).isSome = true ∧
    (∀ e ∈ [RegEvent.sdo 0x2112 2 false, .nmt_register 5], e.isOdEvent = false) ∧
    odSent (Part000.run (fun _ => true)
      ⟨some ⟨fun i => if i = 0x2112 then some (.generic_write_callback 3) else none, false⟩, 0, [],
        false⟩
      [.process .CO_RESET_COMM true, .sdo 0x2112 2 false, .nmt_register 5]).sent = [] :=
  ⟨rfl, by decide, (reset_ends_od_events (fun _ => true)
    ⟨some ⟨fun i => if i = 0x2112 then some (.generic_write_callback 3) else none, false⟩, 0, [],
      false⟩
    rfl [.sdo 0x2112 2 false, .nmt_register 5] (by decide)).1⟩

end OdEvents

/-! ## The NMT subscription across resets -/

section Nmt

variable (has : Nat → Bool)

/-- The NMT events the first revision hands a subscribed queue for an event: a
communication reset relays INITIALIZING from `deinit` and RESET_COMMUNICATION from
`co_start`. -/
def Part000.nmtEvents : RegEvent → List nmt_event_t
  | .process .CO_RESET_COMM _ => [.INITIALIZING, .RESET_COMMUNICATION]
  | e => e.nmtEvents

/-- In the first revision an event that neither subscribes nor leaves the stack
deleted keeps a subscription and hands the queue its events. -/
theorem Part000.nmtSubscribed_step {q : QueueHandle_t} (hq : q ≠ 0) {r : Registry}
    (hr : NmtSubscribed q r) (e : RegEvent) (hs : e.isSubscribe = false)
    (hd : e.stopsStack = false) :
    NmtSubscribed q (r.step has Part000.deinit (Part000.init has) e) ∧
      nmtSent (r.step has Part000.deinit (Part000.init has) e).sent =
        nmtSent r.sent ++ (Part000.nmtEvents e).map (q, ·) := by
  by_cases he : e = .process .CO_RESET_COMM true
  · subst he
    obtain ⟨rfl, co, hco, -⟩ := hr
    simp [Registry.step, Registry.process, hco, Part000.deinit, Registry.nmt_relay_event, hq,
      Registry.xQueueSend, Part000.init_true, NmtSubscribed, Part000.nmtEvents]
  · have hr' : e.restartsStack = false ∧ Part000.nmtEvents e = e.nmtEvents := by
      cases e with
      | process reset ok =>
        cases reset <;> cases ok <;>
          simp_all [RegEvent.stopsStack, RegEvent.restartsStack, Part000.nmtEvents]
      | _ => exact ⟨rfl, rfl⟩
    rw [hr'.2]
    exact step_nmtSubscribed has _ _ hq hr e hs hr'.1

/-- In the first revision an NMT subscription lasts: over every run that subscribes
no other queue and in which the stack stays (every communication reset's `init`
succeeds, no `CO_RESET_QUIT`), the queue hears, in order, every state change, and
INITIALIZING then RESET_COMMUNICATION for every communication reset, and it is still
subscribed at the end. -/
theorem nmt_subscription_survives_reset (q : QueueHandle_t) (hq : q ≠ 0) (r : Registry)
    (hr : NmtSubscribed q r) (rs : List RegEvent)
    (hrs : ∀ e ∈ rs, e.isSubscribe = false ∧ e.stopsStack = false) :
    NmtSubscribed q (Part000.run has r rs) ∧
      nmtSent (Part000.run has r rs).sent =
        nmtSent r.sent ++ (rs.flatMap Part000.nmtEvents).map (q, ·) := by
  induction rs generalizing r with
  | nil => simpa [Part000.run] using hr
  | cons e rs ih =>
    obtain ⟨hs, hd⟩ := hrs e (List.mem_cons_self e rs)
    obtain ⟨hr', hsent⟩ := Part000.nmtSubscribed_step has hq hr e hs hd
    obtain ⟨h1, h2⟩ := ih _ hr' fun e' h => hrs e' (List.mem_cons_of_mem e h)
    exact ⟨h1, by simp only [Part000.run] at h2 ⊢; simp [h2, hsent]⟩

theorem nmt_subscription_survives_one_reset :
    NmtSubscribed 7 ⟨some ⟨fun _ => none, true⟩, 7, [], false⟩ ∧
    (∀ e ∈ [RegEvent.nmtState .CO_NMT_OPERATIONAL, .process .CO_RESET_COMM true,
        .nmtState .CO_NMT_PRE_OPERATIONAL], e.isSubscribe = false ∧ e.stopsStack = false) ∧
    nmtSent (Part000.run (fun _ => true) ⟨some ⟨fun _ => none, true⟩, 7, [], false⟩
        [.nmtState .CO_NMT_OPERATIONAL, .process .CO_RESET_COMM true,
          .nmtState .CO_NMT_PRE_OPERATIONAL]).sent =
      [(7, .OPERATIONAL), (7, .INITIALIZING), (7, .RESET_COMMUNICATION),
        (7, .PRE_OPERATIONAL)] := by
  have hr : NmtSubscribed 7 ⟨some ⟨fun _ => none, true⟩, 7, [], false⟩ := ⟨rfl, _, rfl, rfl⟩
  refine ⟨hr, by decide, ?_⟩
  rw [(nmt_subscription_survives_reset (fun _ => true) 7 (by decide) _ hr
    [.nmtState .CO_NMT_OPERATIONAL, .process .CO_RESET_COMM true, .nmtState .CO_NMT_PRE_OPERATIONAL]
    (by decide)).2]
  rfl

/-- A reset that deletes the stack, in the second revision, leaves no NMT callback
and sends no NMT event. -/
theorem Part001.step_restart_nmtUnregistered {r : Registry} (hr : r.CO.isSome = true) (e : RegEvent)
    (hd : e.restartsStack = true) :
    NmtUnregistered (r.step has Part001.deinit (Part001.init has) e) ∧
      nmtSent (r.step has Part001.deinit (Part001.init has) e).sent = nmtSent r.sent := by
  obtain ⟨co, hco⟩ := Option.isSome_iff_exists.mp hr
  cases e with
  | process reset ok =>
    cases reset with
    | CO_RESET_COMM =>
      simp only [Registry.step, Registry.process, hco]
      obtain ⟨h1, h2⟩ := Part001.init_nmtUnregistered has (Part001.deinit r) ok
      split <;> exact ⟨h1, h2⟩
    | CO_RESET_QUIT =>
      simp only [Registry.step, Registry.process, hco]
      exact Part001.deinit_nmtUnregistered r
    | _ => cases hd
  | _ => cases hd

/-- Only a subscription changes `nmt_event_queue`. -/
theorem Part001.run_nmt_event_queue (rs : List RegEvent) (r : Registry)
    (hrs : ∀ e ∈ rs, e.isSubscribe = false) :
    (Part001.run has r rs).nmt_event_queue = r.nmt_event_queue := by
  induction rs generalizing r with
  | nil => rfl
  | cons e rs ih =>
    rw [Part001.run, Registry.run_cons, ← Part001.run,
      ih _ fun e' h => hrs e' (List.mem_cons_of_mem e h)]
    have hs := hrs e (List.mem_cons_self e rs)
    cases e with
    | nmt_register => cases hs
    | process reset ok =>
      simp only [Registry.step, Registry.process]
      split
      · rfl
      · cases reset <;> cases ok <;> simp [Part001.init, Part001.deinit, foldl_set_callback]
    | od_event => rfl
    | sdo => simp [Registry.step]
    | nmtState => simp [Registry.step]

/-- In the second revision an NMT subscription ends at the first reset that deletes
the stack: over every run that subscribes no other queue, the queue hears the state
changes before that reset, in order, and nothing after it, though `nmt_event_queue`
still holds it. -/
theorem nmt_subscription_lost_at_reset (q : QueueHandle_t) (hq : q ≠ 0) (r : Registry)
    (hr : NmtSubscribed q r) (rs : List RegEvent) (hrs : ∀ e ∈ rs, e.isSubscribe = false) :
    nmtSent (Part001.run has r rs).sent =
        nmtSent r.sent ++
          ((rs.takeWhile (!·.restartsStack)).flatMap RegEvent.nmtEvents).map (q, ·) ∧
    (Part001.run has r rs).nmt_event_queue = q := by
  refine ⟨?_, (Part001.run_nmt_event_queue has rs r hrs).trans hr.1⟩
  induction rs generalizing r with
  | nil => simp [Part001.run]
  | cons e rs ih =>
    have hs := hrs e (List.mem_cons_self e rs)
    have hrs' : ∀ e' ∈ rs, e'.isSubscribe = false := fun e' h => hrs e' (List.mem_cons_of_mem e h)
    rw [Part001.run, Registry.run_cons, ← Part001.run]
    cases hd : e.restartsStack with
    | false =>
      obtain ⟨hr', hsent⟩ := step_nmtSubscribed has _ _ hq hr e hs hd
      rw [ih _ hr' hrs', hsent, List.takeWhile_cons_of_pos (by simp [hd])]
      simp
    | true =>
      obtain ⟨co, hco, -⟩ := hr.2
      obtain ⟨hu, hsent⟩ := Part001.step_restart_nmtUnregistered has
        (Option.isSome_iff_exists.mpr ⟨co, hco⟩) e hd
      rw [Part001.run, run_nmtUnregistered has _ _ Part001.deinit_nmtUnregistered
        (Part001.init_nmtUnregistered has) rs hu hrs', hsent,
        List.takeWhile_cons_of_neg (by simp [hd])]
      simp

theorem nmt_subscription_lost_at_one_reset :
    NmtSubscribed 7 ⟨some ⟨fun _ => none, true⟩, 7, [], false⟩ ∧
    (∀ e ∈ [RegEvent.nmtState .CO_NMT_OPERATIONAL, .process .CO_RESET_COMM true,
        .nmtState .CO_NMT_PRE_OPERATIONAL], e.isSubscribe = false) ∧
    nmtSent (Part001.run (fun _ => true) ⟨some ⟨fun _ => none, true⟩, 7, [], false⟩
        [.nmtState .CO_NMT_OPERATIONAL, .process .CO_RESET_COMM true,
          .nmtState .CO_NMT_PRE_OPERATIONAL]).sent = [(7, .OPERATIONAL)] := by
  have hr : NmtSubscribed 7 ⟨some ⟨fun _ => none, true⟩, 7, [], false⟩ := ⟨rfl, _, rfl, rfl⟩
  refine ⟨hr, by decide, ?_⟩
  rw [(nmt_subscription_lost_at_reset (fun _ => true) 7 (by decide) _ hr
    [.nmtState .CO_NMT_OPERATIONAL, .process .CO_RESET_COMM true, .nmtState .CO_NMT_PRE_OPERATIONAL]
    (by decide)).1]
  rfl

end Nmt

end CANopenNode.Canopen
