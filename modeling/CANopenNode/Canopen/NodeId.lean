/-
  Canopen/NodeId.lean --- the node ID: where `Canopen::init` takes it from, and
  how the LSS "store configuration" callback and the command line store it.

  Source: src/unnamed/part_000, `Canopen::store_lss_config_callback` (lines
  722-754), `Canopen::od_set_defaults` (1337), `Canopen::od_load_start` (1365-1368),
  `Canopen::lss_check` (1406-1424), `Canopen::lss_nid_assignment` (1467-1490),
  `Canopen::init` (1553-1578) and the `-n` option of `Canopen::cmd_terminal`
  (1681-1686); src/unnamed/part_001, `Canopen::od_set_defaults` (678),
  `Canopen::store_lss_config_callback` (802-819), `Canopen::init` (1201-1262, and its
  "Get Node ID" loop 1294-1304) and the `-a` option of `Canopen::cmd_terminal`
  (1450-1455).

  The state is `OD_CANNodeID` and the node ID in the COMMUNICATION record of
  non-volatile storage: `storage.save(COMMUNICATION)` copies the first into the
  second when it succeeds, and a successful `storage.load(COMMUNICATION)` copies the
  second into the first.  What the storage answers is an input of each event.
  `CO_LSS_NODE_ID_VALID` is the stack's macro (not in src/), any predicate here;
  `CO_LSS_NODE_ID_ASSIGNMENT` is 0xFF.  The model ends at the node ID `init` hands to
  the stack (`co_init`, `CO_LSSinit`); what LSS assigns after that is the stack's.
  The command line's argument is the `int` that `strtoul` left, stored through a
  `u8`.

  The first revision puts the previous `OD_CANNodeID` back only when the save
  fails; the second never does (`store_lss_config_callback_ram`).  Neither matters to
  `init`, which starts from `OD_CANNodeID = 0`: in both revisions the storage holds
  the node ID of the last store that succeeded, and `init` with `nid = 0` takes it if
  the load succeeds and it is valid, and `CO_LSS_NODE_ID_ASSIGNMENT` otherwise
  (`init_takes_last_stored_nid`).

  After `CO_LSSinit`, both revisions wait for LSS to assign a node ID (`lssWait`).
  What `CO_LSSslave_process` leaves in `pending_nid` and what `CO_LSSslave_getState`
  answers in each round are inputs.  The first revision waits for an assigned node ID
  with the slave back in `CO_LSS_STATE_WAITING`, the second for an assigned node ID
  alone.
-/
import Mathlib.Data.BitVec

set_option autoImplicit false

namespace CANopenNode.Canopen

/-- `CO_LSS_NODE_ID_ASSIGNMENT`: no node ID yet, to be assigned by LSS. -/
def CO_LSS_NODE_ID_ASSIGNMENT : BitVec 8 := 0xFF

/-- `OD_CANNodeID` (0x2101) and the node ID in the COMMUNICATION record. -/
structure NodeIdState where
  OD_CANNodeID : BitVec 8
  COMMUNICATION : BitVec 8
  deriving DecidableEq, Repr

/-- `storage.save(Canopen_storage::COMMUNICATION)`, on the node ID: whether it
returned `CO_ERROR_NO`, and the state after it. -/
def NodeIdState.saveCommunication (s : NodeIdState) (saveOk : Bool) : Bool × NodeIdState :=
  (saveOk, if saveOk then { s with COMMUNICATION := s.OD_CANNodeID } else s)

/-- `storage.load(Canopen_storage::COMMUNICATION)`, on the node ID. -/
def NodeIdState.loadCommunication (s : NodeIdState) (loadOk : Bool) : NodeIdState :=
  if loadOk then { s with OD_CANNodeID := s.COMMUNICATION } else s

/-- What happens to the node ID: the LSS master's "store configuration", the command
that sets it from the command line, or `Canopen::init` with its `nid` argument (a
power-on or a communication reset), each with what the storage answers. -/
inductive NodeIdEvent
  | lssStore (nid : BitVec 8) (saveOk : Bool)
  | cli (tmp : BitVec 32) (saveOk : Bool)
  | init (nid : BitVec 8) (loadOk : Bool)
  deriving DecidableEq, Repr

namespace Part000

/-- `Canopen::store_lss_config_callback`: store `nid`, and put the active node ID back
into `OD_CANNodeID` when the save fails. -/
def store_lss_config_callback (s : NodeIdState) (nid : BitVec 8) (saveOk : Bool) :
    Bool × NodeIdState :=
  let active_nid := s.OD_CANNodeID
  let s := { s with OD_CANNodeID := nid }
  let (result, s) := s.saveCommunication saveOk
  if result then (true, s) else (false, { s with OD_CANNodeID := active_nid })

/-- `Canopen::lss_check`: the node ID handed in, or for 0 the one in `OD_CANNodeID`
if it is valid and `CO_LSS_NODE_ID_ASSIGNMENT` if not. -/
def lss_check (CO_LSS_NODE_ID_VALID : BitVec 8 → Bool) (s : NodeIdState) (pending_nid : BitVec 8) :
    BitVec 8 :=
  if pending_nid = 0 then
    let persistent_nid := s.OD_CANNodeID
    if !CO_LSS_NODE_ID_VALID persistent_nid then CO_LSS_NODE_ID_ASSIGNMENT else persistent_nid
  else pending_nid

/-- The node ID part of `Canopen::init`: `od_set_defaults` clears `OD_CANNodeID`,
`od_load_start` loads COMMUNICATION, and `lss_check` chooses the node ID handed to
`co_init`. -/
def init_pending_nid (CO_LSS_NODE_ID_VALID : BitVec 8 → Bool) (s : NodeIdState) (nid : BitVec 8)
    (loadOk : Bool) : BitVec 8 × NodeIdState :=
  let s := ({ s with OD_CANNodeID := 0 } : NodeIdState).loadCommunication loadOk
  (lss_check CO_LSS_NODE_ID_VALID s nid, s)

/-- The `-n` option of `Canopen::cmd_terminal`: `OD_CANNodeID = tmp`, then save
COMMUNICATION, whatever it answers. -/
def cmd_terminal_n (s : NodeIdState) (tmp : BitVec 32) (saveOk : Bool) : NodeIdState :=
  (({ s with OD_CANNodeID := tmp.setWidth 8 } : NodeIdState).saveCommunication saveOk).2

/-- One event. -/
def nodeIdStep (CO_LSS_NODE_ID_VALID : BitVec 8 → Bool) (s : NodeIdState) :
    NodeIdEvent → NodeIdState
  | .lssStore nid saveOk => (store_lss_config_callback s nid saveOk).2
  | .cli tmp saveOk => cmd_terminal_n s tmp saveOk
  | .init nid loadOk => (init_pending_nid CO_LSS_NODE_ID_VALID s nid loadOk).2

end Part000

namespace Part001

/-- `Canopen::store_lss_config_callback` of this revision: store `nid`; nothing is
put back. -/
def store_lss_config_callback (s : NodeIdState) (nid : BitVec 8) (saveOk : Bool) :
    Bool × NodeIdState :=
  ({ s with OD_CANNodeID := nid } : NodeIdState).saveCommunication saveOk

/-- The node ID part of `Canopen::init` of this revision: `od_set_defaults` clears
`OD_CANNodeID`; for `nid = 0` COMMUNICATION is loaded and its node ID taken if the
load succeeded and it is valid, `CO_LSS_NODE_ID_ASSIGNMENT` if not. -/
def init_pending_nid (CO_LSS_NODE_ID_VALID : BitVec 8 → Bool) (s : NodeIdState) (nid : BitVec 8)
    (loadOk : Bool) : BitVec 8 × NodeIdState :=
  let s : NodeIdState := { s with OD_CANNodeID := 0 }
  if nid = 0 then
    let s := s.loadCommunication loadOk
    let persistent_nid := s.OD_CANNodeID
    (if !loadOk || !CO_LSS_NODE_ID_VALID persistent_nid then CO_LSS_NODE_ID_ASSIGNMENT
      else persistent_nid, s)
  else (nid, s)

/-- The `-a` option of `Canopen::cmd_terminal`: the LSS store callback with `tmp`. -/
def cmd_terminal_a (s : NodeIdState) (tmp : BitVec 32) (saveOk : Bool) : NodeIdState :=
  (store_lss_config_callback s (tmp.setWidth 8) saveOk).2

/-- One event. -/
def nodeIdStep (CO_LSS_NODE_ID_VALID : BitVec 8 → Bool) (s : NodeIdState) :
    NodeIdEvent → NodeIdState
  | .lssStore nid saveOk => (store_lss_config_callback s nid saveOk).2
  | .cli tmp saveOk => cmd_terminal_a s tmp saveOk
  | .init nid loadOk => (init_pending_nid CO_LSS_NODE_ID_VALID s nid loadOk).2

end Part001

/-! ## What each event leaves in storage -/

/-- The node ID an event stores if its save succeeds. -/
def NodeIdEvent.stored? : NodeIdEvent → Option (BitVec 8)
  | .lssStore nid true => some nid
  | .cli tmp true => some (tmp.setWidth 8)
  | _ => none

/-- Both revisions' stores: on success `OD_CANNodeID` and the storage hold the new
node ID; on failure the storage is unchanged, and `OD_CANNodeID` holds the old node
ID in the first revision and the new one in the second. -/
theorem store_lss_config_callback_ram (s : NodeIdState) (nid : BitVec 8) (saveOk : Bool) :
    (Part000.store_lss_config_callback s nid saveOk).1 = saveOk ∧
    (Part001.store_lss_config_callback s nid saveOk).1 = saveOk ∧
    (Part000.store_lss_config_callback s nid saveOk).2 =
      (if saveOk then ⟨nid, nid⟩ else s) ∧
    (Part001.store_lss_config_callback s nid saveOk).2 =
      (if saveOk then ⟨nid, nid⟩ else { s with OD_CANNodeID := nid }) := by
  cases saveOk <;> exact ⟨rfl, rfl, rfl, rfl⟩

/-- One event changes the stored node ID exactly when it saves one, in both
revisions. -/
theorem nodeIdStep_COMMUNICATION (valid : BitVec 8 → Bool) (s : NodeIdState) (e : NodeIdEvent) :
    (Part000.nodeIdStep valid s e).COMMUNICATION = (e.stored?).getD s.COMMUNICATION ∧
    (Part001.nodeIdStep valid s e).COMMUNICATION = (e.stored?).getD s.COMMUNICATION := by
  cases e with
  | lssStore nid saveOk => cases saveOk <;> exact ⟨rfl, rfl⟩
  | cli tmp saveOk => cases saveOk <;> exact ⟨rfl, rfl⟩
  | init nid loadOk =>
    simp only [Part000.nodeIdStep, Part000.init_pending_nid, Part001.nodeIdStep,
      Part001.init_pending_nid]
    split <;> cases loadOk <;> exact ⟨rfl, rfl⟩

/-- The node ID `init` hands to the stack, in one piece for both revisions: `nid`
itself, or for `nid = 0` the stored node ID if the load succeeds and it is valid, and
`CO_LSS_NODE_ID_ASSIGNMENT` otherwise.  The first revision reads `OD_CANNodeID` after
a failed load as well, where `od_set_defaults` left 0: the two agree when 0 is not a
valid node ID. -/
theorem init_pending_nid_eq (valid : BitVec 8 → Bool) (h0 : valid 0 = false) (s : NodeIdState)
    (nid : BitVec 8) (loadOk : Bool) :
    (Part000.init_pending_nid valid s nid loadOk).1 =
      (if nid ≠ 0 then nid
        else if loadOk ∧ valid s.COMMUNICATION then s.COMMUNICATION else CO_LSS_NODE_ID_ASSIGNMENT) ∧
    (Part001.init_pending_nid valid s nid loadOk).1 =
      (if nid ≠ 0 then nid
        else if loadOk ∧ valid s.COMMUNICATION then s.COMMUNICATION else CO_LSS_NODE_ID_ASSIGNMENT) := by
  have h0' : valid 0#8 = false := h0
  by_cases hn : nid = 0#8
  · subst hn
    cases loadOk <;> cases hv : valid s.COMMUNICATION <;>
      simp [Part000.init_pending_nid, Part000.lss_check, Part001.init_pending_nid,
        NodeIdState.loadCommunication, hv, h0']
  · simp [Part000.init_pending_nid, Part000.lss_check, Part001.init_pending_nid, hn]

/-- A run of events whose steps store as `stored?` says ends with the node ID of the
last store whose save succeeded. -/
theorem foldl_COMMUNICATION (step : NodeIdState → NodeIdEvent → NodeIdState)
    (hstep : ∀ s e, (step s e).COMMUNICATION = (e.stored?).getD s.COMMUNICATION) :
    ∀ (es : List NodeIdEvent) (s : NodeIdState),
      (es.foldl step s).COMMUNICATION =
        ((es.filterMap NodeIdEvent.stored?).getLast?).getD s.COMMUNICATION
  | [], _ => rfl
  | e :: es, s => by
    rw [List.foldl_cons, foldl_COMMUNICATION step hstep es, hstep]
    cases he : e.stored? with
    | none => rw [List.filterMap_cons_none he]; rfl
    | some v =>
      rw [List.filterMap_cons_some he, List.getLast?_cons]
      cases (es.filterMap NodeIdEvent.stored?).getLast? <;> rfl

/-- For every run of LSS stores, command-line node IDs and `init`s, with any storage
outcomes, both revisions end with the node ID of the last store whose save succeeded
in storage (the one there before if none did), and an `init` after the run hands the
stack `nid` itself, or for `nid = 0` that stored node ID if the load succeeds and it is
valid and `CO_LSS_NODE_ID_ASSIGNMENT` otherwise: the two revisions choose the same
node ID although a failed store leaves different values in `OD_CANNodeID`. -/
theorem init_takes_last_stored_nid (valid : BitVec 8 → Bool) (h0 : valid 0 = false)
    (s : NodeIdState) (es : List NodeIdEvent) (nid : BitVec 8) (loadOk : Bool) :
    let stored := ((es.filterMap NodeIdEvent.stored?).getLast?).getD s.COMMUNICATION
    (es.foldl (Part000.nodeIdStep valid) s).COMMUNICATION = stored ∧
    (es.foldl (Part001.nodeIdStep valid) s).COMMUNICATION = stored ∧
    (Part000.init_pending_nid valid (es.foldl (Part000.nodeIdStep valid) s) nid loadOk).1 =
      (if nid ≠ 0 then nid
        else if loadOk ∧ valid stored then stored else CO_LSS_NODE_ID_ASSIGNMENT) ∧
    (Part001.init_pending_nid valid (es.foldl (Part001.nodeIdStep valid) s) nid loadOk).1 =
      (if nid ≠ 0 then nid
        else if loadOk ∧ valid stored then stored else CO_LSS_NODE_ID_ASSIGNMENT) := by
  intro stored
  have hrun := fun step hstep => foldl_COMMUNICATION step hstep es s
  have h₀ := hrun _ fun s e => (nodeIdStep_COMMUNICATION valid s e).1
  have h₁ := hrun _ fun s e => (nodeIdStep_COMMUNICATION valid s e).2
  refine ⟨h₀, h₁, ?_, ?_⟩
  · rw [(init_pending_nid_eq valid h0 _ nid loadOk).1, h₀]
  · rw [(init_pending_nid_eq valid h0 _ nid loadOk).2, h₁]

theorem init_takes_cli_nid :
    (fun nid : BitVec 8 => decide (1 ≤ nid.toNat ∧ nid.toNat ≤ 127) || nid == 0xFF) 0 = false ∧
    (Part001.init_pending_nid (fun nid => decide (1 ≤ nid.toNat ∧ nid.toNat ≤ 127) || nid == 0xFF)
      ([NodeIdEvent.lssStore 5 true, .init 0 true, .cli 300 true, .lssStore 9 false].foldl
        (Part001.nodeIdStep fun nid => decide (1 ≤ nid.toNat ∧ nid.toNat ≤ 127) || nid == 0xFF)
        ⟨0, 0⟩) 0 true).1 = 44 :=
  ⟨rfl, (init_takes_last_stored_nid (fun nid => decide (1 ≤ nid.toNat ∧ nid.toNat ≤ 127) || nid == 0xFF)
    rfl ⟨0, 0⟩ [.lssStore 5 true, .init 0 true, .cli 300 true, .lssStore 9 false] 0 true).2.2.2⟩

/-! ## The LSS wait loop -/

/-- `CO_LSS_state_t`, the LSS slave's state as `CO_LSSslave_getState` answers it. -/
inductive CO_LSS_state_t
  | CO_LSS_STATE_WAITING
  | CO_LSS_STATE_CONFIGURATION
  deriving DecidableEq, Repr

/-- What one round of the wait loop sees: the node ID `CO_LSSslave_process` leaves in
`pending_nid`, and the slave's state after it. -/
structure LssRound where
  pending_nid : BitVec 8
  state : CO_LSS_state_t
  deriving DecidableEq, Repr

/-- The wait loop of both revisions, with its exit test: over the rounds the stack
gives, the node ID of the first round that passes the test and the number of
housekeeping rounds (`housekeeping_main` and `CO_CANrxWait`) before it, counted from
`k`; `none` while it still waits when the rounds end. -/
def lssWait (done : LssRound → Bool) : List LssRound → Nat → Option (BitVec 8 × Nat)
  | [], _ => none
  | r :: rs, k => if done r then some (r.pending_nid, k) else lssWait done rs (k + 1)

/-- `Canopen::lss_nid_assignment`: wait until a node ID is assigned and the LSS slave
is back in `CO_LSS_STATE_WAITING`. -/
def Part000.lss_nid_assignment (rounds : List LssRound) : Option (BitVec 8 × Nat) :=
  lssWait (fun r => r.pending_nid != CO_LSS_NODE_ID_ASSIGNMENT &&
    r.state == .CO_LSS_STATE_WAITING) rounds 0

/-- The "Get Node ID" loop of `Canopen::init` of the second revision: wait until a
node ID is assigned, whatever the slave's state. -/
def Part001.init_get_node_id (rounds : List LssRound) : Option (BitVec 8 × Nat) :=
  lssWait (fun r => r.pending_nid != CO_LSS_NODE_ID_ASSIGNMENT) rounds 0

end CANopenNode.Canopen
