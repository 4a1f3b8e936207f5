/-
  Canopen/Terminal.lean --- the command line: `Canopen::cmd_terminal` of both
  revisions.

  Source: src/unnamed/part_000, `Canopen::cmd_terminal` (lines 1655-1709);
  src/unnamed/part_001, `Canopen::cmd_terminal` (1424-1479).

  The command parser (`terminal_get_opt`, `terminal_get_opt_arg`) is not in src/:
  what it makes of the command line is the input, the option character with the
  argument as `strtoul` leaves it in the `int` `tmp` (its 32 bits, read signed where
  the code compares it), or the offset at which no option could be read.  What the
  storage and the driver answer is an input as well.  `CO_LSS_bitTimingTableLookup`
  is the stack's table, any list here; a read outside it is undefined, and the first
  revision's command is then `none`.  `Canopen_storage::TYPE_COUNT` is 6, one past
  the six groups of `storage_type_t`.  The node-ID options are the functions of
  `NodeId`; the calls on storage, driver and `globals` are logged in order.

  The first revision checks `-r` against `TYPE_COUNT` as a signed `int` and reads
  the bit-timing table at the `-b` argument unchecked.  The second revision's `-c 99`
  clears the serial number's `valid` and saves RAM's record: over any run of commands
  `OD_serialNumber` ends as it was or with `valid` cleared, and the SERIAL record as
  it was or as RAM's first record with `valid` cleared; no command makes a serial
  number valid or writes a new one (`cli_serial_only_erased`).
-/
import CANopenNode.Canopen.NodeId
import CANopenNode.Canopen.ObjectDictionary

set_option autoImplicit false

namespace CANopenNode.Canopen

/-- What the parser makes of a command line: the option and `tmp`, or the offset at
which no option could be read. -/
inductive TerminalCommand
  | invalid (offset : Nat)
  | opt (opt : Char) (tmp : BitVec 32)
  deriving DecidableEq, Repr

/-- `can_state_t`, the driver's answer to `can_ioctl`. -/
inductive can_state_t
  | CAN_OK
  | error (code : Int)
  deriving DecidableEq, Repr

/-- A call `cmd_terminal` makes on the driver, the storage or `globals`. -/
inductive TerminalCall
  /-- `can_ioctl(CO->CANmodule[0]->driver, CAN_SET_BAUDRATE, &tmp)` -/
  | can_ioctl_CAN_SET_BAUDRATE (tmp : BitVec 32)
  | save (type : storage_type_t)
  /-- `storage.restore(static_cast<Canopen_storage::storage_type_t>(tmp))`, with the
  value cast -/
  | restore (type : Int)
  | request_reboot
  deriving DecidableEq, Repr

/-- What `cmd_terminal` writes to `pcWriteBuffer`. -/
inductive TerminalText
  | terminal_text_invalid_option (offset : Nat)
  /-- `"Failed: %d" NEWLINE` with the driver's answer -/
  | failed (state : Int)
  | terminal_text_unknown_option (opt : Char)
  deriving DecidableEq, Repr

/-- What the command line acts on: the node ID and its stored copy, `OD_CANBitRate`,
`OD_serialNumber` and its stored SERIAL record, and the calls made so far. -/
structure Terminal where
  nodeId : NodeIdState
  OD_CANBitRate : Nat
  OD_serialNumber : OD_serialNumber_t
  SERIAL : OD_serialNumber_t
  calls : List TerminalCall
  deriving DecidableEq, Repr

/-- `Canopen_storage::TYPE_COUNT`. -/
def TYPE_COUNT : Int := 6

/-- `"Failed: %d"` when the driver refuses. -/
def can_state_t.failedText : can_state_t → Option TerminalText
  | .CAN_OK => none
  | .error code => some (.failed code)

/-- `CO_LSS_bitTimingTableLookup[tmp]`, `none` outside the table. -/
def bitTimingAt (CO_LSS_bitTimingTableLookup : List Nat) (tmp : Int) : Option Nat :=
  if 0 ≤ tmp then CO_LSS_bitTimingTableLookup[tmp.toNat]? else none

namespace Part000

/-- `Canopen::cmd_terminal`: what it writes and what it leaves, or `none` where it
reads outside the bit-timing table. -/
def cmd_terminal (CO_LSS_bitTimingTableLookup : List Nat) (t : Terminal) (cmd : TerminalCommand)
    (saveOk : Bool) (state : can_state_t) : Option (Option TerminalText × Terminal) :=
  match cmd with
  | .invalid offset => some (some (.terminal_text_invalid_option offset), t)
  | .opt 'n' tmp =>
    some (none, { t with nodeId := cmd_terminal_n t.nodeId tmp saveOk,
                         calls := t.calls ++ [TerminalCall.save .COMMUNICATION, .request_reboot] })
  | .opt 'b' tmp =>
    let t := { t with calls := t.calls ++ [TerminalCall.can_ioctl_CAN_SET_BAUDRATE tmp] }
    (bitTimingAt CO_LSS_bitTimingTableLookup tmp.toInt).map fun rate =>
      (state.failedText, { t with OD_CANBitRate := rate })
  | .opt 'r' tmp =>
    if TYPE_COUNT ≤ tmp.toInt then some (none, t)
    else some (none, { t with calls := t.calls ++ [TerminalCall.restore tmp.toInt] })
  | .opt opt _ => some (some (.terminal_text_unknown_option opt), t)

end Part000

namespace Part001

/-- `Canopen::cmd_terminal` of the second revision: what it writes and what it
leaves. -/
def cmd_terminal (t : Terminal) (cmd : TerminalCommand) (saveOk : Bool) (state : can_state_t) :
    Option TerminalText × Terminal :=
  match cmd with
  | .invalid offset => (some (.terminal_text_invalid_option offset), t)
  | .opt 'a' tmp =>
    (none, { t with nodeId := cmd_terminal_a t.nodeId tmp saveOk,
                    calls := t.calls ++ [TerminalCall.save .COMMUNICATION, .request_reboot] })
  | .opt 'b' tmp =>
    (state.failedText, { t with calls := t.calls ++ [TerminalCall.can_ioctl_CAN_SET_BAUDRATE tmp] })
  | .opt 'c' tmp =>
    -- 'c' is the int 99
    if tmp ≠ 99 then (none, t)
    else
      let sn := { t.OD_serialNumber with valid := false }
      (none, { t with OD_serialNumber := sn, SERIAL := if saveOk then sn else t.SERIAL,
                      calls := t.calls ++ [TerminalCall.save .SERIAL] })
  | .opt opt _ => (some (.terminal_text_unknown_option opt), t)

end Part001

/-! ## What the second revision's command line does to the serial number -/

/-- The second revision's command line over a run of commands, each with what the
storage and the driver answer. -/
def Part001.terminalRun (t : Terminal) (cmds : List (TerminalCommand × Bool × can_state_t)) :
    Terminal :=
  cmds.foldl (fun t c => (Part001.cmd_terminal t c.1 c.2.1 c.2.2).2) t

/-- `b` is `a`, or `a` with `valid` cleared. -/
def OD_serialNumber_t.KeptOrErased (a b : OD_serialNumber_t) : Prop :=
  b = a ∨ b = { a with valid := false }

/-- Kept or erased, twice, is kept or erased. -/
theorem OD_serialNumber_t.KeptOrErased.trans {a b c : OD_serialNumber_t} (h₁ : a.KeptOrErased b)
    (h₂ : b.KeptOrErased c) : a.KeptOrErased c := by
  rcases h₁ with rfl | rfl
  · exact h₂
  · rcases h₂ with rfl | rfl <;> exact .inr rfl

/-- Erasing a record kept or erased from `a` is erasing `a`. -/
theorem OD_serialNumber_t.KeptOrErased.erase {a b : OD_serialNumber_t} (h : a.KeptOrErased b) :
    { b with valid := false } = { a with valid := false } := by
  rcases h with rfl | rfl <;> rfl

/-- One command leaves `OD_serialNumber` kept or erased, and the SERIAL record as it
was or as RAM's record with `valid` cleared. -/
theorem Part001.cmd_terminal_serial (t : Terminal) (cmd : TerminalCommand) (saveOk : Bool)
    (state : can_state_t) :
    t.OD_serialNumber.KeptOrErased (Part001.cmd_terminal t cmd saveOk state).2.OD_serialNumber ∧
    ((Part001.cmd_terminal t cmd saveOk state).2.SERIAL = t.SERIAL ∨
      (Part001.cmd_terminal t cmd saveOk state).2.SERIAL =
        { t.OD_serialNumber with valid := false }) := by
  unfold Part001.cmd_terminal
  split
  · exact ⟨.inl rfl, .inl rfl⟩
  · exact ⟨.inl rfl, .inl rfl⟩
  · exact ⟨.inl rfl, .inl rfl⟩
  · split_ifs
    · exact ⟨.inl rfl, .inl rfl⟩
    · exact ⟨.inr rfl, .inr rfl⟩
    · exact ⟨.inr rfl, .inl rfl⟩
  · exact ⟨.inl rfl, .inl rfl⟩

/-- The second revision's command line can only erase the serial number.  Over every
run of commands, with any answers of storage and driver, `OD_serialNumber` ends as it
was or as it was with `valid` cleared, and the stored SERIAL record ends as it was or
as RAM's first record with `valid` cleared: no command makes a serial number valid or
writes a new one. -/
theorem cli_serial_only_erased (t : Terminal) (cmds : List (TerminalCommand × Bool × can_state_t)) :
    ((Part001.terminalRun t cmds).OD_serialNumber = t.OD_serialNumber ∨
      (Part001.terminalRun t cmds).OD_serialNumber = { t.OD_serialNumber with valid := false }) ∧
    ((Part001.terminalRun t cmds).SERIAL = t.SERIAL ∨
      (Part001.terminalRun t cmds).SERIAL = { t.OD_serialNumber with valid := false }) := by
  induction cmds generalizing t with
  | nil => exact ⟨.inl rfl, .inl rfl⟩
  | cons c cmds ih =>
    obtain ⟨hn, hs⟩ := Part001.cmd_terminal_serial t c.1 c.2.1 c.2.2
    obtain ⟨ihn, ihs⟩ := ih (Part001.cmd_terminal t c.1 c.2.1 c.2.2).2
    rw [hn.erase] at ihs
    refine ⟨hn.trans ihn, ihs.elim (fun h => hs.imp h.trans h.trans) .inr⟩

end CANopenNode.Canopen
