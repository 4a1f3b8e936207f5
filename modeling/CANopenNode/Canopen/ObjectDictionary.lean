/-
  Canopen/ObjectDictionary.lean --- the SDO server around an object's callback, for
  any object; the object-dictionary variables that the store, restore and
  serial-number callbacks of canopen.cpp read and write; and the non-volatile
  storage they call.

  Source: src/unnamed/part_000 and part_001 (canopen.cpp), lines 123-247 and
  576-607, with the registrations of `Canopen::co_start` and `Canopen::init`.  The
  SDO server, the generated object dictionary and `Canopen_storage` are not in
  src/; they are modelled as the callbacks use them:

  * one server serves every object (`ODObjectView.writeOD`, `ODObjectView.readOD`):
    a request past the object's last subindex is refused with
    `CO_SDO_AB_SUB_UNKNOWN`, and a write to an entry the generated dictionary marks
    read-only (`writable`) with `CO_SDO_AB_READONLY`, both before the callback.
    Otherwise a write (download) calls the callback with `reading = false`, the
    received value in the buffer `data` and `ODdataStorage` pointing at the entry's
    variable, and copies the buffer, as the callback left it, into that variable
    exactly when the callback returns `CO_SDO_AB_NONE`; a read (upload) copies the
    entry into the buffer, calls the callback with `reading = true` and answers the
    buffer;
  * the dictionary's attributes are not in src/.  For 0x1010, 0x1011 and 0x5000
    every write reaches the callback (`ODindex.writable`), whose own checks are
    what the code decides; for the objects of `DaisyChain` and `Objects` the
    attributes are a parameter of every result;
  * `storage.save(type)` and `storage.restore(type)` are logged in order; a save
    succeeds or fails as the request's `saveOk` says, and a successful save of
    `SERIAL` makes the non-volatile SERIAL record a copy of `OD_serialNumber`.
    The contents of the other records are not followed;
  * a value is the number the downloaded bytes encode; the server accepts only a
    download of the entry's length, so a value fits the entry's type.

  The last section states what a 0x1010 or 0x1011 callback owes the server
  (`SignatureGuarded`) and what the server's write gives from it: a write without
  the signature changes nothing, and the variables of 0x1010 and 0x1011 keep their
  values (`CO_SDO_writeOD_params`).
-/
import Mathlib.Logic.Function.Basic

set_option autoImplicit false

namespace CANopenNode.Canopen

/-- The `CO_SDO_abortCode_t` codes that the modelled callbacks return. -/
inductive CO_SDO_abortCode_t
  | CO_SDO_AB_NONE
  | CO_SDO_AB_READONLY
  | CO_SDO_AB_SUB_UNKNOWN
  | CO_SDO_AB_INVALID_VALUE
  | CO_SDO_AB_DATA_TRANSF
  | CO_SDO_AB_HW
  | CO_SDO_AB_TIMEOUT
  | CO_SDO_AB_DATA_DEV_STATE
  | CO_SDO_AB_GENERAL
  deriving DecidableEq, Repr

/-- `Canopen_storage::storage_type_t`: the groups of non-volatile storage. -/
inductive storage_type_t
  | COMMUNICATION
  | PARAMS
  | RUNTIME
  | SERIAL
  | TEST
  | CALIB
  deriving DecidableEq, Repr

/-- One call on `storage`. -/
inductive StorageCall
  | save (type : storage_type_t)
  | restore (type : storage_type_t)
  deriving DecidableEq, Repr

/-- `OD_serialNumber` (0x5000): subindex 0, 1 and 2. -/
structure OD_serialNumber_t where
  maxSubIndex : Nat
  valid : Bool
  serial : Nat
  deriving DecidableEq, Repr

/-- `OD_identity` (0x1018), the field the callbacks write. -/
structure OD_identity_t where
  serialNumber : Nat
  deriving DecidableEq, Repr

/-- `storage`: the SERIAL record and the calls made so far, oldest first. -/
structure Canopen_storage where
  SERIAL : OD_serialNumber_t
  calls : List StorageCall
  deriving DecidableEq, Repr

/-- The node as the callbacks see it: the RAM variables of 0x1010, 0x1011, 0x5000
and 0x1018, and the storage. -/
structure Node where
  OD_storeParameters : Nat → Nat
  OD_restoreDefaultParameters : Nat → Nat
  OD_serialNumber : OD_serialNumber_t
  OD_identity : OD_identity_t
  storage : Canopen_storage

/-- `CO_ODF_arg_t`, with the fields the callbacks read. -/
structure CO_ODF_arg_t where
  reading : Bool
  subIndex : Nat
  /-- the SDO buffer -/
  data : Nat
  /-- the address of the entry's variable, `none` for `NULL`, with the value stored there -/
  ODdataStorage : Option Nat
  deriving DecidableEq, Repr

/-- The value `ODdataStorage` points at.  The server never passes `NULL` for an
entry with a RAM variable, which every entry of 0x1010, 0x1011 and 0x5000 has. -/
def CO_ODF_arg_t.stored (arg : CO_ODF_arg_t) : Nat := arg.ODdataStorage.getD 0

/-- A callback as the server calls it on a node state `σ`: the argument and the
state give the abort code, the buffer as the callback leaves it and the state after
the callback. -/
abbrev ODFunc (σ : Type) := CO_ODF_arg_t → σ → CO_SDO_abortCode_t × Nat × σ

/-- A callback of 0x1010, 0x1011 or 0x5000, given what each `storage.save` during
the request returns. -/
abbrev ODF := (storage_type_t → Bool) → ODFunc Node

/-! ## The SDO server, for any object -/

/-- An object as the server sees it on a node state `σ`: its last subindex, the
value of each entry's variable, and how the buffer is copied into it. -/
structure ODObjectView (σ : Type) where
  maxSubIndex : Nat
  entry : σ → Nat → Nat
  commit : σ → Nat → Nat → σ

section Server

variable {σ : Type} (o : ODObjectView σ) (writable : Nat → Bool) (pODFunc : ODFunc σ)

/-- The server's write of `value` to subindex `sub`, under the dictionary's
attributes `writable`: the abort code and the state after it. -/
def ODObjectView.writeOD (s : σ) (sub value : Nat) : CO_SDO_abortCode_t × σ :=
  if o.maxSubIndex < sub then (.CO_SDO_AB_SUB_UNKNOWN, s)
  else if writable sub = false then (.CO_SDO_AB_READONLY, s)
  else
    let (ret, data, s) := pODFunc ⟨false, sub, value, some (o.entry s sub)⟩ s
    if ret = .CO_SDO_AB_NONE then (ret, o.commit s sub data) else (ret, s)

/-- The server's read of subindex `sub`: the abort code, the answer and the state
after it. -/
def ODObjectView.readOD (s : σ) (sub : Nat) : CO_SDO_abortCode_t × Nat × σ :=
  if o.maxSubIndex < sub then (.CO_SDO_AB_SUB_UNKNOWN, 0, s)
  else pODFunc ⟨true, sub, o.entry s sub, some (o.entry s sub)⟩ s

theorem ODObjectView.writeOD_of_lt (s : σ) {sub : Nat} (value : Nat) (h : o.maxSubIndex < sub) :
    o.writeOD writable pODFunc s sub value = (.CO_SDO_AB_SUB_UNKNOWN, s) := if_pos h

theorem ODObjectView.writeOD_of_readonly (s : σ) {sub : Nat} (value : Nat)
    (h : sub ≤ o.maxSubIndex) (hw : writable sub = false) :
    o.writeOD writable pODFunc s sub value = (.CO_SDO_AB_READONLY, s) := by
  simp [ODObjectView.writeOD, Nat.not_lt.mpr h, hw]

/-- The write in one piece, for an entry the object has and the dictionary lets
through. -/
theorem ODObjectView.writeOD_eq (s : σ) {sub : Nat} (value : Nat) (h : sub ≤ o.maxSubIndex)
    (hw : writable sub = true) :
    o.writeOD writable pODFunc s sub value =
      let r := pODFunc ⟨false, sub, value, some (o.entry s sub)⟩ s
      if r.1 = .CO_SDO_AB_NONE then (r.1, o.commit r.2.2 sub r.2.1) else (r.1, r.2.2) := by
  simp only [ODObjectView.writeOD, Nat.not_lt.mpr h, hw, if_false, Bool.true_eq_false]

/-- What a write leaves: the state itself, the state after the callback, or that
state with the buffer committed. -/
theorem ODObjectView.writeOD_snd (s : σ) (sub value : Nat) :
    let r := pODFunc ⟨false, sub, value, some (o.entry s sub)⟩ s
    (o.writeOD writable pODFunc s sub value).2 = s ∨
      (o.writeOD writable pODFunc s sub value).2 = r.2.2 ∨
      (o.writeOD writable pODFunc s sub value).2 = o.commit r.2.2 sub r.2.1 := by
  unfold ODObjectView.writeOD
  split
  · exact .inl rfl
  · split
    · exact .inl rfl
    · dsimp only
      split <;> simp

theorem ODObjectView.readOD_of_lt (s : σ) {sub : Nat} (h : o.maxSubIndex < sub) :
    o.readOD pODFunc s sub = (.CO_SDO_AB_SUB_UNKNOWN, 0, s) := if_pos h

theorem ODObjectView.readOD_eq (s : σ) {sub : Nat} (h : sub ≤ o.maxSubIndex) :
    o.readOD pODFunc s sub = pODFunc ⟨true, sub, o.entry s sub, some (o.entry s sub)⟩ s :=
  if_neg (Nat.not_lt.mpr h)

end Server

/-! ## Storage -/

/-- `storage.save(type)`: whether it returned `CO_ERROR_NO`, and the node after it. -/
def Node.save (n : Node) (saveOk : storage_type_t → Bool) (type : storage_type_t) : Bool × Node :=
  let n := { n with storage.calls := n.storage.calls ++ [.save type] }
  if saveOk type then
    (true, if type = .SERIAL then { n with storage.SERIAL := n.OD_serialNumber } else n)
  else (false, n)

/-- `result = storage.save(type); if (result != CO_ERROR_NO) return CO_SDO_AB_HW;`
and, past it, `return CO_SDO_AB_NONE;`. -/
def Node.saveOrHw (n : Node) (saveOk : storage_type_t → Bool) (type : storage_type_t) :
    CO_SDO_abortCode_t × Node :=
  let (result, n) := n.save saveOk type
  (if result then .CO_SDO_AB_NONE else .CO_SDO_AB_HW, n)

/-- `storage.restore(type)`; its result is ignored by its caller. -/
def Node.restore (n : Node) (type : storage_type_t) : Node :=
  { n with storage.calls := n.storage.calls ++ [.restore type] }

@[simp] theorem Node.save_fst (n : Node) (saveOk : storage_type_t → Bool) (type : storage_type_t) :
    (n.save saveOk type).1 = saveOk type := by
  unfold Node.save; cases saveOk type <;> rfl

@[simp] theorem Node.save_OD_serialNumber (n : Node) (saveOk : storage_type_t → Bool)
    (type : storage_type_t) : (n.save saveOk type).2.OD_serialNumber = n.OD_serialNumber := by
  unfold Node.save; split_ifs <;> rfl

@[simp] theorem Node.save_OD_identity (n : Node) (saveOk : storage_type_t → Bool)
    (type : storage_type_t) : (n.save saveOk type).2.OD_identity = n.OD_identity := by
  unfold Node.save; split_ifs <;> rfl

/-- Only a successful save of `SERIAL` writes the SERIAL record. -/
theorem Node.save_SERIAL (n : Node) (saveOk : storage_type_t → Bool) (type : storage_type_t) :
    (n.save saveOk type).2.storage.SERIAL =
      if saveOk type = true ∧ type = .SERIAL then n.OD_serialNumber else n.storage.SERIAL := by
  unfold Node.save
  by_cases h : saveOk type = true
  · by_cases ht : type = .SERIAL
    · subst ht; simp [h]
    · simp [h, ht]
  · simp [h]

@[simp] theorem Node.saveOrHw_OD_serialNumber (n : Node) (saveOk : storage_type_t → Bool)
    (type : storage_type_t) : (n.saveOrHw saveOk type).2.OD_serialNumber = n.OD_serialNumber :=
  Node.save_OD_serialNumber n saveOk type

@[simp] theorem Node.saveOrHw_OD_identity (n : Node) (saveOk : storage_type_t → Bool)
    (type : storage_type_t) : (n.saveOrHw saveOk type).2.OD_identity = n.OD_identity :=
  Node.save_OD_identity n saveOk type

theorem Node.saveOrHw_eq (n : Node) (saveOk : storage_type_t → Bool) (type : storage_type_t) :
    n.saveOrHw saveOk type =
      (if (n.save saveOk type).1 then .CO_SDO_AB_NONE else .CO_SDO_AB_HW, (n.save saveOk type).2) :=
  rfl

@[simp] theorem Node.restore_OD_serialNumber (n : Node) (type : storage_type_t) :
    (n.restore type).OD_serialNumber = n.OD_serialNumber := rfl

@[simp] theorem Node.restore_OD_identity (n : Node) (type : storage_type_t) :
    (n.restore type).OD_identity = n.OD_identity := rfl

@[simp] theorem Node.restore_SERIAL (n : Node) (type : storage_type_t) :
    (n.restore type).storage.SERIAL = n.storage.SERIAL := rfl

@[simp] theorem Node.save_calls (n : Node) (saveOk : storage_type_t → Bool) (type : storage_type_t) :
    (n.save saveOk type).2.storage.calls = n.storage.calls ++ [.save type] := by
  unfold Node.save; split_ifs <;> rfl

@[simp] theorem Node.save_OD_storeParameters (n : Node) (saveOk : storage_type_t → Bool)
    (type : storage_type_t) : (n.save saveOk type).2.OD_storeParameters = n.OD_storeParameters := by
  unfold Node.save; split_ifs <;> rfl

@[simp] theorem Node.save_OD_restoreDefaultParameters (n : Node) (saveOk : storage_type_t → Bool)
    (type : storage_type_t) :
    (n.save saveOk type).2.OD_restoreDefaultParameters = n.OD_restoreDefaultParameters := by
  unfold Node.save; split_ifs <;> rfl

@[simp] theorem Node.restore_calls (n : Node) (type : storage_type_t) :
    (n.restore type).storage.calls = n.storage.calls ++ [.restore type] := rfl

@[simp] theorem Node.restore_OD_storeParameters (n : Node) (type : storage_type_t) :
    (n.restore type).OD_storeParameters = n.OD_storeParameters := rfl

@[simp] theorem Node.restore_OD_restoreDefaultParameters (n : Node) (type : storage_type_t) :
    (n.restore type).OD_restoreDefaultParameters = n.OD_restoreDefaultParameters := rfl

/-- `m` holds `n`'s serial fields, identity and SERIAL record. -/
def SerialFrame (n m : Node) : Prop :=
  m.OD_serialNumber = n.OD_serialNumber ∧ m.OD_identity = n.OD_identity ∧
    m.storage.SERIAL = n.storage.SERIAL

theorem SerialFrame.refl (n : Node) : SerialFrame n n := ⟨rfl, rfl, rfl⟩

theorem SerialFrame.trans {n m k : Node} (h₁ : SerialFrame n m) (h₂ : SerialFrame m k) :
    SerialFrame n k :=
  ⟨h₂.1.trans h₁.1, h₂.2.1.trans h₁.2.1, h₂.2.2.trans h₁.2.2⟩

/-- A save of any group but SERIAL keeps the serial fields and the SERIAL record. -/
theorem SerialFrame.save {n m : Node} (h : SerialFrame n m) (saveOk : storage_type_t → Bool)
    {type : storage_type_t} (ht : type ≠ .SERIAL) : SerialFrame n (m.save saveOk type).2 := by
  obtain ⟨h₁, h₂, h₃⟩ := h
  exact ⟨by simpa using h₁, by simpa using h₂, by simp [Node.save_SERIAL, ht, h₃]⟩

/-! ## The SDO server -/

/-- The objects whose callbacks these are. -/
inductive ODindex
  | OD_1010_storeParameters
  | OD_1011_restoreDefaultParameters
  | OD_5000_serialNumber
  deriving DecidableEq, Repr

/-- The object's last subindex, as the names `OD_1010_7_...`, `OD_1011_7_...` and
`OD_5000_2_...` give it. -/
def ODindex.maxSubIndex : ODindex → Nat
  | .OD_1010_storeParameters => 7
  | .OD_1011_restoreDefaultParameters => 7
  | .OD_5000_serialNumber => 2

/-- The variable of an entry, as a number. -/
def Node.entry (n : Node) : ODindex → Nat → Nat
  | .OD_1010_storeParameters, sub => n.OD_storeParameters sub
  | .OD_1011_restoreDefaultParameters, sub => n.OD_restoreDefaultParameters sub
  | .OD_5000_serialNumber, 0 => n.OD_serialNumber.maxSubIndex
  | .OD_5000_serialNumber, 1 => if n.OD_serialNumber.valid then 1 else 0
  | .OD_5000_serialNumber, _ => n.OD_serialNumber.serial

/-- Copy the buffer into the variable of an entry. -/
def Node.commit (n : Node) : ODindex → Nat → Nat → Node
  | .OD_1010_storeParameters, sub, v =>
    { n with OD_storeParameters := Function.update n.OD_storeParameters sub v }
  | .OD_1011_restoreDefaultParameters, sub, v =>
    { n with OD_restoreDefaultParameters := Function.update n.OD_restoreDefaultParameters sub v }
  | .OD_5000_serialNumber, 0, v => { n with OD_serialNumber.maxSubIndex := v }
  | .OD_5000_serialNumber, 1, v => { n with OD_serialNumber.valid := v != 0 }
  | .OD_5000_serialNumber, _, v => { n with OD_serialNumber.serial := v }

@[simp] theorem Node.commit_storeParameters_OD_serialNumber (n : Node) (sub v : Nat) :
    (n.commit .OD_1010_storeParameters sub v).OD_serialNumber = n.OD_serialNumber := rfl

@[simp] theorem Node.commit_storeParameters_OD_identity (n : Node) (sub v : Nat) :
    (n.commit .OD_1010_storeParameters sub v).OD_identity = n.OD_identity := rfl

@[simp] theorem Node.commit_storeParameters_SERIAL (n : Node) (sub v : Nat) :
    (n.commit .OD_1010_storeParameters sub v).storage.SERIAL = n.storage.SERIAL := rfl

@[simp] theorem Node.commit_restoreDefaultParameters_OD_serialNumber (n : Node) (sub v : Nat) :
    (n.commit .OD_1011_restoreDefaultParameters sub v).OD_serialNumber = n.OD_serialNumber := rfl

@[simp] theorem Node.commit_restoreDefaultParameters_OD_identity (n : Node) (sub v : Nat) :
    (n.commit .OD_1011_restoreDefaultParameters sub v).OD_identity = n.OD_identity := rfl

@[simp] theorem Node.commit_restoreDefaultParameters_SERIAL (n : Node) (sub v : Nat) :
    (n.commit .OD_1011_restoreDefaultParameters sub v).storage.SERIAL = n.storage.SERIAL := rfl

/-- One SDO write request, with what each `storage.save` during it returns. -/
structure SdoWrite where
  index : ODindex
  subIndex : Nat
  value : Nat
  saveOk : storage_type_t → Bool

/-- The dictionary's attribute of each entry of 0x1010, 0x1011 and 0x5000: the
generated dictionary is not in src/, and every write reaches the callback. -/
def ODindex.writable (_index : ODindex) (_sub : Nat) : Bool := true

/-- How the server sees each of the three objects. -/
def ODindex.view (index : ODindex) : ODObjectView Node :=
  ⟨index.maxSubIndex, fun n => n.entry index, fun n => n.commit index⟩

/-- The SDO server's write of one request to one of the three objects, through the
object's registered callback. -/
def CO_SDO_writeOD (pODFunc : ODindex → ODF) (n : Node) (w : SdoWrite) :
    CO_SDO_abortCode_t × Node :=
  w.index.view.writeOD w.index.writable (pODFunc w.index w.saveOk) n w.subIndex w.value

/-- The node after a run of SDO write requests. -/
def sdoRun (pODFunc : ODindex → ODF) (n : Node) (ws : List SdoWrite) : Node :=
  ws.foldl (fun n w => (CO_SDO_writeOD pODFunc n w).2) n

@[simp] theorem sdoRun_nil (pODFunc : ODindex → ODF) (n : Node) : sdoRun pODFunc n [] = n := rfl

@[simp] theorem sdoRun_cons (pODFunc : ODindex → ODF) (n : Node) (w : SdoWrite)
    (ws : List SdoWrite) :
    sdoRun pODFunc n (w :: ws) = sdoRun pODFunc (CO_SDO_writeOD pODFunc n w).2 ws := rfl

/-- A property that every request of a run keeps holds after the run. -/
theorem sdoRun_preserves {pODFunc : ODindex → ODF} (P : Node → Prop) :
    ∀ (ws : List SdoWrite), (∀ n, ∀ w ∈ ws, P n → P (CO_SDO_writeOD pODFunc n w).2) →
      ∀ {n : Node}, P n → P (sdoRun pODFunc n ws)
  | [], _, _, hn => hn
  | w :: ws, hstep, n, hn =>
    sdoRun_preserves P ws (fun m u hu => hstep m u (List.mem_cons_of_mem w hu))
      (hstep n w (List.mem_cons_self w ws) hn)

/-- What the server's write leaves: the node itself, the node after the callback,
or that node with the buffer committed. -/
theorem CO_SDO_writeOD_snd (pODFunc : ODindex → ODF) (n : Node) (w : SdoWrite) :
    let r := pODFunc w.index w.saveOk ⟨false, w.subIndex, w.value, some (n.entry w.index w.subIndex)⟩ n
    (CO_SDO_writeOD pODFunc n w).2 = n ∨ (CO_SDO_writeOD pODFunc n w).2 = r.2.2 ∨
      (CO_SDO_writeOD pODFunc n w).2 = r.2.2.commit w.index w.subIndex r.2.1 :=
  w.index.view.writeOD_snd _ _ n w.subIndex w.value

/-- The server's write in one piece, for a subindex the object has. -/
theorem CO_SDO_writeOD_eq (pODFunc : ODindex → ODF) (n : Node) (w : SdoWrite)
    (h : w.subIndex ≤ w.index.maxSubIndex) :
    CO_SDO_writeOD pODFunc n w =
      let r := pODFunc w.index w.saveOk
        ⟨false, w.subIndex, w.value, some (n.entry w.index w.subIndex)⟩ n
      if r.1 = .CO_SDO_AB_NONE then (r.1, r.2.2.commit w.index w.subIndex r.2.1) else (r.1, r.2.2) :=
  w.index.view.writeOD_eq _ _ n w.value h rfl

/-- A write past the object's last subindex is refused and changes nothing. -/
theorem CO_SDO_writeOD_of_lt (pODFunc : ODindex → ODF) (n : Node) (w : SdoWrite)
    (h : w.index.maxSubIndex < w.subIndex) :
    CO_SDO_writeOD pODFunc n w = (.CO_SDO_AB_SUB_UNKNOWN, n) :=
  w.index.view.writeOD_of_lt _ _ n w.value h

/-- Committing the value an entry already holds changes nothing. -/
theorem Node.commit_entry (n : Node) (index : ODindex) (sub : Nat) :
    n.commit index sub (n.entry index sub) = n := by
  obtain ⟨store, restore, ⟨maxSub, valid, serial⟩, identity, storage⟩ := n
  cases index with
  | OD_1010_storeParameters => simp [Node.commit, Node.entry]
  | OD_1011_restoreDefaultParameters => simp [Node.commit, Node.entry]
  | OD_5000_serialNumber =>
    rcases sub with _ | _ | sub
    · rfl
    · cases valid <;> rfl
    · rfl

/-- A write whose callback leaves the node as it is and the entry's value in the
buffer changes nothing. -/
theorem CO_SDO_writeOD_of_callback_keeps (pODFunc : ODindex → ODF) (n : Node) (w : SdoWrite)
    (h : (pODFunc w.index w.saveOk
      ⟨false, w.subIndex, w.value, some (n.entry w.index w.subIndex)⟩ n).2 =
        (n.entry w.index w.subIndex, n)) :
    (CO_SDO_writeOD pODFunc n w).2 = n := by
  rcases CO_SDO_writeOD_snd pODFunc n w with he | he | he <;> rw [he]
  · rw [h]
  · rw [h]; exact n.commit_entry w.index w.subIndex

/-- The variables of 0x1010 and 0x1011 survive a write whose callback keeps them and,
for those two objects, leaves the entry's value in the buffer. -/
theorem CO_SDO_writeOD_params (pODFunc : ODindex → ODF) (n : Node) (w : SdoWrite)
    (hram : ∀ saveOk arg (m : Node),
      (pODFunc w.index saveOk arg m).2.2.OD_storeParameters = m.OD_storeParameters ∧
      (pODFunc w.index saveOk arg m).2.2.OD_restoreDefaultParameters = m.OD_restoreDefaultParameters)
    (hbuf : w.index ≠ .OD_5000_serialNumber → ∀ saveOk arg (m : Node) (s : Nat),
      arg.reading = false → arg.ODdataStorage = some s → (pODFunc w.index saveOk arg m).2.1 = s) :
    (CO_SDO_writeOD pODFunc n w).2.OD_storeParameters = n.OD_storeParameters ∧
    (CO_SDO_writeOD pODFunc n w).2.OD_restoreDefaultParameters = n.OD_restoreDefaultParameters := by
  obtain ⟨index, sub, v, saveOk⟩ := w
  dsimp only at hram hbuf
  have hr := hram saveOk ⟨false, sub, v, some (n.entry index sub)⟩ n
  rcases CO_SDO_writeOD_snd pODFunc n ⟨index, sub, v, saveOk⟩ with he | he | he <;> rw [he]
  · exact ⟨rfl, rfl⟩
  · exact hr
  · dsimp only
    cases index with
    | OD_5000_serialNumber =>
      rcases sub with _ | _ | sub <;> exact hr
    | OD_1010_storeParameters =>
      have hb := hbuf (by simp) saveOk ⟨false, sub, v, some (n.entry .OD_1010_storeParameters sub)⟩ n _
        rfl rfl
      simp only [Node.commit, hb, hr.1, hr.2]
      simp only [Node.entry, Function.update_eq_self, and_self]
    | OD_1011_restoreDefaultParameters =>
      have hb := hbuf (by simp) saveOk
        ⟨false, sub, v, some (n.entry .OD_1011_restoreDefaultParameters sub)⟩ n _ rfl rfl
      simp only [Node.commit, hb, hr.1, hr.2]
      simp only [Node.entry, Function.update_eq_self, and_self]

/-! ## The signature contract of 0x1010 and 0x1011 -/

/-- The storage calls a store or restore request may make: `save` of any group but
COMMUNICATION and RUNTIME, `restore` of PARAMS. -/
def StorageCall.permitted : StorageCall → Bool
  | .save type => type != .COMMUNICATION && type != .RUNTIME
  | .restore type => type == .PARAMS

/-- `m`'s storage log is `n`'s followed by permitted calls only. -/
def PermittedCalls (n m : Node) : Prop :=
  ∃ calls, m.storage.calls = n.storage.calls ++ calls ∧ ∀ c ∈ calls, c.permitted = true

theorem PermittedCalls.of_calls_eq {n m : Node} (h : m.storage.calls = n.storage.calls) :
    PermittedCalls n m :=
  ⟨[], by rw [h, List.append_nil], by simp⟩

theorem PermittedCalls.save {n m : Node} (h : PermittedCalls n m) (saveOk : storage_type_t → Bool)
    {type : storage_type_t} (ht : (StorageCall.save type).permitted = true) :
    PermittedCalls n (m.save saveOk type).2 := by
  obtain ⟨calls, hc, hp⟩ := h
  refine ⟨calls ++ [.save type], by rw [Node.save_calls, hc, List.append_assoc], fun c hc' => ?_⟩
  rcases List.mem_append.mp hc' with hc' | hc'
  · exact hp c hc'
  · rw [List.mem_singleton.mp hc']; exact ht

theorem PermittedCalls.saveOrHw {n m : Node} (h : PermittedCalls n m)
    (saveOk : storage_type_t → Bool) {type : storage_type_t}
    (ht : (StorageCall.save type).permitted = true) : PermittedCalls n (m.saveOrHw saveOk type).2 :=
  h.save saveOk ht

theorem PermittedCalls.restore {n m : Node} (h : PermittedCalls n m) :
    PermittedCalls n (m.restore .PARAMS) := by
  obtain ⟨calls, hc, hp⟩ := h
  refine ⟨calls ++ [.restore .PARAMS], by rw [Node.restore_calls, hc, List.append_assoc], fun c hc' => ?_⟩
  rcases List.mem_append.mp hc' with hc' | hc'
  · exact hp c hc'
  · rw [List.mem_singleton.mp hc']; rfl

/-- What a 0x1010 or 0x1011 callback does with a write (`reading = false`) of any
value to any subindex: without the signature it changes nothing, in RAM or in
storage; every storage call it makes is a permitted one; and it leaves in the buffer
the value `ODdataStorage` points at. -/
structure SignatureGuarded (pODFunc : ODF) (signature : Nat) : Prop where
  unsigned : ∀ saveOk arg n, arg.reading = false → arg.data ≠ signature →
    (pODFunc saveOk arg n).2.2 = n
  permitted : ∀ saveOk arg n, arg.reading = false → PermittedCalls n (pODFunc saveOk arg n).2.2
  restores : ∀ saveOk arg n (s : Nat), arg.reading = false → arg.ODdataStorage = some s →
    (pODFunc saveOk arg n).2.1 = s

/-- A write of anything but the signature to an object whose callback keeps to the
contract changes nothing. -/
theorem SignatureGuarded.writeOD_unsigned {pODFunc : ODindex → ODF} {signature : Nat}
    (n : Node) (w : SdoWrite) (h : SignatureGuarded (pODFunc w.index) signature)
    (hv : w.value ≠ signature) : (CO_SDO_writeOD pODFunc n w).2 = n :=
  CO_SDO_writeOD_of_callback_keeps pODFunc n w (Prod.ext (h.restores _ _ _ _ rfl rfl)
    (h.unsigned _ _ _ rfl hv))

/-- A node before its serial number is committed: RAM and the stored record agree. -/
def unprogrammedNode : Node :=
  { OD_storeParameters := fun _ => 1, OD_restoreDefaultParameters := fun _ => 1,
    OD_serialNumber := ⟨2, false, 1234567890⟩, OD_identity := ⟨0⟩,
    storage := ⟨⟨2, false, 1234567890⟩, []⟩ }

end CANopenNode.Canopen
