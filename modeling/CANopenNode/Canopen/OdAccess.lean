/-
  Canopen/OdAccess.lean --- the object-dictionary accessors of canopen.cpp:
  `get_od_pointer`, the typed `od_set` and `od_get`, and their string versions.

  Source: src/unnamed/part_000, `Canopen::get_od_pointer` (lines 678-695),
  `Canopen::od_get` (833-971), `Canopen::od_set` (973-1108) and the first statement
  of `Canopen::od_set_defaults` (1306-1310).  src/unnamed/part_001 has the same
  code (758-775, 859-1111, 647-651), without the `bool` accessors.

  The object dictionary is reached through three functions of the stack, which are
  not under src/ and are modelled as an interface: `CO_OD_find` gives the entry of
  an index or 0xFFFF, `CO_OD_getLength` the declared length of a sub-entry as a
  `uint16_t`, and `CO_OD_getDataPointer` its address, 0 for `NULL`.  Memory is a
  function from address to byte.  A typed access reads or writes the `sizeof(T)`
  bytes at the pointer, least significant first; the signed and unsigned types of
  one size share a definition, a value being its bits.  `snprintf` with no argument
  after the format writes what the format produces: every byte but `%` stands for
  itself and `%%` for `%`; any other conversion would read an argument that is not
  there, which is undefined (`none`).

  `get_od_pointer` keeps the 16-bit length in a `u8`, so an entry of 256 bytes
  more than `sizeof(T)` passes its length check (`od_length_high_byte_ignored`);
  with that, a typed `od_set` writes the `sizeof(T)` bytes at the pointer, and
  `od_get` reads them back (`od_getWord_od_setWord`).  `od_set` of a
  string hands the string to `snprintf` as the format, so `%%` is stored as `%`
  (`od_set_string_percent`); a string without `%` is stored as its prefix that
  fits, with a NUL (`od_set_string_copies`).
-/
import Mathlib.Algebra.Group.Nat.Basic
import Mathlib.Data.List.Basic

set_option autoImplicit false

namespace CANopenNode.Canopen

/-! ## Memory -/

/-- Memory: the byte at each address. -/
abbrev Mem := Nat → BitVec 8

/-- Write `bs` at `p`, its first byte at the lowest address. -/
def Mem.writeBytes (m : Mem) (p : Nat) (bs : List (BitVec 8)) : Mem :=
  fun a => if p ≤ a ∧ a < p + bs.length then bs.getD (a - p) 0 else m a

/-- The `n` bytes at `p`. -/
def Mem.readBytes (m : Mem) (p n : Nat) : List (BitVec 8) :=
  (List.range n).map fun i => m (p + i)

/-- Memory holds the C string `s` at `p`: its bytes, then a NUL. -/
def Mem.HoldsString (m : Mem) (p : Nat) (s : List (BitVec 8)) : Prop :=
  m.readBytes p (s.length + 1) = s ++ [0]

instance (m : Mem) (p : Nat) (s : List (BitVec 8)) : Decidable (m.HoldsString p s) :=
  inferInstanceAs (Decidable (_ = _))

theorem Mem.readBytes_writeBytes (m : Mem) (p : Nat) (bs : List (BitVec 8)) :
    (m.writeBytes p bs).readBytes p bs.length = bs := by
  apply List.ext_getElem
  · simp [Mem.readBytes]
  · intro i h₁ h₂
    simp only [Mem.readBytes, List.getElem_map, List.getElem_range, Mem.writeBytes]
    rw [if_pos ⟨by omega, by omega⟩, Nat.add_sub_cancel_left]
    simp [h₂]

theorem Mem.writeBytes_outside (m : Mem) (p : Nat) (bs : List (BitVec 8)) (a : Nat)
    (h : a < p ∨ p + bs.length ≤ a) : m.writeBytes p bs a = m a := by
  simp only [Mem.writeBytes]
  rw [if_neg (by omega)]

/-- What a write leaves behind: a string and a NUL at `p` are held there. -/
theorem Mem.holdsString_writeBytes (m : Mem) (p : Nat) (s : List (BitVec 8)) :
    (m.writeBytes p (s ++ [0])).HoldsString p s := by
  have h := Mem.readBytes_writeBytes m p (s ++ [0])
  rwa [List.length_append, List.length_singleton] at h

/-! ## Values as bytes -/

/-- The `size` bytes of `v`, least significant first. -/
def encodeLE : (size : Nat) → Nat → List (BitVec 8)
  | 0, _ => []
  | size + 1, v => BitVec.ofNat 8 v :: encodeLE size (v / 256)

/-- The number the bytes encode, least significant first. -/
def decodeLE : List (BitVec 8) → Nat
  | [] => 0
  | b :: bs => b.toNat + 256 * decodeLE bs

@[simp] theorem length_encodeLE : ∀ (size v : Nat), (encodeLE size v).length = size
  | 0, _ => rfl
  | size + 1, v => by simp [encodeLE, length_encodeLE size]

theorem decodeLE_encodeLE : ∀ (size v : Nat), decodeLE (encodeLE size v) = v % 256 ^ size
  | 0, v => by simp [encodeLE, decodeLE, Nat.mod_one]
  | size + 1, v => by
    have h : 256 ^ (size + 1) = 256 * 256 ^ size := Nat.pow_succ'
    rw [encodeLE, decodeLE, decodeLE_encodeLE size, BitVec.toNat_ofNat, h, Nat.mod_mul]

/-! ## The object dictionary -/

/-- The object dictionary as the accessors reach it through the stack. -/
structure CO_OD where
  /-- `CO_OD_find(SDO, index)`: the entry of `index`, 0xFFFF when there is none -/
  CO_OD_find : BitVec 16 → BitVec 16
  /-- `CO_OD_getLength(SDO, entry, subindex)`: the sub-entry's declared length -/
  CO_OD_getLength : BitVec 16 → BitVec 8 → BitVec 16
  /-- `CO_OD_getDataPointer(SDO, entry, subindex)`: its address, 0 for `NULL` -/
  CO_OD_getDataPointer : BitVec 16 → BitVec 8 → Nat

/-- `Canopen::get_od_pointer`.  `length` is a `u8`: it keeps the low byte of the
16-bit length. -/
def get_od_pointer (od : CO_OD) (index : BitVec 16) (subindex : BitVec 8) (size : Nat) : Nat :=
  let entry := od.CO_OD_find index
  if entry = 0xffff#16 then 0
  else
    let length : BitVec 8 := (od.CO_OD_getLength entry subindex).setWidth 8
    if length.toNat ≠ size then 0
    else od.CO_OD_getDataPointer entry subindex

/-! ## Typed accessors -/

/-- `Canopen::od_set` for an integer type of `size` bytes: the value's bytes at the
pointer, nothing without one. -/
def od_setWord (od : CO_OD) (m : Mem) (index : BitVec 16) (subindex : BitVec 8) (size val : Nat) :
    Mem :=
  let p := get_od_pointer od index subindex size
  if p = 0 then m else m.writeBytes p (encodeLE size val)

/-- `Canopen::od_get` for an integer type of `size` bytes: 0 without a pointer. -/
def od_getWord (od : CO_OD) (m : Mem) (index : BitVec 16) (subindex : BitVec 8) (size : Nat) :
    Nat :=
  let p := get_od_pointer od index subindex size
  if p = 0 then 0 else decodeLE (m.readBytes p size)

/-- `Canopen::od_set(u16, u8, u8)` -/
def od_set_u8 (od : CO_OD) (m : Mem) (index : BitVec 16) (subindex : BitVec 8) (val : BitVec 8) :
    Mem := od_setWord od m index subindex 1 val.toNat
/-- `Canopen::od_set(u16, u8, u16)` -/
def od_set_u16 (od : CO_OD) (m : Mem) (index : BitVec 16) (subindex : BitVec 8) (val : BitVec 16) :
    Mem := od_setWord od m index subindex 2 val.toNat
/-- `Canopen::od_set(u16, u8, u32)` -/
def od_set_u32 (od : CO_OD) (m : Mem) (index : BitVec 16) (subindex : BitVec 8) (val : BitVec 32) :
    Mem := od_setWord od m index subindex 4 val.toNat
/-- `Canopen::od_set(u16, u8, u64)` -/
def od_set_u64 (od : CO_OD) (m : Mem) (index : BitVec 16) (subindex : BitVec 8) (val : BitVec 64) :
    Mem := od_setWord od m index subindex 8 val.toNat
/-- `Canopen::od_set(u16, u8, s8)`, the value as its two's complement bits -/
def od_set_s8 (od : CO_OD) (m : Mem) (index : BitVec 16) (subindex : BitVec 8) (val : BitVec 8) :
    Mem := od_setWord od m index subindex 1 val.toNat
/-- `Canopen::od_set(u16, u8, s16)` -/
def od_set_s16 (od : CO_OD) (m : Mem) (index : BitVec 16) (subindex : BitVec 8) (val : BitVec 16) :
    Mem := od_setWord od m index subindex 2 val.toNat
/-- `Canopen::od_set(u16, u8, s32)` -/
def od_set_s32 (od : CO_OD) (m : Mem) (index : BitVec 16) (subindex : BitVec 8) (val : BitVec 32) :
    Mem := od_setWord od m index subindex 4 val.toNat
/-- `Canopen::od_set(u16, u8, s64)` -/
def od_set_s64 (od : CO_OD) (m : Mem) (index : BitVec 16) (subindex : BitVec 8) (val : BitVec 64) :
    Mem := od_setWord od m index subindex 8 val.toNat

/-- `Canopen::od_get(u16, u8, u8*)` -/
def od_get_u8 (od : CO_OD) (m : Mem) (index : BitVec 16) (subindex : BitVec 8) : BitVec 8 :=
  BitVec.ofNat 8 (od_getWord od m index subindex 1)
/-- `Canopen::od_get(u16, u8, u16*)` -/
def od_get_u16 (od : CO_OD) (m : Mem) (index : BitVec 16) (subindex : BitVec 8) : BitVec 16 :=
  BitVec.ofNat 16 (od_getWord od m index subindex 2)
/-- `Canopen::od_get(u16, u8, u32*)` -/
def od_get_u32 (od : CO_OD) (m : Mem) (index : BitVec 16) (subindex : BitVec 8) : BitVec 32 :=
  BitVec.ofNat 32 (od_getWord od m index subindex 4)
/-- `Canopen::od_get(u16, u8, u64*)` -/
def od_get_u64 (od : CO_OD) (m : Mem) (index : BitVec 16) (subindex : BitVec 8) : BitVec 64 :=
  BitVec.ofNat 64 (od_getWord od m index subindex 8)
/-- `Canopen::od_get(u16, u8, s8*)`, the value as its two's complement bits -/
def od_get_s8 (od : CO_OD) (m : Mem) (index : BitVec 16) (subindex : BitVec 8) : BitVec 8 :=
  BitVec.ofNat 8 (od_getWord od m index subindex 1)
/-- `Canopen::od_get(u16, u8, s16*)` -/
def od_get_s16 (od : CO_OD) (m : Mem) (index : BitVec 16) (subindex : BitVec 8) : BitVec 16 :=
  BitVec.ofNat 16 (od_getWord od m index subindex 2)
/-- `Canopen::od_get(u16, u8, s32*)` -/
def od_get_s32 (od : CO_OD) (m : Mem) (index : BitVec 16) (subindex : BitVec 8) : BitVec 32 :=
  BitVec.ofNat 32 (od_getWord od m index subindex 4)
/-- `Canopen::od_get(u16, u8, s64*)` -/
def od_get_s64 (od : CO_OD) (m : Mem) (index : BitVec 16) (subindex : BitVec 8) : BitVec 64 :=
  BitVec.ofNat 64 (od_getWord od m index subindex 8)

/-- `Canopen::od_set(u16, u8, bool)`: 1 or 0 in the byte at the pointer. -/
def od_set_bool (od : CO_OD) (m : Mem) (index : BitVec 16) (subindex : BitVec 8) (val : Bool) :
    Mem :=
  let p := get_od_pointer od index subindex 1
  if p = 0 then m else m.writeBytes p [if val = true then 1 else 0]

/-- `Canopen::od_get(u16, u8, bool*)`: whether the byte at the pointer is not 0. -/
def od_get_bool (od : CO_OD) (m : Mem) (index : BitVec 16) (subindex : BitVec 8) : Bool :=
  let p := get_od_pointer od index subindex 1
  if p = 0 then false else if m p = 0 then false else true

/-- A typed `od_get` after `od_set` of the same sub-entry: the value, or 0 without a
pointer. -/
theorem od_getWord_od_setWord (od : CO_OD) (m : Mem) (index : BitVec 16) (subindex : BitVec 8)
    (size val : Nat) (hval : val < 256 ^ size) :
    od_getWord od (od_setWord od m index subindex size val) index subindex size =
      if get_od_pointer od index subindex size = 0 then 0 else val := by
  simp only [od_getWord, od_setWord]
  split
  · rfl
  · have h := Mem.readBytes_writeBytes m (get_od_pointer od index subindex size) (encodeLE size val)
    rw [length_encodeLE] at h
    rw [h, decodeLE_encodeLE, Nat.mod_eq_of_lt hval]

/-! ## A long entry -/

/-- An object dictionary with one entry, 0x2000, whose sub-entries are 260 bytes
long at address 0x1000. -/
def longEntryOD : CO_OD where
  CO_OD_find index := if index = 0x2000#16 then 0#16 else 0xffff#16
  CO_OD_getLength _ _ := 260#16
  CO_OD_getDataPointer _ _ := 0x1000

/-- A 260-byte sub-entry passes the length check of a 4-byte accessor: `get_od_pointer`
returns its address, the `u32` `od_set` writes its first 4 bytes, and `od_get`
reads the value back, where the length mismatch should give `NULL`, no write and
0. -/
theorem od_length_high_byte_ignored :
    longEntryOD.CO_OD_find 0x2000#16 ≠ 0xffff#16 ∧
    (longEntryOD.CO_OD_getLength (longEntryOD.CO_OD_find 0x2000#16) 0#8).toNat = 260 ∧
    get_od_pointer longEntryOD 0x2000#16 0#8 4 = 0x1000 ∧
    ∀ (m : Mem) (v : BitVec 32),
      (od_set_u32 longEntryOD m 0x2000#16 0#8 v).readBytes 0x1000 4 = encodeLE 4 v.toNat ∧
      od_get_u32 longEntryOD (od_set_u32 longEntryOD m 0x2000#16 0#8 v) 0x2000#16 0#8 = v := by
  have hp : get_od_pointer longEntryOD 0x2000#16 0#8 4 = 0x1000 := by decide
  refine ⟨by decide, by decide, hp, fun m v => ⟨?_, ?_⟩⟩
  · have h := Mem.readBytes_writeBytes m 0x1000 (encodeLE 4 v.toNat)
    rw [length_encodeLE] at h
    simp only [od_set_u32, od_setWord, hp]
    exact h
  · simp only [od_get_u32, od_set_u32, od_getWord_od_setWord longEntryOD m 0x2000#16 0#8 4 v.toNat v.isLt, hp]
    simp

/-! ## Strings -/

/-- `'%'`. -/
def percentChar : BitVec 8 := 0x25#8

/-- What `snprintf` produces from a format with no argument after it: every byte but
`%` stands for itself and `%%` for `%`; any other conversion reads an argument that
is not there, which is undefined (`none`). -/
def formatNoArgs : List (BitVec 8) → Option (List (BitVec 8))
  | [] => some []
  | c :: rest =>
    if c = percentChar then
      match rest with
      | d :: rest' => if d = percentChar then (percentChar :: ·) <$> formatNoArgs rest' else none
      | [] => none
    else (c :: ·) <$> formatNoArgs rest

/-- `snprintf(p, length, fmt)` with no argument: nothing for `length = 0`, else the
first `length - 1` bytes of the output and a NUL at `p`. -/
def snprintf (m : Mem) (p length : Nat) (fmt : List (BitVec 8)) : Option Mem :=
  if length = 0 then some m
  else (formatNoArgs fmt).map fun out => m.writeBytes p (out.take (length - 1) ++ [0])

/-- `Canopen::od_set(u16, u8, const char*)`; `p_visible_string` is the string's bytes
before its NUL. -/
def od_set_string (od : CO_OD) (m : Mem) (index : BitVec 16) (subindex : BitVec 8)
    (p_visible_string : List (BitVec 8)) : Option Mem :=
  let entry := od.CO_OD_find index
  if entry = 0xffff#16 then some m
  else
    let length := od.CO_OD_getLength entry subindex
    if length = 0#16 then some m
    else
      let p := od.CO_OD_getDataPointer entry subindex
      if p = 0 then some m
      else snprintf m p length.toNat p_visible_string

/-- `Canopen::od_get(u16, u8, const char**)`: the sub-entry's address, 0 for `NULL`. -/
def od_get_string (od : CO_OD) (index : BitVec 16) (subindex : BitVec 8) : Nat :=
  let entry := od.CO_OD_find index
  if entry = 0xffff#16 then 0
  else
    let p := od.CO_OD_getDataPointer entry subindex
    if p = 0 then 0 else p

/-- The first statement of `Canopen::od_set_defaults`: the application's version
string into `OD_manufacturerSoftwareVersion` (at that address), of
`ODL_manufacturerSoftwareVersion_stringLength` bytes. -/
def od_set_defaults_softwareVersion (m : Mem)
    (OD_manufacturerSoftwareVersion ODL_manufacturerSoftwareVersion_stringLength : Nat)
    (p_version : List (BitVec 8)) : Option Mem :=
  snprintf m OD_manufacturerSoftwareVersion ODL_manufacturerSoftwareVersion_stringLength p_version

/-- A format without `%` produces itself. -/
theorem formatNoArgs_of_no_percent :
    ∀ (s : List (BitVec 8)), (∀ c ∈ s, c ≠ percentChar) → formatNoArgs s = some s
  | [], _ => rfl
  | c :: rest, h => by
    have hc : c ≠ percentChar := h c (List.mem_cons_self c rest)
    have ih := formatNoArgs_of_no_percent rest fun d hd => h d (List.mem_cons_of_mem c hd)
    rw [formatNoArgs.eq_def]
    simp only [if_neg hc, ih]
    rfl

/-- `snprintf` with a format without `%`: the prefix that fits and a NUL. -/
theorem snprintf_of_no_percent (m : Mem) (p length : Nat) (s : List (BitVec 8))
    (hs : ∀ c ∈ s, c ≠ percentChar) (hl : length ≠ 0) :
    snprintf m p length s = some (m.writeBytes p (s.take (length - 1) ++ [0])) := by
  rw [snprintf, if_neg hl, formatNoArgs_of_no_percent s hs]
  rfl

/-- An object dictionary with one entry, 0x2000, whose sub-entries are strings of 8
bytes at address 0x1000. -/
def stringOD : CO_OD where
  CO_OD_find index := if index = 0x2000#16 then 0#16 else 0xffff#16
  CO_OD_getLength _ _ := 8#16
  CO_OD_getDataPointer _ _ := 0x1000

/-- A string without `%` into a sub-entry of declared length `L ≥ 1` with an address:
`od_set` stores its first `min (strlen s) (L - 1)` bytes and a NUL there, changes no
byte outside them, and `od_get` points at exactly that prefix.  On a missing entry,
a length of 0 or `NULL`, it changes nothing. -/
theorem od_set_string_copies (od : CO_OD) (m : Mem) (index : BitVec 16) (subindex : BitVec 8)
    (s : List (BitVec 8)) (hs : ∀ c ∈ s, c ≠ percentChar) :
    let entry := od.CO_OD_find index
    let L := (od.CO_OD_getLength entry subindex).toNat
    let p := od.CO_OD_getDataPointer entry subindex
    if entry ≠ 0xffff#16 ∧ L ≠ 0 ∧ p ≠ 0 then
      ∃ m', od_set_string od m index subindex s = some m' ∧
        m'.HoldsString (od_get_string od index subindex) (s.take (L - 1)) ∧
        ∀ a, a < p ∨ p + min s.length (L - 1) < a → m' a = m a
    else od_set_string od m index subindex s = some m := by
  intro entry L p
  split_ifs with h
  · obtain ⟨he, hL, hp⟩ := h
    have hL' : od.CO_OD_getLength entry subindex ≠ 0#16 := fun h0 => hL (by simp [L, h0])
    refine ⟨m.writeBytes p (s.take (L - 1) ++ [0]), ?_, ?_, fun a ha => ?_⟩
    · simp only [od_set_string]
      rw [if_neg he, if_neg hL', if_neg hp]
      exact snprintf_of_no_percent m p L s hs hL
    · simp only [od_get_string]
      rw [if_neg he, if_neg hp]
      exact Mem.holdsString_writeBytes m p _
    · apply Mem.writeBytes_outside
      simp only [List.length_append, List.length_take, List.length_singleton]
      omega
  · simp only [od_set_string]
    split_ifs with he hL hp <;> try rfl
    exact absurd ⟨he, fun h0 => hL (BitVec.eq_of_toNat_eq (by simpa [L] using h0)), hp⟩ h

theorem od_set_string_copies_plain :
    (∀ c ∈ [0x41#8], c ≠ percentChar) ∧
    ∃ m', od_set_string stringOD (fun _ => 0) 0x2000#16 0#8 [0x41#8] = some m' ∧
      m'.HoldsString 0x1000 [0x41#8] := by
  have h := od_set_string_copies stringOD (fun _ => 0) 0x2000#16 0#8 [0x41#8] (by decide)
  rw [if_pos (by decide)] at h
  obtain ⟨m', hset, hheld, -⟩ := h
  exact ⟨by decide, m', hset, hheld⟩

/-- The two-byte string `%%` set into an 8-byte string entry, and as the version
string of `od_set_defaults`, is stored as the one-byte `%`: `od_get` then points at
`%`, not at the string that was set. -/
theorem od_set_string_percent (m : Mem) :
    ∃ m₁ m₂, od_set_string stringOD m 0x2000#16 0#8 [percentChar, percentChar] = some m₁ ∧
      m₁.HoldsString (od_get_string stringOD 0x2000#16 0#8) [percentChar] ∧
      ¬ m₁.HoldsString (od_get_string stringOD 0x2000#16 0#8) [percentChar, percentChar] ∧
      od_set_defaults_softwareVersion m 0x1000 8 [percentChar, percentChar] = some m₂ ∧
      m₂.HoldsString 0x1000 [percentChar] ∧ ¬ m₂.HoldsString 0x1000 [percentChar, percentChar] := by
  have hfmt : formatNoArgs [percentChar, percentChar] = some [percentChar] := rfl
  have hsn : snprintf m 0x1000 8 [percentChar, percentChar] =
      some (m.writeBytes 0x1000 [percentChar, 0]) := by
    rw [snprintf, if_neg (by decide), hfmt]
    rfl
  have hget : od_get_string stringOD 0x2000#16 0#8 = 0x1000 := by decide
  have hset : od_set_string stringOD m 0x2000#16 0#8 [percentChar, percentChar] =
      some (m.writeBytes 0x1000 [percentChar, 0]) := by
    simp only [od_set_string]
    rw [if_neg (by decide), if_neg (by decide), if_neg (by decide)]
    exact hsn
  have hheld : (m.writeBytes 0x1000 [percentChar, 0]).HoldsString 0x1000 [percentChar] :=
    Mem.holdsString_writeBytes m 0x1000 [percentChar]
  have hnot : ¬ (m.writeBytes 0x1000 [percentChar, 0]).HoldsString 0x1000
      [percentChar, percentChar] := by
    intro h
    have h1 := congrArg (fun l => l[1]?) h
    simp [Mem.readBytes, Mem.writeBytes, percentChar] at h1
  rw [hget]
  exact ⟨_, _, hset, hheld, hnot, hsn, hheld, hnot⟩

end CANopenNode.Canopen
