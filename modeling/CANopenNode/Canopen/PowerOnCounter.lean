/-
  Canopen/PowerOnCounter.lean --- the power-on counter `OD_powerOnCounter` and its
  copy in the RUNTIME record of non-volatile storage, in both revisions of
  `Canopen::init`.

  Source: src/unnamed/part_000, `Canopen::od_load_start` (lines 1375-1378) and
  `Canopen::init` (1553-1590; the `once` block is 1583-1587); src/unnamed/part_001,
  `Canopen::init` (1201-1352; the counter is 1223-1229).

  `init` runs at power-on and again on every communication reset
  (`Canopen::process`).  The model keeps the counter in RAM, a `u32`, its copy in
  the stored RUNTIME record, and the first revision's `once`, which only a power-on
  clears.  A successful `storage.load(RUNTIME)` copies the stored counter into RAM
  and a successful `storage.save(RUNTIME)` copies RAM into storage; what the storage
  answers, and whether the first revision's `init` gets through `co_init` and
  `co_start`, are inputs of each event.  A power-on puts RAM back to the firmware
  image's value.  The other variables of the RUNTIME record are not followed.

  The first revision counts power-ons: it increments the counter once per power-on,
  at the first `init` that starts the stack.  The second increments it at every
  `init`, so it counts each communication reset as a power-on
  (`powerOnCounter_counts`).
-/
import Mathlib.Data.BitVec

set_option autoImplicit false

namespace CANopenNode.Canopen

/-- `OD_powerOnCounter`, its copy in the RUNTIME record, and the first revision's
`once`. -/
structure PowerOn where
  OD_powerOnCounter : BitVec 32
  RUNTIME : BitVec 32
  once : Bool
  deriving DecidableEq, Repr

/-- What the storage and the stack answer during one `init`. -/
structure InitAnswers where
  /-- `storage.load(RUNTIME)` returns `CO_ERROR_NO` -/
  loadOk : Bool
  /-- `storage.save(RUNTIME)` returns `CO_ERROR_NO` -/
  saveOk : Bool
  /-- `co_init` and `co_start` return `CO_ERROR_NO` (first revision) -/
  startOk : Bool
  deriving DecidableEq, Repr

/-- `storage.load(Canopen_storage::RUNTIME)`, on the counter. -/
def PowerOn.loadRuntime (c : PowerOn) (ok : Bool) : PowerOn :=
  if ok then { c with OD_powerOnCounter := c.RUNTIME } else c

/-- `OD_powerOnCounter ++;` then `storage.save(Canopen_storage::RUNTIME);`. -/
def PowerOn.countAndSave (c : PowerOn) (ok : Bool) : PowerOn :=
  let c := { c with OD_powerOnCounter := c.OD_powerOnCounter + 1 }
  if ok then { c with RUNTIME := c.OD_powerOnCounter } else c

/-- A power-on with its `init`, or a communication reset with its `init`. -/
inductive PowerOnEvent
  | powerOn (a : InitAnswers)
  | commReset (a : InitAnswers)
  deriving DecidableEq, Repr

namespace Part000

/-- `Canopen::init` on the counter: `od_load_start` loads RUNTIME; then, if `co_init`
and `co_start` succeed and `once` is not set, set it, count and save. -/
def init_powerOnCounter (c : PowerOn) (a : InitAnswers) : PowerOn :=
  let c := c.loadRuntime a.loadOk
  if a.startOk = true ∧ c.once = false then { c.countAndSave a.saveOk with once := true } else c

end Part000

namespace Part001

/-- `Canopen::init` of this revision on the counter: load RUNTIME, count, save. -/
def init_powerOnCounter (c : PowerOn) (a : InitAnswers) : PowerOn :=
  (c.loadRuntime a.loadOk).countAndSave a.saveOk

end Part001

/-- One event for the revision whose `init` is given: a power-on first puts RAM back
to `image` and clears `once`. -/
def PowerOn.step (init : PowerOn → InitAnswers → PowerOn) (image : BitVec 32) (c : PowerOn) :
    PowerOnEvent → PowerOn
  | .powerOn a => init { c with OD_powerOnCounter := image, once := false } a
  | .commReset a => init c a

/-- A run of events. -/
def PowerOn.run (init : PowerOn → InitAnswers → PowerOn) (image : BitVec 32) (c : PowerOn)
    (es : List PowerOnEvent) : PowerOn :=
  es.foldl (PowerOn.step init image) c

/-- Whether every answer of the event's `init` is success. -/
def PowerOnEvent.allOk : PowerOnEvent → Bool
  | .powerOn a | .commReset a => a.loadOk && a.saveOk && a.startOk

/-- Whether the event is a power-on. -/
def PowerOnEvent.isPowerOn : PowerOnEvent → Bool
  | .powerOn _ => true
  | .commReset _ => false

/-! ## Counting -/

section Counting

variable (image : BitVec 32)

/-- RAM holds the stored count. -/
def PowerOn.Synced (c : PowerOn) : Prop := c.OD_powerOnCounter = c.RUNTIME

/-- With every answer success, the first revision's `init` reloads the stored count
and, on the first start since power-on, counts it up by one. -/
theorem Part000.step_allOk (c : PowerOn) (hc : c.once = true) (e : PowerOnEvent)
    (he : e.allOk = true) :
    (c.step Part000.init_powerOnCounter image e).once = true ∧
      (c.step Part000.init_powerOnCounter image e).Synced ∧
      (c.step Part000.init_powerOnCounter image e).RUNTIME =
        c.RUNTIME + if e.isPowerOn then 1 else 0 := by
  cases e with
  | powerOn a =>
    obtain ⟨⟨hl, hs⟩, ht⟩ : (a.loadOk = true ∧ a.saveOk = true) ∧ a.startOk = true := by
      simpa [PowerOnEvent.allOk] using he
    simp [PowerOn.step, Part000.init_powerOnCounter, PowerOn.loadRuntime, PowerOn.countAndSave,
      PowerOn.Synced, PowerOnEvent.isPowerOn, hl, hs, ht]
  | commReset a =>
    obtain ⟨⟨hl, -⟩, -⟩ : (a.loadOk = true ∧ a.saveOk = true) ∧ a.startOk = true := by
      simpa [PowerOnEvent.allOk] using he
    simp [PowerOn.step, Part000.init_powerOnCounter, PowerOn.loadRuntime, PowerOn.Synced,
      PowerOnEvent.isPowerOn, hl, hc]

/-- With every answer success, the second revision's `init` reloads the stored count
and counts it up by one. -/
theorem Part001.step_allOk (c : PowerOn) (e : PowerOnEvent) (he : e.allOk = true) :
    (c.step Part001.init_powerOnCounter image e).Synced ∧
      (c.step Part001.init_powerOnCounter image e).RUNTIME = c.RUNTIME + 1 := by
  cases e with
  | powerOn a | commReset a =>
    obtain ⟨⟨hl, hs⟩, -⟩ : (a.loadOk = true ∧ a.saveOk = true) ∧ a.startOk = true := by
      simpa [PowerOnEvent.allOk] using he
    simp [PowerOn.step, Part001.init_powerOnCounter, PowerOn.loadRuntime, PowerOn.countAndSave,
      PowerOn.Synced, hl, hs]

theorem ofNat_succ_add (x : BitVec 32) (n : Nat) :
    x + 1 + BitVec.ofNat 32 n = x + BitVec.ofNat 32 (n + 1) := by
  rw [BitVec.ofNat_add, BitVec.add_assoc, BitVec.add_comm 1]
  rfl

theorem Part000.run_allOk (c : PowerOn) (hc : c.once = true) (hsync : c.Synced)
    (es : List PowerOnEvent) (hes : ∀ e ∈ es, e.allOk = true) :
    (c.run Part000.init_powerOnCounter image es).RUNTIME =
        c.RUNTIME + BitVec.ofNat 32 (es.countP PowerOnEvent.isPowerOn) ∧
      (c.run Part000.init_powerOnCounter image es).Synced := by
  induction es generalizing c with
  | nil => exact ⟨by simp [PowerOn.run], hsync⟩
  | cons e es ih =>
    obtain ⟨ho, hs, hr⟩ := Part000.step_allOk image c hc e (hes e (List.mem_cons_self e es))
    obtain ⟨r, s⟩ := ih _ ho hs fun e' h => hes e' (List.mem_cons_of_mem e h)
    refine ⟨?_, s⟩
    rw [PowerOn.run, List.foldl_cons, ← PowerOn.run, r, hr, List.countP_cons]
    cases e.isPowerOn
    · simp
    · simp only [if_true]; exact ofNat_succ_add _ _

theorem Part001.run_allOk (c : PowerOn) (hsync : c.Synced) (es : List PowerOnEvent)
    (hes : ∀ e ∈ es, e.allOk = true) :
    (c.run Part001.init_powerOnCounter image es).RUNTIME = c.RUNTIME + BitVec.ofNat 32 es.length ∧
      (c.run Part001.init_powerOnCounter image es).Synced := by
  induction es generalizing c with
  | nil => exact ⟨by simp [PowerOn.run], hsync⟩
  | cons e es ih =>
    obtain ⟨hs, hr⟩ := Part001.step_allOk image c e (hes e (List.mem_cons_self e es))
    obtain ⟨r, s⟩ := ih _ hs fun e' h => hes e' (List.mem_cons_of_mem e h)
    refine ⟨?_, s⟩
    rw [PowerOn.run, List.foldl_cons, ← PowerOn.run, r, hr, List.length_cons, ofNat_succ_add]

/-- The first revision counts power-ons and the second counts every `init`.  From a
running device (`once` set, RAM holding the stored count), over every run of
power-ons and communication resets whose loads, saves and starts all succeed, the
first revision's stored count grows by the number of power-ons and the second's by
the number of events, power-ons and communication resets alike, each modulo 2^32;
in both, RAM then holds the stored count. -/
theorem powerOnCounter_counts (c : PowerOn) (hc : c.once = true) (hsync : c.Synced)
    (es : List PowerOnEvent) (hes : ∀ e ∈ es, e.allOk = true) :
    (c.run Part000.init_powerOnCounter image es).RUNTIME =
      c.RUNTIME + BitVec.ofNat 32 (es.countP PowerOnEvent.isPowerOn) ∧
    (c.run Part001.init_powerOnCounter image es).RUNTIME = c.RUNTIME + BitVec.ofNat 32 es.length ∧
    (c.run Part000.init_powerOnCounter image es).Synced ∧
    (c.run Part001.init_powerOnCounter image es).Synced :=
  let h0 := Part000.run_allOk image c hc hsync es hes
  let h1 := Part001.run_allOk image c hsync es hes
  ⟨h0.1, h1.1, h0.2, h1.2⟩

theorem powerOnCounter_counts_resets :
    (⟨7, 7, true⟩ : PowerOn).once = true ∧ (⟨7, 7, true⟩ : PowerOn).Synced ∧
    (∀ e ∈ [PowerOnEvent.commReset ⟨true, true, true⟩, .powerOn ⟨true, true, true⟩,
        .commReset ⟨true, true, true⟩], e.allOk = true) ∧
    ((⟨7, 7, true⟩ : PowerOn).run Part000.init_powerOnCounter 0
      [.commReset ⟨true, true, true⟩, .powerOn ⟨true, true, true⟩,
        .commReset ⟨true, true, true⟩]).RUNTIME = 8 ∧
    ((⟨7, 7, true⟩ : PowerOn).run Part001.init_powerOnCounter 0
      [.commReset ⟨true, true, true⟩, .powerOn ⟨true, true, true⟩,
        .commReset ⟨true, true, true⟩]).RUNTIME = 10 := by
  have h := powerOnCounter_counts 0 ⟨7, 7, true⟩ rfl rfl
    [.commReset ⟨true, true, true⟩, .powerOn ⟨true, true, true⟩, .commReset ⟨true, true, true⟩]
    (by decide)
  exact ⟨rfl, rfl, by decide, h.1.trans (by decide), h.2.1.trans (by decide)⟩

end Counting

end CANopenNode.Canopen
