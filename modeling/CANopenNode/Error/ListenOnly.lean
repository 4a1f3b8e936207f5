/-
  Error/ListenOnly.lean --- when `CO_CANerror_txMsg` answers listen-only, over
  every run of the handler.

  Source: src/stack/neuberger-socketCAN/CO_error.c, lines 65-136, 184-209 and
  245-319.

  A reset opens a *dwell*: listen-only, stamped with the reset's clock reading.
  The resets are read off the frames (`resets`: a bus-off frame, or the no-ACK
  frame that takes the count past 10), never off the handler's answers.  The
  dwell ends at a received frame or at a send attempt reading more than 5 s past
  the stamp; a later reset opens a new one.  `Dwell cs t` says the calls hold a
  reset at `t` followed by nothing that ends it, and `DwellInv` ties the
  handler's `listenOnly` and `timestamp` to that: it holds after every call
  (`dwellInv_perform`), hence after every run (`dwellInv_run`), and the answer
  of the transmit check is read off it.
-/
import CANopenNode.Error.Noack

set_option autoImplicit false

namespace CANopenNode.Error

open CANopenNode.Driver CO_CANinterfaceState_t

/-- Whether a call ends a dwell stamped `t`: a received frame, or a send attempt
reading `tv_sec > t.tv_sec + 5`. -/
def endsDwell (t : timespec) : ErrorhandlerCall → Bool
  | .rxMsg => true
  | .txMsg now => decide (t.tv_sec + 5 < now.tv_sec)
  | .rxMsgError _ _ => false

/-- The calls hold a reset at reading `t`, and every call after it, judged with
the calls before it, is no reset and does not end the dwell. -/
def Dwell (cs : List ErrorhandlerCall) (t : timespec) : Prop :=
  ∃ pre msg post, cs = pre ++ .rxMsgError msg t :: post ∧
    resets pre (.rxMsgError msg t) = true ∧
    ∀ mid c rest, post = mid ++ c :: rest →
      resets (pre ++ .rxMsgError msg t :: mid) c = false ∧ endsDwell t c = false

/-! ## Dwells of a growing run -/

/-- Where a split of `l ++ [a]` puts `a`: as the split-off element, or in the
tail. -/
theorem append_singleton_eq_append_cons {α : Type} {l mid rest : List α} {a b : α}
    (h : l ++ [a] = mid ++ b :: rest) :
    (rest = [] ∧ l = mid ∧ a = b) ∨ ∃ rest', rest = rest' ++ [a] ∧ l = mid ++ b :: rest' := by
  rcases List.eq_nil_or_concat rest with rfl | ⟨L, b', rfl⟩
  · obtain ⟨hl, ha⟩ := List.append_inj' h rfl
    exact .inl ⟨rfl, hl, by simpa using ha⟩
  · rw [List.concat_eq_append] at h ⊢
    rw [← List.cons_append, ← List.append_assoc] at h
    obtain ⟨hl, ha⟩ := List.append_inj' h rfl
    obtain rfl : a = b' := by simpa using ha
    exact .inr ⟨L, rfl, hl⟩

theorem dwell_append_singleton (cs : List ErrorhandlerCall) (c : ErrorhandlerCall) (t : timespec) :
    Dwell (cs ++ [c]) t ↔
      (Dwell cs t ∧ resets cs c = false ∧ endsDwell t c = false) ∨
        (resets cs c = true ∧ ∃ msg, c = .rxMsgError msg t) := by
  constructor
  · rintro ⟨pre, msg, post, hcs, hr, hq⟩
    rcases append_singleton_eq_append_cons hcs with ⟨rfl, rfl, rfl⟩ | ⟨L, rfl, rfl⟩
    · exact .inr ⟨hr, msg, rfl⟩
    · refine .inl ⟨⟨pre, msg, L, rfl, hr, fun mid c' rest h => hq mid c' (rest ++ [c]) ?_⟩,
        hq L c [] rfl⟩
      simp [h]
  · rintro (⟨⟨pre, msg, post, rfl, hr, hq⟩, hrc, hd⟩ | ⟨hr, msg, rfl⟩)
    · refine ⟨pre, msg, post ++ [c], by simp, hr, fun mid c' rest h => ?_⟩
      rcases append_singleton_eq_append_cons h with ⟨-, rfl, rfl⟩ | ⟨L, -, rfl⟩
      · exact ⟨hrc, hd⟩
      · exact hq mid c' L rfl
    · exact ⟨cs, msg, [], rfl, hr, fun mid c rest h => by simp at h⟩

/-- A call that is no reset and ends no open dwell leaves the dwells as they were. -/
theorem dwell_append_quiet {l : List ErrorhandlerCall} {c : ErrorhandlerCall}
    (hr : resets l c = false) (hd : ∀ t, Dwell l t → endsDwell t c = false) (t : timespec) :
    Dwell (l ++ [c]) t ↔ Dwell l t := by
  rw [dwell_append_singleton]
  constructor
  · rintro (⟨h, -⟩ | ⟨h, -⟩)
    · exact h
    · simp [hr] at h
  · exact fun h => .inl ⟨h, hr, hd t h⟩

/-- A call that is no reset and ends every open dwell leaves none open. -/
theorem not_dwell_append_ending {l : List ErrorhandlerCall} {c : ErrorhandlerCall}
    (hr : resets l c = false) (hd : ∀ t, Dwell l t → endsDwell t c = true) (t : timespec) :
    ¬ Dwell (l ++ [c]) t := by
  rw [dwell_append_singleton]
  rintro (⟨h, -, h'⟩ | ⟨h, -⟩)
  · simp [hd t h] at h'
  · simp [hr] at h

/-- After a reset at `now` the only open dwell is the one stamped `now`. -/
theorem dwell_append_reset {cs : List ErrorhandlerCall} {msg : can_frame} {now : timespec}
    (hr : resets cs (.rxMsgError msg now) = true) (t : timespec) :
    Dwell (cs ++ [.rxMsgError msg now]) t ↔ t = now := by
  rw [dwell_append_singleton]
  constructor
  · rintro (⟨-, h, -⟩ | ⟨-, msg', h⟩)
    · simp [hr] at h
    · simp only [ErrorhandlerCall.rxMsgError.injEq] at h
      exact h.2.symm
  · rintro rfl
    exact .inr ⟨hr, msg, rfl⟩

/-! ## The invariant -/

/-- The handler is listen-only exactly while a dwell is open, stamped with the
dwell's reading. -/
def DwellInv (cs : List ErrorhandlerCall) (h : CO_CANinterfaceErrorhandler_t) : Prop :=
  (h.listenOnly = true ↔ ∃ t, Dwell cs t) ∧ ∀ t, Dwell cs t → h.timestamp = t

/-- A handler that is not listen-only after calls that leave no dwell open. -/
theorem dwellInv_of_closed {l : List ErrorhandlerCall} {h : CO_CANinterfaceErrorhandler_t}
    (hl : h.listenOnly = false) (hnot : ∀ t, ¬ Dwell l t) : DwellInv l h :=
  ⟨⟨fun h' => absurd (hl.symm.trans h') Bool.false_ne_true, fun ⟨t, ht⟩ => absurd ht (hnot t)⟩,
    fun t ht => absurd ht (hnot t)⟩

theorem dwellInv_perform (cs : List ErrorhandlerCall) (c : ErrorhandlerCall)
    (hs : DwellInv cs (errorhandlerRun cs)) :
    DwellInv (cs ++ [c]) (c.perform (errorhandlerRun cs)) := by
  obtain ⟨hl, hts⟩ := hs
  cases c with
  | rxMsg =>
    exact dwellInv_of_closed (CO_CANerror_rxMsg_listenOnly _)
      (not_dwell_append_ending rfl fun _ _ => rfl)
  | txMsg now =>
    unfold DwellInv
    simp only [ErrorhandlerCall.perform, CO_CANerror_txMsg]
    by_cases hlo : (errorhandlerRun cs).listenOnly = true
    · by_cases hlate : (errorhandlerRun cs).timestamp.tv_sec + 5 < now.tv_sec
      · simp only [hlo, hlate, if_true]
        exact dwellInv_of_closed rfl (not_dwell_append_ending rfl
          fun t ht => by simp [endsDwell, ← hts t ht, hlate])
      · have hq := dwell_append_quiet (l := cs) (c := .txMsg now) rfl
          (fun t ht => by simp [endsDwell, ← hts t ht, hlate])
        simp only [hlo, hlate, if_true, if_false, hq, true_iff]
        exact ⟨hl.mp hlo, hts⟩
    · have hq := dwell_append_quiet (l := cs) (c := .txMsg now) rfl
        (fun t ht => absurd (hl.mpr ⟨t, ht⟩) hlo)
      simp only [hlo, Bool.false_eq_true, if_false, hq, false_iff, not_exists]
      exact ⟨fun t ht => hlo (hl.mpr ⟨t, ht⟩), hts⟩
  | rxMsgError msg now =>
    unfold DwellInv
    have hrun := CO_CANerror_rxMsgError_run cs msg now
    simp only [ErrorhandlerCall.perform]
    cases hr : resets cs (.rxMsgError msg now)
    · simp only [hr, Bool.false_eq_true, if_false] at hrun
      simp only [hrun.1, hrun.2, dwell_append_quiet hr (fun _ _ => rfl)]
      exact ⟨hl, hts⟩
    · simp only [hr, if_true] at hrun
      simp only [hrun.1, hrun.2, dwell_append_reset hr, exists_eq, true_iff, true_and]
      exact fun t ht => ht.symm

theorem dwellInv_run (cs : List ErrorhandlerCall) : DwellInv cs (errorhandlerRun cs) := by
  induction cs using List.reverseRecOn with
  | nil => exact dwellInv_of_closed rfl fun t ⟨pre, _, _, h, _⟩ => by simp at h
  | append_singleton cs c ih =>
    rw [errorhandlerRun_append_singleton]
    exact dwellInv_perform cs c ih

/-! ## The transmit check -/

/-- After any run of the handler, `CO_CANerror_txMsg` answers listen-only exactly
when a reset at some reading `t` is followed by no reset, no received frame and
no send attempt reading more than 5 s past `t`, and the current reading is at
most 5 s past `t`; every other time it answers active. -/
theorem CO_CANerror_txMsg_listenOnly_iff (cs : List ErrorhandlerCall) (now : timespec) :
    ((CO_CANerror_txMsg (errorhandlerRun cs) now).1 = CO_INTERFACE_LISTEN_ONLY ↔
      ∃ t, Dwell cs t ∧ now.tv_sec ≤ t.tv_sec + 5) ∧
    ((CO_CANerror_txMsg (errorhandlerRun cs) now).1 = CO_INTERFACE_LISTEN_ONLY ∨
      (CO_CANerror_txMsg (errorhandlerRun cs) now).1 = CO_INTERFACE_ACTIVE) := by
  obtain ⟨hl, hts⟩ := dwellInv_run cs
  unfold CO_CANerror_txMsg
  by_cases hlo : (errorhandlerRun cs).listenOnly = true
  · obtain ⟨t, ht⟩ := hl.mp hlo
    have hst := hts t ht
    by_cases hlate : (errorhandlerRun cs).timestamp.tv_sec + 5 < now.tv_sec
    · simp only [hlo, hlate, if_true, reduceCtorEq, false_iff, not_exists, not_and, or_true,
        and_true]
      intro t' ht'
      rw [← hts t' ht']
      omega
    · simp only [hlo, hlate, if_true, if_false, true_or, and_true, true_iff]
      exact ⟨t, ht, by rw [← hst]; omega⟩
  · simp only [hlo, if_false, reduceCtorEq, false_iff, not_exists, not_and, or_true, and_true,
      Bool.false_eq_true]
    exact fun t ht => absurd (hl.mpr ⟨t, ht⟩) hlo

end CANopenNode.Error
