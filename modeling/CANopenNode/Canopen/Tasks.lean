/-
  Canopen/Tasks.lean --- the CANopen timer task and the main task around a
  communication reset, interleaved statement by statement.

  Source: src/unnamed/part_000 (canopen.cpp): `Canopen::timer_rx_thread`
  (lines 771-788), `Canopen::process` (1611-1648), `Canopen::deinit`
  (1592-1609), `Canopen::init` (1553-1590) and `Canopen::co_start` (1492-1546).

  The two tasks share `timer_rx_suspend` and the reboot request of `globals`;
  the main task wakes the timer task with `vTaskResume`, which does nothing to a
  task that is not suspended.  A schedule is a list of task steps, and every
  list is allowed: no priority is assumed.  The model starts after the first
  `co_start` has created the timer task.  The statements of `init` and
  `co_start` that touch neither shared variable are grouped into one step each;
  `CO_RESET_QUIT` ends the main task (the code's own comment: no CAN
  communication any more).

  `TasksInv` holds in every reachable state: while the main task is past the
  wait loop of `deinit` and before its `vTaskResume`, the timer task is parked
  between its clearing store and its suspension.  The same handshake loses the
  wake-up when the main task runs inside that window (`resume_lost_before_suspend`);
  a scheduler that never runs the main task there keeps it
  (`timer_running_after_resume`).
-/
import Mathlib.Logic.Basic

set_option autoImplicit false

namespace CANopenNode.Canopen

/-- Where the timer task stands in `timer_rx_thread`. -/
inductive TimerPc
  /-- `wdt_trigger(wdt)` -/
  | wdt_trigger
  /-- `CANrx_threadTmr_process()`: uses the CANopen objects and their tables -/
  | threadTmr_process
  /-- `if ((timer_rx_suspend == true) || (globals.get_reboot() == true))` -/
  | check
  /-- `timer_rx_suspend = false` -/
  | clearSuspend
  /-- `wdt_pause(wdt)` -/
  | wdt_pause
  /-- `vTaskSuspend(NULL)` -/
  | vTaskSuspend
  /-- suspended, until a `vTaskResume` -/
  | suspended
  /-- `wdt_resume(wdt)` -/
  | wdt_resume
  deriving DecidableEq, Repr

/-- Where the main task stands in `process`, `deinit`, `init` and `co_start`. -/
inductive MainPc
  /-- `threadMain_process(&reset)` and the evaluation of `reset` -/
  | process
  /-- `timer_rx_suspend = true` -/
  | setSuspend
  /-- `while (timer_rx_suspend != false) vTaskDelay(1)` -/
  | waitSuspend
  /-- `nmt_relay_event(INITIALIZING)` -/
  | relayEvent
  /-- `CO_delete(CAN_MODULE_A)` -/
  | delete
  /-- the rest of `deinit`, then `init` for `CO_RESET_COMM` -/
  | deinitTail
  /-- `init` up to `co_start`: defaults, NVM load, `co_init`, LSS assignment -/
  | init
  /-- `co_start` up to the resume: `CO_CANopenInit`, callbacks, `CANrx_threadTmr_init` -/
  | coStart
  /-- `vTaskResume(this->timer_rx_handle)` -/
  | resume
  /-- after `CO_RESET_QUIT` -/
  | quit
  deriving DecidableEq, Repr

/-- `CO_NMT_reset_cmd_t`: what `threadMain_process` reports. -/
inductive CO_NMT_reset_cmd_t
  | CO_RESET_NOT
  | CO_RESET_COMM
  | CO_RESET_APP
  | CO_RESET_QUIT
  deriving DecidableEq, Repr

/-- Both tasks and what they share. -/
structure Tasks where
  timer : TimerPc
  main : MainPc
  /-- the local `reset` of `process` -/
  reset : CO_NMT_reset_cmd_t
  timer_rx_suspend : Bool
  /-- `globals.get_reboot()` -/
  reboot : Bool
  deriving DecidableEq, Repr

/-- One statement of the timer task; `none` while it is suspended. -/
def timerStep (s : Tasks) : Option Tasks :=
  match s.timer with
  | .wdt_trigger => some { s with timer := .threadTmr_process }
  | .threadTmr_process => some { s with timer := .check }
  | .check =>
    some { s with timer := if s.timer_rx_suspend || s.reboot then .clearSuspend else .wdt_trigger }
  | .clearSuspend => some { s with timer := .wdt_pause, timer_rx_suspend := false }
  | .wdt_pause => some { s with timer := .vTaskSuspend }
  | .vTaskSuspend => some { s with timer := .suspended }
  | .suspended => none
  | .wdt_resume => some { s with timer := .wdt_trigger }

/-- One statement of the main task.  `cmd` is what `threadMain_process`
reports and `ok` whether `init` or `co_start` succeeds; a failure requests a
reboot and returns to `process`. -/
def mainStep (cmd : CO_NMT_reset_cmd_t) (ok : Bool) (s : Tasks) : Option Tasks :=
  match s.main with
  | .process =>
    match cmd with
    | .CO_RESET_NOT => some s
    | .CO_RESET_APP => some { s with reboot := true }
    | .CO_RESET_COMM | .CO_RESET_QUIT => some { s with main := .setSuspend, reset := cmd }
  | .setSuspend => some { s with main := .waitSuspend, timer_rx_suspend := true }
  | .waitSuspend =>
    some { s with main := if s.timer_rx_suspend then .waitSuspend else .relayEvent }
  | .relayEvent => some { s with main := .delete }
  | .delete => some { s with main := .deinitTail }
  | .deinitTail =>
    some { s with main := if s.reset = .CO_RESET_COMM then .init else .quit }
  | .init => some (if ok then { s with main := .coStart } else { s with main := .process, reboot := true })
  | .coStart =>
    some (if ok then { s with main := .resume } else { s with main := .process, reboot := true })
  | .resume =>
    some { s with main := .process, timer := if s.timer = .suspended then .wdt_resume else s.timer }
  | .quit => none

/-- Which task the scheduler runs next, with the main task's environment. -/
inductive Sched
  | timer
  | main (cmd : CO_NMT_reset_cmd_t) (ok : Bool)
  deriving DecidableEq, Repr

/-- One scheduled step. -/
def Tasks.step (s : Tasks) : Sched → Option Tasks
  | .timer => timerStep s
  | .main cmd ok => mainStep cmd ok s

/-- Run a schedule with a given step function; `none` once a step is refused. -/
def runSchedule (step : Tasks → Sched → Option Tasks) (s : Tasks) : List Sched → Option Tasks
  | [] => some s
  | a :: as => (step s a).bind fun t => runSchedule step t as

/-- Run a schedule; `none` if it schedules a task that cannot step. -/
def Tasks.exec (s : Tasks) (σ : List Sched) : Option Tasks := runSchedule Tasks.step s σ

/-- Right after the first `co_start`: the timer task is created, nothing pending. -/
def Tasks.initial : Tasks :=
  { timer := .wdt_trigger, main := .process, reset := .CO_RESET_NOT,
    timer_rx_suspend := false, reboot := false }

/-- A state some schedule reaches. -/
def Reachable (s : Tasks) : Prop := ∃ σ, Tasks.initial.exec σ = some s

/-- A property that every step keeps holds after every run. -/
theorem runSchedule_preserves {step : Tasks → Sched → Option Tasks} (P : Tasks → Prop)
    (hstep : ∀ {s a t}, P s → step s a = some t → P t) :
    ∀ (σ : List Sched) {s t : Tasks}, P s → runSchedule step s σ = some t → P t
  | [], _, _, hs, h => by cases h; exact hs
  | a :: σ, _, _, hs, h => by
    obtain ⟨u, hu, h⟩ := Option.bind_eq_some.mp h
    exact runSchedule_preserves P hstep σ (hstep hs hu) h

/-! ## The handshake invariant -/

/-- The main task has left the wait loop of `deinit` and not yet executed
`vTaskResume`. -/
def MainPc.pastWait : MainPc → Bool
  | .relayEvent | .delete | .deinitTail | .init | .coStart | .resume => true
  | _ => false

/-- The timer task has cleared `timer_rx_suspend` and not been resumed since. -/
def TimerPc.parked : TimerPc → Bool
  | .wdt_pause | .vTaskSuspend | .suspended => true
  | _ => false

/-- Once the main task has seen the flag cleared, the timer task is parked. -/
def TasksInv (s : Tasks) : Prop :=
  s.main.pastWait = true ∨ (s.main = .waitSuspend ∧ s.timer_rx_suspend = false) →
    s.timer.parked = true

theorem tasksInv_initial : TasksInv Tasks.initial := by
  simp [TasksInv, Tasks.initial, MainPc.pastWait]

theorem tasksInv_timerStep {s t : Tasks} (hs : TasksInv s) (h : timerStep s = some t) :
    TasksInv t := by
  obtain ⟨timer, main, reset, flag, reboot⟩ := s
  cases timer <;> simp only [timerStep] at h <;> (try split at h) <;> cases h <;>
    simp_all [TasksInv, TimerPc.parked]

theorem tasksInv_mainStep {s t : Tasks} {cmd : CO_NMT_reset_cmd_t} {ok : Bool}
    (hs : TasksInv s) (h : mainStep cmd ok s = some t) : TasksInv t := by
  obtain ⟨timer, main, reset, flag, reboot⟩ := s
  cases main <;> simp only [mainStep] at h
  case process => cases cmd <;> cases h <;> simp_all [TasksInv, MainPc.pastWait]
  all_goals (try split at h) <;> cases h <;> simp_all [TasksInv, MainPc.pastWait, TimerPc.parked]

theorem tasksInv_of_reachable {s : Tasks} (h : Reachable s) : TasksInv s := by
  obtain ⟨σ, hσ⟩ := h
  refine runSchedule_preserves TasksInv (fun {s a t} hs h => ?_) σ tasksInv_initial hσ
  cases a with
  | timer => exact tasksInv_timerStep hs h
  | main cmd ok => exact tasksInv_mainStep hs h

/-! ## Only `vTaskResume` unparks the timer task -/

/-- Every main statement but `vTaskResume` leaves the timer task where it is. -/
theorem mainStep_timer {s t : Tasks} {cmd : CO_NMT_reset_cmd_t} {ok : Bool}
    (hr : s.main ≠ .resume) (h : mainStep cmd ok s = some t) : t.timer = s.timer := by
  obtain ⟨timer, main, reset, flag, reboot⟩ := s
  cases main <;> simp only [mainStep] at h
  case process => cases cmd <;> cases h <;> rfl
  case resume => exact absurd rfl hr
  all_goals (try split at h) <;> cases h <;> rfl

/-- The timer task's own steps keep it parked. -/
theorem timerStep_parked {s t : Tasks} (hp : s.timer.parked = true) (h : timerStep s = some t) :
    t.timer.parked = true := by
  obtain ⟨timer, main, reset, flag, reboot⟩ := s
  cases timer <;> simp only [timerStep, TimerPc.parked, Bool.false_eq_true] at hp h <;> cases h <;>
    rfl

/-- A run that starts with the timer task parked either ends with it parked or
passes a `vTaskResume` of the main task. -/
theorem parked_exec : ∀ (σ : List Sched) {s t : Tasks}, s.timer.parked = true →
    s.exec σ = some t → t.timer.parked = true ∨
      ∃ σ₁ σ₂ u cmd ok, σ = σ₁ ++ Sched.main cmd ok :: σ₂ ∧ s.exec σ₁ = some u ∧
        u.main = .resume
  | [], _, _, hp, h => by cases h; exact .inl hp
  | a :: σ, s, _, hp, h => by
    obtain ⟨u, hu, h⟩ := Option.bind_eq_some.mp h
    by_cases hr : (∃ cmd ok, a = .main cmd ok) ∧ s.main = .resume
    · obtain ⟨⟨cmd, ok, rfl⟩, hm⟩ := hr
      exact .inr ⟨[], σ, s, cmd, ok, rfl, rfl, hm⟩
    · have hu' : u.timer.parked = true := by
        cases a with
        | timer => exact timerStep_parked hp hu
        | main cmd ok => exact (mainStep_timer (fun hm => hr ⟨⟨cmd, ok, rfl⟩, hm⟩) hu) ▸ hp
      rcases parked_exec σ hu' h with hp' | ⟨σ₁, σ₂, v, cmd, ok, rfl, h₁, hv⟩
      · exact .inl hp'
      · refine .inr ⟨a :: σ₁, σ₂, v, cmd, ok, rfl, ?_, hv⟩
        simpa only [Tasks.exec, runSchedule, hu, Option.some_bind] using h₁

/-- In every reachable state the main task does not execute `CO_delete` while the
timer task is in `CANrx_threadTmr_process`; and once the main task is past the
wait loop of `deinit`, a run brings the timer task back to
`CANrx_threadTmr_process` only through a `vTaskResume` of the main task. -/
theorem timer_never_processes_during_reset (s : Tasks) (hs : Reachable s) :
    (s.main = .delete → s.timer ≠ .threadTmr_process) ∧
    (s.main.pastWait = true → ∀ σ t, s.exec σ = some t → t.timer = .threadTmr_process →
      ∃ σ₁ σ₂ u cmd ok, σ = σ₁ ++ Sched.main cmd ok :: σ₂ ∧ s.exec σ₁ = some u ∧
        u.main = .resume) := by
  have hinv := tasksInv_of_reachable hs
  refine ⟨fun hm ht => ?_, fun hw σ t h ht => ?_⟩
  · have hp := hinv (.inl (by rw [hm]; rfl))
    rw [ht] at hp
    cases hp
  · rcases parked_exec σ (hinv (.inl hw)) h with hp | hres
    · rw [ht] at hp
      cases hp
    · exact hres

/-- The main task asks the timer task to stop for a communication reset, the timer
task clears the flag at once, and the main task reaches `CO_delete`. -/
def deleteSchedule : List Sched :=
  [.main .CO_RESET_COMM true, .main .CO_RESET_COMM true, .timer, .timer, .timer, .timer,
    .main .CO_RESET_NOT true, .main .CO_RESET_NOT true]

theorem timer_never_processes_at_delete :
    Reachable ⟨.wdt_pause, .delete, .CO_RESET_COMM, false, false⟩ ∧
    ((MainPc.delete = .delete → TimerPc.wdt_pause ≠ .threadTmr_process) ∧
    (MainPc.delete.pastWait = true → ∀ σ t,
      Tasks.exec ⟨.wdt_pause, .delete, .CO_RESET_COMM, false, false⟩ σ = some t →
      t.timer = .threadTmr_process →
      ∃ σ₁ σ₂ u cmd ok, σ = σ₁ ++ Sched.main cmd ok :: σ₂ ∧
        Tasks.exec ⟨.wdt_pause, .delete, .CO_RESET_COMM, false, false⟩ σ₁ = some u ∧
        u.main = .resume)) :=
  ⟨⟨deleteSchedule, rfl⟩, timer_never_processes_during_reset _ ⟨deleteSchedule, rfl⟩⟩

/-! ## The lost wake-up -/

/-- The timer task is suspended for good: the main task is before the wait loop of
its next `deinit`, or in it with the flag set. -/
def LostWakeup (s : Tasks) : Prop :=
  s.timer = .suspended ∧
    (s.main = .process ∨ s.main = .setSuspend ∨ (s.main = .waitSuspend ∧ s.timer_rx_suspend = true))

theorem lostWakeup_step {s t : Tasks} {a : Sched} (hs : LostWakeup s) (h : s.step a = some t) :
    LostWakeup t := by
  obtain ⟨timer, main, reset, flag, reboot⟩ := s
  obtain ⟨rfl, hm⟩ := hs
  cases a with
  | timer => cases h
  | main cmd ok =>
    rcases hm with rfl | rfl | ⟨rfl, rfl⟩
    · cases cmd <;> cases h <;> simp [LostWakeup]
    · cases h; simp [LostWakeup]
    · cases h; simp [LostWakeup]

/-- A communication reset in which the timer task is descheduled right after
clearing `timer_rx_suspend`: the main task finishes `deinit`, `init` and
`co_start`, its `vTaskResume` finds the timer task not yet suspended, and the
timer task then suspends itself. -/
def lostWakeupSchedule : List Sched :=
  [.main .CO_RESET_COMM true, .main .CO_RESET_COMM true, .timer, .timer, .timer, .timer] ++
    List.replicate 7 (.main .CO_RESET_NOT true) ++ [.timer, .timer]

/-- With no reboot requested, the main task is back in `process` after its
`vTaskResume` while the timer task is suspended; from there no schedule runs the
timer task again, and the next `deinit` never leaves its wait loop. -/
theorem resume_lost_before_suspend :
    Tasks.initial.exec lostWakeupSchedule =
      some ⟨.suspended, .process, .CO_RESET_COMM, false, false⟩ ∧
    ∀ σ t, Tasks.exec ⟨.suspended, .process, .CO_RESET_COMM, false, false⟩ σ = some t →
      t.timer = .suspended ∧ t.main.pastWait = false := by
  refine ⟨rfl, fun σ t h => ?_⟩
  obtain ⟨ht, hm⟩ := runSchedule_preserves LostWakeup lostWakeup_step σ
    ⟨rfl, .inl rfl⟩ h
  refine ⟨ht, ?_⟩
  rcases hm with hm | hm | ⟨hm, -⟩ <;> rw [hm] <;> rfl

/-! ## A scheduler that keeps the timer task's parking in one piece -/

/-- One step of a scheduler that never runs the main task while the timer task is
between its clearing store and `vTaskSuspend`, as with a timer task of higher
priority that does not block there. -/
def Tasks.parkStep (s : Tasks) : Sched → Option Tasks
  | .timer => timerStep s
  | .main cmd ok =>
    if s.timer = .wdt_pause ∨ s.timer = .vTaskSuspend then none else mainStep cmd ok s

/-- The timer task is in its loop, neither parked nor about to park. -/
def TimerPc.running : TimerPc → Bool
  | .wdt_trigger | .threadTmr_process | .check | .wdt_resume => true
  | _ => false

/-- Without a reboot request: while the main task is in `process` the timer task
runs; during the wait loop it runs or parks as the flag says; past the wait loop
it is suspended and the flag is clear. -/
def ParkInv (s : Tasks) : Prop :=
  s.reboot = false →
    ((s.main = .process ∨ s.main = .setSuspend) →
      s.timer.running = true ∧ s.timer_rx_suspend = false) ∧
    (s.main = .waitSuspend →
      (s.timer_rx_suspend = true → s.timer.running = true ∨ s.timer = .clearSuspend) ∧
      (s.timer_rx_suspend = false → s.timer.parked = true)) ∧
    (s.main.pastWait = true ∨ s.main = .quit → s.timer = .suspended ∧ s.timer_rx_suspend = false)

theorem parkInv_timerStep {s t : Tasks} (hs : ParkInv s) (h : timerStep s = some t) :
    ParkInv t := by
  obtain ⟨timer, main, reset, flag, reboot⟩ := s
  cases timer <;> simp only [timerStep] at h
  case check =>
    cases h; cases flag <;> cases reboot <;> simp_all [ParkInv, TimerPc.running, TimerPc.parked]
  all_goals cases h <;> simp_all [ParkInv, TimerPc.running, TimerPc.parked]

theorem parkInv_mainStep {s t : Tasks} {cmd : CO_NMT_reset_cmd_t} {ok : Bool} (hs : ParkInv s)
    (hp : ¬(s.timer = .wdt_pause ∨ s.timer = .vTaskSuspend)) (h : mainStep cmd ok s = some t) :
    ParkInv t := by
  obtain ⟨timer, main, reset, flag, reboot⟩ := s
  cases main <;> simp only [mainStep] at h
  case process => cases cmd <;> cases h <;> simp_all [ParkInv, MainPc.pastWait]
  case waitSuspend =>
    cases h
    cases flag
    · cases timer <;> simp_all [ParkInv, MainPc.pastWait, TimerPc.parked]
    · exact hs
  case resume => cases h; simp_all [ParkInv, MainPc.pastWait, TimerPc.running]
  all_goals (try split at h) <;> cases h <;> simp_all [ParkInv, MainPc.pastWait]

/-- Under that scheduler the wake-up is never lost: whenever the main task is in
`process` and no reboot is requested, the timer task is running its loop. -/
theorem timer_running_after_resume (σ : List Sched) (t : Tasks)
    (h : runSchedule Tasks.parkStep Tasks.initial σ = some t) (hr : t.reboot = false)
    (hm : t.main = .process) : t.timer.running = true := by
  have hinv : ParkInv t := by
    refine runSchedule_preserves ParkInv (fun {s a t} hs h => ?_) σ ?_ h
    · cases a with
      | timer => exact parkInv_timerStep hs h
      | main cmd ok =>
        simp only [Tasks.parkStep] at h
        split at h
        · cases h
        · exact parkInv_mainStep hs ‹_› h
    · simp [ParkInv, Tasks.initial, TimerPc.running, MainPc.pastWait]
  exact ((hinv hr).1 (.inl hm)).1

/-- The reset of `lostWakeupSchedule` with the timer task let finish its parking
before the main task leaves the wait loop. -/
def parkedResetSchedule : List Sched :=
  [.main .CO_RESET_COMM true, .main .CO_RESET_COMM true] ++ List.replicate 6 .timer ++
    List.replicate 7 (.main .CO_RESET_NOT true)

theorem timer_running_after_parked_reset :
    runSchedule Tasks.parkStep Tasks.initial parkedResetSchedule =
      some ⟨.wdt_resume, .process, .CO_RESET_COMM, false, false⟩ ∧
    Tasks.reboot ⟨.wdt_resume, .process, .CO_RESET_COMM, false, false⟩ = false ∧
    Tasks.main ⟨.wdt_resume, .process, .CO_RESET_COMM, false, false⟩ = .process ∧
    TimerPc.running .wdt_resume = true :=
  ⟨rfl, rfl, rfl, timer_running_after_resume parkedResetSchedule _ rfl rfl rfl⟩

end CANopenNode.Canopen
