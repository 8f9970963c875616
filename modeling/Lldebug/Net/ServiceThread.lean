import Lldebug.Net.Command

/-!
# `StartThread`, `StopThread` and `ServiceThread`

`StartThread` spawns `ServiceThread` when `IsThreadActive()` is false, but the
flag is set only by the new thread, in its second statement.  `StopThread`
clears the flag only if it reads it set, and then joins; the loop of
`ServiceThread` exits only once it reads the flag cleared.

The caller runs `StartThread` and, later, `StopThread`.  Each `IsThreadActive`
and `SetThreadActive` call holds `m_mutex` and is one step.  The other
statements of either thread touch neither the flag nor the other thread; they
are merged into the step around them.  Whether `poll_one()` finds work is the
environment's choice.
-/

namespace Lldebug.Net

/-- Where the thread that calls `StartThread` and then `StopThread` is. -/
inductive CallerPc
  /-- About to call `StartThread`. -/
  | startThread
  /-- At the start of `StopThread`: `IsConnected()` and `DoEndConnection()`. -/
  | stopThread
  /-- At `if (IsThreadActive())` of `StopThread`. -/
  | checkActive
  /-- At `SetThreadActive(false)` of `StopThread`. -/
  | setInactive
  /-- At `if (m_thread != NULL) m_thread->join()`. -/
  | join
  /-- `StopThread` has returned. -/
  | done
  deriving DecidableEq, Repr

/-- Where `ServiceThread` is. -/
inductive ServicePc
  /-- At `if (IsThreadActive()) return;`. -/
  | start
  /-- At `SetThreadActive(true)`. -/
  | setActive
  /-- At the loop's exit test `!IsThreadActive() && m_ioService.poll_one() == 0`. -/
  | loop
  /-- At `SetThreadActive(false)` after the loop. -/
  | setInactive
  /-- Returned. -/
  | finished
  deriving DecidableEq, Repr

structure ServiceThreads where
  /-- `m_isThreadActive`. -/
  isThreadActive : Bool
  caller : CallerPc
  /-- `m_thread`: `none` while no thread was spawned. -/
  thread : Option ServicePc
  deriving DecidableEq, Repr

inductive ThreadEvent
  /-- The caller takes its next step. -/
  | caller
  /-- `ServiceThread` takes its next step; `idle` says whether `poll_one()`
  would return 0. -/
  | service (idle : Bool)
  deriving DecidableEq, Repr

namespace ServiceThreads

/-- The constructor: `m_isThreadActive(false)`, no thread. -/
def init : ServiceThreads :=
  ⟨false, .startThread, none⟩

/-- The caller's next step, `none` while it waits in `join`. -/
def callerStep (t : ServiceThreads) : Option ServiceThreads :=
  match t.caller with
  | .startThread =>
    some { t with caller := .stopThread, thread := if t.isThreadActive then t.thread else some .start }
  | .stopThread => some { t with caller := .checkActive }
  | .checkActive => some { t with caller := if t.isThreadActive then .setInactive else .join }
  | .setInactive => some { t with isThreadActive := false, caller := .join }
  | .join =>
    if t.thread = none ∨ t.thread = some .finished then some { t with caller := .done } else none
  | .done => none

/-- `ServiceThread`'s next step, `none` once it has returned or before it exists. -/
def serviceStep (t : ServiceThreads) (idle : Bool) : Option ServiceThreads :=
  match t.thread with
  | some .start => some { t with thread := some (if t.isThreadActive then .finished else .setActive) }
  | some .setActive => some { t with isThreadActive := true, thread := some .loop }
  | some .loop =>
    some { t with thread := some (if !t.isThreadActive && idle then .setInactive else .loop) }
  | some .setInactive => some { t with isThreadActive := false, thread := some .finished }
  | some .finished | none => none

def step (t : ServiceThreads) : ThreadEvent → Option ServiceThreads
  | .caller => t.callerStep
  | .service idle => t.serviceStep idle

/-- A run of events, failing at the first one that cannot happen. -/
def run (t : ServiceThreads) : List ThreadEvent → Option ServiceThreads
  | [] => some t
  | e :: es => (t.step e).bind (run · es)

/-- A property every step keeps holds along every run. -/
theorem run_preserves {P : ServiceThreads → Prop}
    (hstep : ∀ t e t', P t → t.step e = some t' → P t') {t t' : ServiceThreads}
    {es : List ThreadEvent} (ht : P t) (hrun : t.run es = some t') : P t' := by
  induction es generalizing t with
  | nil => exact Option.some.inj hrun ▸ ht
  | cons e es ih =>
    obtain ⟨u, hu, hrest⟩ := Option.bind_eq_some.mp hrun
    exact ih (hstep t e u ht hu) hrest

/-! ## `StopThread` tests the flag before the thread has set it -/

/-- `StopThread` is in `join` while the flag is set and the thread is at its
exit test, which then fails. -/
def Hung (t : ServiceThreads) : Prop :=
  t.caller = .join ∧ t.isThreadActive = true ∧ t.thread = some .loop

/-- In a hung state the join cannot return and the thread's step changes
nothing. -/
theorem Hung.step_eq {t t' : ServiceThreads} (h : Hung t) {e : ThreadEvent}
    (hstep : t.step e = some t') : t' = t := by
  obtain ⟨isThreadActive, caller, thread⟩ := t
  obtain ⟨rfl, rfl, rfl⟩ := h
  cases e with
  | caller => simp [step, callerStep] at hstep
  | service idle => simpa [step, serviceStep, eq_comm] using hstep

theorem Hung.run_eq {t t' : ServiceThreads} (h : Hung t) {es : List ThreadEvent}
    (hrun : t.run es = some t') : t' = t :=
  run_preserves (P := (· = t)) (by rintro _ e u rfl hstep; exact h.step_eq hstep) rfl hrun

/-- `StartThread` spawns the thread; `StopThread` reads the flag before the new
thread has run, skips `SetThreadActive(false)` and joins; the thread then sets
the flag.  From there every run leaves the state as it is: `StopThread` waits
in `join` forever, with the flag set. -/
theorem stopThread_joins_forever :
    ∃ t, init.run [.caller, .caller, .caller, .service true, .service true] = some t ∧
      t.caller = .join ∧ t.isThreadActive = true ∧
      ∀ es t', t.run es = some t' → t' = t :=
  ⟨_, rfl, rfl, rfl, fun _ _ hrun => Hung.run_eq ⟨rfl, rfl, rfl⟩ hrun⟩

/-! ## The thread sets the flag first -/

/-- The states some run from `init` reaches. -/
inductive Reachable : ServiceThreads → Prop
  | init : Reachable init
  | step {t t' : ServiceThreads} {e : ThreadEvent} :
      Reachable t → t.step e = some t' → Reachable t'

theorem Reachable.run {t t' : ServiceThreads} (ht : Reachable t) (es : List ThreadEvent)
    (hrun : t.run es = some t') : Reachable t' :=
  run_preserves (fun _ _ _ h hstep => h.step hstep) ht hrun

/-- Until `StopThread` has tested the flag, a thread in its loop has it set. -/
def LoopFlag (t : ServiceThreads) : Prop :=
  t.thread = some .loop → t.caller = .stopThread ∨ t.caller = .checkActive →
    t.isThreadActive = true

theorem LoopFlag.step {t t' : ServiceThreads} {e : ThreadEvent} (h : LoopFlag t)
    (hstep : t.step e = some t') : LoopFlag t' := by
  obtain ⟨flag, caller, thread⟩ := t
  cases e with
  | caller =>
    cases caller <;> simp only [ServiceThreads.step, callerStep, Option.some.injEq, reduceCtorEq,
      Option.ite_none_right_eq_some] at hstep
    case stopThread => subst hstep; exact fun hloop _ => h hloop (.inl rfl)
    case join => obtain ⟨-, rfl⟩ := hstep; simp [LoopFlag]
    case startThread | checkActive | setInactive => subst hstep; cases flag <;> simp [LoopFlag]
  | service idle =>
    rcases thread with _ | ⟨_ | _ | _ | _ | _⟩ <;> simp only [ServiceThreads.step, serviceStep,
      Option.some.injEq, reduceCtorEq] at hstep <;> subst hstep
    · cases flag <;> simp [LoopFlag]
    · simp [LoopFlag]
    · exact fun _ hcaller => h rfl hcaller
    · simp [LoopFlag]

theorem Reachable.loopFlag {t : ServiceThreads} (ht : Reachable t) : LoopFlag t := by
  induction ht with
  | init => intro h; cases h
  | step _ hstep ih => exact ih.step hstep

/-- `StopThread` has cleared the flag and waits in `join` or has returned, and
the thread is past `SetThreadActive(true)`. -/
def Stopped (t : ServiceThreads) : Prop :=
  (t.caller = .join ∨ t.caller = .done) ∧ t.isThreadActive = false ∧
    (t.thread = some .loop ∨ t.thread = some .setInactive ∨ t.thread = some .finished)

theorem Stopped.step {t t' : ServiceThreads} {e : ThreadEvent} (h : Stopped t)
    (hstep : t.step e = some t') : Stopped t' := by
  obtain ⟨flag, caller, thread⟩ := t
  obtain ⟨hcaller, rfl, hthread⟩ := h
  rcases e with _ | ⟨_ | _⟩ <;> rcases hcaller with rfl | rfl <;>
    rcases hthread with rfl | rfl | rfl <;>
    simp [ServiceThreads.step, callerStep, serviceStep] at hstep <;> subst hstep <;> simp [Stopped]

/-- `StopThread` is at its test or about to clear the flag while the thread
loops with the flag set, or it has stopped. -/
def Cleared (t : ServiceThreads) : Prop :=
  (t.caller = .checkActive ∨ t.caller = .setInactive) ∧ t.thread = some .loop ∧
      t.isThreadActive = true ∨ Stopped t

theorem Cleared.step {t t' : ServiceThreads} {e : ThreadEvent} (h : Cleared t)
    (hstep : t.step e = some t') : Cleared t' := by
  rcases h with ⟨hcaller, hthread, hflag⟩ | h
  · obtain ⟨flag, caller, thread⟩ := t
    simp only at hcaller hthread hflag
    subst hthread hflag
    rcases e with _ | ⟨_ | _⟩ <;> rcases hcaller with rfl | rfl <;>
      simp [ServiceThreads.step, callerStep, serviceStep] at hstep <;> subst hstep <;> simp [Cleared, Stopped]
  · exact .inr (h.step hstep)

/-- When the thread has set the flag before `StopThread` tests it, the join is
as intended: whenever `StopThread` waits in `join` the flag is clear and no
later step sets it, and an idle `poll_one` lets the thread and then
`StopThread` return. -/
theorem stopThread_returns_of_thread_first {t : ServiceThreads} (ht : Reachable t)
    (hcheck : t.caller = .checkActive) (hloop : t.thread = some .loop) :
    (∀ es u, t.run es = some u → u.caller = .join → u.isThreadActive = false ∧
      ∀ es' v, u.run es' = some v → v.isThreadActive = false) ∧
    ∃ u, t.run [.caller, .caller, .service true, .service true, .caller] = some u ∧
      u.caller = .done := by
  have hflag := ht.loopFlag hloop (.inr hcheck)
  refine ⟨fun es u hrun hjoin => ?_, ?_⟩
  · rcases run_preserves (fun _ _ _ h hstep => Cleared.step h hstep)
      (.inl ⟨.inl hcheck, hloop, hflag⟩) hrun with ⟨hcaller, -⟩ | hu
    · rcases hcaller with h | h <;> rw [h] at hjoin <;> cases hjoin
    · exact ⟨hu.2.1, fun es' v hrun' =>
        (run_preserves (fun _ _ _ h hstep => Stopped.step h hstep) hu hrun').2.1⟩
  · obtain ⟨flag, caller, thread⟩ := t
    simp only at hcheck hloop hflag
    subst hcheck hloop hflag
    exact ⟨_, rfl, rfl⟩

/-- `StartThread`, then the thread's first two steps, then the start of
`StopThread`. -/
def threadFirst : List ThreadEvent :=
  [.caller, .service true, .service true, .caller]

theorem stopThread_returns_of_thread_first_run :
    Reachable ⟨true, .checkActive, some .loop⟩ ∧
      (⟨true, .checkActive, some .loop⟩ : ServiceThreads).caller = .checkActive ∧
      (⟨true, .checkActive, some .loop⟩ : ServiceThreads).thread = some .loop ∧
      ((∀ es u, (⟨true, .checkActive, some .loop⟩ : ServiceThreads).run es = some u →
        u.caller = .join → u.isThreadActive = false ∧
          ∀ es' v, u.run es' = some v → v.isThreadActive = false) ∧
      ∃ u, (⟨true, .checkActive, some .loop⟩ : ServiceThreads).run
        [.caller, .caller, .service true, .service true, .caller] = some u ∧ u.caller = .done) :=
  have ht : Reachable ⟨true, .checkActive, some .loop⟩ := Reachable.init.run threadFirst rfl
  ⟨ht, rfl, rfl, stopThread_returns_of_thread_first ht rfl rfl⟩

end ServiceThreads

end Lldebug.Net
