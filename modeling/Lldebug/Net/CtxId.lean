import Lldebug.Net.Session

/-!
# The context id both engines agree on

`m_ctxId` starts at `-1`.  Only `HandleReadCommand` changes it, to the `ctxId`
of a command that arrived or back to `-1`; every header takes `m_ctxId`, except
the `START_CONNECTION` of `StartContext`, which carries the `k` it was given.
So `-1` and `k` are the only context ids that ever exist in a session, and a
`Start...` call that returns 0 has seen `k`.
-/

namespace Lldebug.Net.Session

variable {Callback : Type} (k : Word)

/-- A context id that is unset (`-1`) or the `k` given to `StartContext`. -/
def CtxIdOk (x : Word) : Prop :=
  x = -1 ∨ x = k

/-- Every context id in the session is `-1` or `k`: the engines', and those of
the commands written and in flight. -/
structure CtxIdInv (s : Session Callback) : Prop where
  engine : ∀ r, CtxIdOk k (s.engine r).ctxId
  inbox : ∀ r, ∀ p ∈ s.inbox r, CtxIdOk k p.command.header.ctxId
  sent : ∀ r, ∀ p ∈ s.sent r, CtxIdOk k p.command.header.ctxId

variable {k}

theorem ctxIdInv_init : CtxIdInv k (init : Session Callback) :=
  ⟨fun _ => .inl rfl, fun _ _ h => (List.not_mem_nil _ h).elim,
    fun _ _ h => (List.not_mem_nil _ h).elim⟩

namespace CtxIdInv

variable {s : Session Callback} (h : CtxIdInv k s)
include h

theorem setPhase (r : Role) (phase : StartPhase) : CtxIdInv k (s.setPhase r phase) :=
  ⟨h.engine, h.inbox, h.sent⟩

theorem withRegistrations (n : Nat) : CtxIdInv k { s with registrations := n } :=
  ⟨h.engine, h.inbox, h.sent⟩

theorem setEngine {r : Role} {e : RemoteEngine (Registration Callback)}
    (he : e.ctxId = (s.engine r).ctxId) : CtxIdInv k (s.setEngine r e) := by
  refine ⟨fun r' => ?_, h.inbox, h.sent⟩
  by_cases hr : r' = r
  · subst hr; simpa [Session.setEngine, he] using h.engine r'
  · simpa [Session.setEngine, hr] using h.engine r'

theorem write {r : Role} {e : RemoteEngine (Registration Callback)} {p : Packet Callback}
    (he : e.ctxId = (s.engine r).ctxId) (hp : CtxIdOk k p.command.header.ctxId) :
    CtxIdInv k (s.write r e p) := by
  refine ⟨fun r' => ?_, fun r' q hq => ?_, fun r' q hq => ?_⟩
  · by_cases hr : r' = r
    · subst hr; simpa [Session.write, he] using h.engine r'
    · simpa [Session.write, hr] using h.engine r'
  · by_cases hr : r' = r.peer
    · subst hr
      simp only [Session.write, Function.update_same, List.mem_append, List.mem_singleton] at hq
      exact hq.elim (h.inbox _ q) fun hq => hq ▸ hp
    · exact h.inbox r' q (by simpa [Session.write, hr] using hq)
  · by_cases hr : r' = r
    · subst hr
      simp only [Session.write, Function.update_same, List.mem_append, List.mem_singleton] at hq
      exact hq.elim (h.sent _ q) fun hq => hq ▸ hp
    · exact h.sent r' q (by simpa [Session.write, hr] using hq)

theorem handle {r : Role} {p : Packet Callback} {rest : List (Packet Callback)}
    (hin : s.inbox r = p :: rest) : CtxIdInv k (s.handle r p rest) := by
  have hp := h.inbox r p (by simp [hin])
  refine ⟨fun r' => ?_, fun r' q hq => ?_, h.sent⟩
  · by_cases hr : r' = r
    · subst hr
      simp only [Session.handle, Function.update_same]
      rcases RemoteEngine.handleReadCommand_ctxId (s.engine r') p.command with h' | h' | h'
      · exact h' ▸ h.engine r'
      · exact h' ▸ hp
      · exact h' ▸ .inl rfl
    · simpa [Session.handle, hr] using h.engine r'
  · by_cases hr : r' = r
    · subst hr
      exact h.inbox r' q (by simp [Session.handle] at hq; simp [hin, hq])
    · exact h.inbox r' q (by simpa [Session.handle, hr] using hq)

/-- No event brings in a third context id. -/
theorem step {s' : Session Callback} {e : SessionEvent Callback}
    (hstep : s.step k e = some s') : CtxIdInv k s' := by
  cases e <;> simp only [Session.step] at hstep
  case startContext connects =>
    split_ifs at hstep <;> cases hstep
    · exact (h.write (by simp [RemoteEngine.doStartConnection]) (.inr rfl)).setPhase _ _
    · exact h.setPhase _ _
  case startFrame connects =>
    split_ifs at hstep <;> cases hstep
    · unfold Session.startFrame
      exact (h.setEngine (by rfl)).setPhase _ _
    · exact h.setPhase _ _
  case wake r =>
    split_ifs at hstep
    cases hstep
    exact h.setPhase _ _
  case writeCommand r type data =>
    split_ifs at hstep
    cases hstep
    exact h.write (by simp [RemoteEngine.writeCommand])
      (by simpa [RemoteEngine.writeCommand] using h.engine r)
  case writeCommandWithResponse r type data response =>
    split_ifs at hstep
    cases hstep
    exact (h.write (by simp [RemoteEngine.writeCommandWithResponse])
      (by simpa [RemoteEngine.writeCommandWithResponse] using h.engine r)).withRegistrations _
  case writeResponse r i type data =>
    split at hstep
    · split_ifs at hstep
      cases hstep
      exact h.write (by simp [RemoteEngine.writeResponse])
        (by simpa [RemoteEngine.writeResponse] using h.engine r)
    · cases hstep
  case handleReadCommand r =>
    split at hstep
    · cases hstep; exact h.handle ‹_›
    · cases hstep
  case popCommand r =>
    split at hstep <;> cases hstep
    have h' := h.setEngine (r := r) (e := (s.engine r).popCommand) rfl
    exact ⟨h'.engine, h'.inbox, h'.sent⟩

end CtxIdInv

theorem Reachable.ctxIdInv {s : Session Callback} (hs : Reachable k s) : CtxIdInv k s := by
  induction hs with
  | init => exact ctxIdInv_init
  | step _ hstep ih => exact ih.step hstep

/-- A step leaves the phase of an engine's `Start...` call alone, or makes it
fail, or sets it from the engine's `m_ctxId` as it is after the step. -/
theorem phase_step {s s' : Session Callback} {e : SessionEvent Callback}
    (hstep : s.step k e = some s') (r : Role) :
    s'.phase r = s.phase r ∨ s'.phase r = .returned (-1) ∨
      s'.phase r = afterConnect (s'.engine r) ∨ s'.phase r = waitResult (s'.engine r) := by
  cases e <;> simp only [Session.step] at hstep
  case startContext connects =>
    split_ifs at hstep <;> cases hstep <;> by_cases hr : r = .context
    · subst hr; simp [Session.startContext, Session.setPhase, Session.write]
    · simp [Session.startContext, Session.setPhase, Session.write, hr]
    · subst hr; simp [Session.setPhase]
    · simp [Session.setPhase, hr]
  case startFrame connects =>
    split_ifs at hstep <;> cases hstep <;> by_cases hr : r = .frame
    · subst hr; simp [Session.startFrame, Session.setPhase, Session.setEngine]
    · simp [Session.startFrame, Session.setPhase, Session.setEngine, hr]
    · subst hr; simp [Session.setPhase]
    · simp [Session.setPhase, hr]
  case wake r' =>
    split_ifs at hstep
    cases hstep
    by_cases hr : r = r'
    · subst hr; simp [Session.setPhase]
    · simp [Session.setPhase, hr]
  case writeCommand | writeCommandWithResponse =>
    split_ifs at hstep
    cases hstep
    simp [Session.write]
  case writeResponse =>
    split at hstep
    · split_ifs at hstep
      cases hstep
      simp [Session.write]
    · cases hstep
  case handleReadCommand =>
    split at hstep
    · cases hstep; simp [Session.handle]
    · cases hstep
  case popCommand =>
    split at hstep <;> cases hstep
    simp

theorem nonneg_of_afterConnect {e : RemoteEngine (Registration Callback)}
    (h : afterConnect e = .returned 0) : 0 ≤ e.ctxId.toInt := by
  unfold afterConnect at h
  split_ifs at h with hneg
  exact Int.not_lt.mp hneg

theorem nonneg_of_waitResult {e : RemoteEngine (Registration Callback)}
    (h : waitResult e = .returned 0) : 0 ≤ e.ctxId.toInt := by
  unfold waitResult at h
  split_ifs at h with hneg
  · cases h
  · exact Int.not_lt.mp hneg

/-- In every reachable session both engines' `m_ctxId` and the `ctxId` of every
command either engine has written are `-1` or `k`, and a step at which a
`Start...` call returns 0 leaves that engine's `m_ctxId` at `k`. -/
theorem ctxId_unset_or_k {s : Session Callback} (hs : Reachable k s) :
    (∀ r, (s.engine r).ctxId = -1 ∨ (s.engine r).ctxId = k) ∧
    (∀ r, ∀ p ∈ s.sent r, p.command.header.ctxId = -1 ∨ p.command.header.ctxId = k) ∧
    ∀ (e : SessionEvent Callback) s' r, s.step k e = some s' → s.phase r ≠ .returned 0 →
      s'.phase r = .returned 0 → (s'.engine r).ctxId = k := by
  refine ⟨hs.ctxIdInv.engine, hs.ctxIdInv.sent, fun e s' r hstep hne hret => ?_⟩
  have hnonneg : 0 ≤ (s'.engine r).ctxId.toInt := by
    rcases phase_step hstep r with h | h | h | h
    · exact absurd (h ▸ hret) hne
    · rw [hret] at h; cases h
    · exact nonneg_of_afterConnect (h ▸ hret)
    · exact nonneg_of_waitResult (h ▸ hret)
  rcases (hs.step hstep).ctxIdInv.engine r with h | h
  · rw [h] at hnonneg; exact absurd hnonneg (by decide)
  · exact h

theorem ctxId_unset_or_k_after_handshake :
    Reachable 7 afterHandshake ∧
      afterHandshake.phase .context = .returned 0 ∧ afterHandshake.phase .frame = .returned 0 ∧
      ((∀ r, (afterHandshake.engine r).ctxId = -1 ∨ (afterHandshake.engine r).ctxId = 7) ∧
      (∀ r, ∀ p ∈ afterHandshake.sent r,
        p.command.header.ctxId = -1 ∨ p.command.header.ctxId = 7) ∧
      ∀ (e : SessionEvent Unit) s' r, afterHandshake.step 7 e = some s' →
        afterHandshake.phase r ≠ .returned 0 → s'.phase r = .returned 0 →
          (s'.engine r).ctxId = 7) :=
  ⟨reachable_afterHandshake, rfl, rfl, ctxId_unset_or_k reachable_afterHandshake⟩

end Lldebug.Net.Session
