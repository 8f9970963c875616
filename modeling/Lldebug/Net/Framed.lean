import Lldebug.Net.Delivery
import Lldebug.Net.Api
import Lldebug.Net.CtxId

/-!
# Which commands the engines write are well framed

The delivery results and the wired refinement (`Lldebug.Net.Connection`) assume
that every command written is well framed: a `ctxId` that is not negative, or
`handleReadCommand` closes the reading socket, and a `dataSize` that is the
payload's length.  Every write call builds its header with
`InitCommandHeader`, which stores the payload size in 32 bits and takes
`m_ctxId`, and the only context ids a session ever holds are `-1` and the `k`
given to `StartContext`.  So a command written is well framed exactly when it
carries `k` and its payload fits in `dataSize`: the hypothesis excludes an
engine writing while its `m_ctxId` is unset, before the first command of its
peer or after an `END_CONNECTION`, and nothing else the session can reach.
-/

namespace Lldebug.Net

variable {Callback : Type}

/-- A command as the write calls build it: the payload's length, modulo 2^32, in
`dataSize`, and no continuation. -/
def Built (command : RemoteCommand Callback) : Prop :=
  command.header.dataSize = BitVec.ofNat 32 command.data.length ∧ command.response = none

theorem Built.wellFramed_iff {command : RemoteCommand Callback} (h : Built command) :
    WellFramed command ↔ 0 ≤ command.header.ctxId.toInt ∧ command.data.length < 2 ^ 32 := by
  simp only [WellFramed, h.1, h.2, BitVec.toNat_ofNat, and_true]
  rw [Nat.mod_eq_iff_lt (by norm_num)]

namespace RemoteEngine

variable (e : RemoteEngine Callback)

/-- Every call of the interface writes a command as `InitCommandHeader` builds it. -/
theorem built_call (c : RemoteCall Callback) : Built (e.call c).2 := by
  simp [call_eq, Built]

theorem built_doStartConnection (ctxId : Word) : Built (e.doStartConnection ctxId).2 := by
  simp [doStartConnection, Built]

end RemoteEngine

namespace Session

variable {k : Word} {s s' : Session Callback} {e : SessionEvent Callback}

/-- Every command an engine has handed to `m_socket->Write` is as the write
calls build it. -/
def SentBuilt (s : Session Callback) : Prop :=
  ∀ r, ∀ p ∈ s.sent r, Built p.command

theorem SentBuilt.setPhase (h : SentBuilt s) {r : Role} {phase : StartPhase} :
    SentBuilt (s.setPhase r phase) :=
  h

theorem SentBuilt.withRegistrations (h : SentBuilt s) (n : Nat) :
    SentBuilt { s with registrations := n } :=
  h

theorem SentBuilt.write (h : SentBuilt s) {r : Role} {e : RemoteEngine (Registration Callback)}
    {p : Packet Callback} (hp : Built p.command) : SentBuilt (s.write r e p) := by
  intro r' q hq
  by_cases hr : r' = r
  · subst hr
    rcases (by simpa using hq : q ∈ s.sent r' ∨ q = p) with hq | rfl
    · exact h r' q hq
    · exact hp
  · exact h r' q (by simpa [hr] using hq)

/-- A step either writes one command a call built, or leaves what has been
written alone. -/
theorem SentBuilt.step (h : SentBuilt s) (hstep : s.step k e = some s') : SentBuilt s' := by
  cases e <;> simp only [step] at hstep
  case startContext connects =>
    split_ifs at hstep <;> cases hstep
    · simp only [startContext]
      exact (h.write (p := ⟨_, none, true⟩) (RemoteEngine.built_doStartConnection _ k)).setPhase
    · exact h
  case writeCommand r type data =>
    split_ifs at hstep
    cases hstep
    exact h.write ((s.engine r).built_call (.notify type data))
  case writeCommandWithResponse r type data response =>
    split_ifs at hstep
    cases hstep
    have hp := (s.engine r).built_call (.request type data ⟨s.registrations, response⟩)
    exact (h.write hp).withRegistrations _
  case writeResponse r i type data =>
    split at hstep
    · split_ifs at hstep
      cases hstep
      exact h.write ((s.engine r).built_call (.respond _ type data))
    · cases hstep
  -- the other events write nothing
  case startFrame | wake =>
    split_ifs at hstep <;> cases hstep <;> exact h
  case handleReadCommand =>
    split at hstep <;> cases hstep
    exact h
  case popCommand =>
    split at hstep <;> cases hstep
    exact h

theorem Reachable.sentBuilt (hs : Reachable k s) : SentBuilt s := by
  induction hs with
  | init => exact fun _ _ hp => (List.not_mem_nil _ hp).elim
  | step _ hstep ih => exact ih.step hstep

/-- In every reachable session whose `StartContext` was given a `ctxId` that is
not negative, a command either engine has written is well framed exactly when
it carries that `ctxId` and its payload fits in the 32 bits of `dataSize`. -/
theorem wellFramed_iff_carries_ctxId (hs : Reachable k s) (hk : 0 ≤ k.toInt) (r : Role) :
    ∀ p ∈ s.sent r, WellFramed p.command ↔
      p.command.header.ctxId = k ∧ p.command.data.length < 2 ^ 32 := by
  intro p hp
  rw [(hs.sentBuilt r p hp).wellFramed_iff]
  rcases hs.ctxIdInv.sent r p hp with hid | hid <;> rw [hid]
  · have hneg : ¬ 0 ≤ (-1 : Word).toInt := by decide
    have hne : (-1 : Word) ≠ k := fun h => hneg (h ▸ hk)
    simp only [hneg, hne, false_and]
  · simp only [hk, true_and]

/-- `StartContext` with `ctxId` 7 and `StartFrame`; the frame engine writes
`BREAK` before it has read `START_CONNECTION`, reads it, and writes `BREAK`
again. -/
def earlyBreak : List (SessionEvent Unit) :=
  [.startContext true, .startFrame true, .writeCommand .frame .break [],
    .handleReadCommand .frame, .writeCommand .frame .break []]

def afterEarlyBreak : Session Unit :=
  ((init : Session Unit).run 7 earlyBreak).getD init

theorem wellFramed_iff_carries_ctxId_early_break :
    Reachable 7 afterEarlyBreak ∧ 0 ≤ (7 : Word).toInt ∧
      ∀ p ∈ afterEarlyBreak.sent .frame, WellFramed p.command ↔
        p.command.header.ctxId = 7 ∧ p.command.data.length < 2 ^ 32 :=
  have hs : Reachable 7 afterEarlyBreak := Reachable.init.run earlyBreak rfl
  ⟨hs, by decide, wellFramed_iff_carries_ctxId hs (by decide) .frame⟩

end Session

end Lldebug.Net
