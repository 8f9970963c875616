import Lldebug.Net.Correlation
import Lldebug.Net.Framed

/-!
# From `WriteCommand` to `GetCommand`

`HandleReadCommand` pushes each command its socket hands it, with the
continuation it found, onto `m_readCommandQueue`; `GetCommand` reads the front
and `PopCommand` removes it.  No other call touches the queue.  The session
records what each pop removes, so the commands an engine has read are those it
has popped followed by its queue.  Since the session hands each engine the
peer's commands in the order written, the commands the peer has written are, in
order: those the engine has popped, those waiting in its queue for
`GetCommand`, and those it has not read yet.
-/

namespace Lldebug.Net

variable {Callback : Type}

/-- A command as its writer made it: without the continuation `HandleReadCommand`
may attach. -/
def RemoteCommand.withoutResponse (command : RemoteCommand Callback) : RemoteCommand Callback :=
  { command with response := none }

theorem RemoteCommand.withoutResponse_of_built {command : RemoteCommand Callback}
    (h : Built command) : command.withoutResponse = command := by
  obtain ⟨header, data, response⟩ := command
  cases h.2
  rfl

namespace RemoteEngine

variable (e : RemoteEngine Callback) (command : RemoteCommand Callback)

@[simp] theorem attachResponse_snd_withoutResponse :
    (e.attachResponse command).2.withoutResponse = command.withoutResponse := by
  unfold attachResponse; split <;> rfl

@[simp] theorem updateCtxId_readCommandQueue :
    (e.updateCtxId command).readCommandQueue = e.readCommandQueue := by
  unfold updateCtxId; split_ifs <;> simp

@[simp] theorem handleReadCommand_readCommandQueue :
    (e.handleReadCommand command).readCommandQueue =
      e.readCommandQueue ++ [(e.attachResponse command).2] := by
  simp [handleReadCommand]

end RemoteEngine

namespace Session

variable {k : Word} {s s' : Session Callback} {e : SessionEvent Callback}

theorem update_readCommandQueue {engine : Role → RemoteEngine (Registration Callback)}
    {r' : Role} {e' : RemoteEngine (Registration Callback)}
    (he : e'.readCommandQueue = (engine r').readCommandQueue) (r : Role) :
    (Function.update engine r' e' r).readCommandQueue = (engine r).readCommandQueue := by
  by_cases hr : r = r'
  · subst hr; simpa using he
  · simp [hr]

/-- A step hands engine `r` the oldest command of its inbox, or pops the front
of its read queue, or leaves what each engine has read, popped and queued as it
was. -/
theorem step_queue_cases (h : s.step k e = some s') :
    (∃ r p rest, s.inbox r = p :: rest ∧ s' = s.handle r p rest) ∨
      (∃ r command rest, (s.engine r).readCommandQueue = command :: rest ∧
        s' = s.pop r command) ∨
      (s'.received = s.received ∧ s'.popped = s.popped ∧
        ∀ r, (s'.engine r).readCommandQueue = (s.engine r).readCommandQueue) := by
  cases e <;> simp only [step] at h
  case handleReadCommand r =>
    split at h <;> cases h
    exact .inl ⟨r, _, _, ‹_›, rfl⟩
  case popCommand r =>
    split at h <;> cases h
    exact .inr (.inl ⟨r, _, _, ‹_›, rfl⟩)
  -- every other event writes, or starts an engine, or wakes a `Start...` call
  all_goals
    right; right
    (try split at h) <;> (try split_ifs at h) <;> cases h <;>
      refine ⟨by simp [startContext, startFrame], by simp [startContext, startFrame], fun r => ?_⟩ <;>
      simp only [startContext, startFrame, write_engine, setPhase_engine, setEngine_engine] <;>
      first
        | rfl
        | exact update_readCommandQueue (by simp [RemoteEngine.writeCommand,
            RemoteEngine.writeCommandWithResponse, RemoteEngine.writeResponse,
            RemoteEngine.doStartConnection]) r

/-- The commands engine `r` has read are those `PopCommand` took off its read
queue, then the queue, in the order read, up to the continuations attached. -/
def QueueInv (s : Session Callback) : Prop :=
  ∀ r, (s.popped r ++ (s.engine r).readCommandQueue).map RemoteCommand.withoutResponse =
    (s.received r).map (·.command.withoutResponse)

theorem queueInv_init : QueueInv (init : Session Callback) :=
  fun _ => rfl

/-- `HandleReadCommand` pushes the command it reads at the back of the queue, and
`PopCommand` moves the front to what has been popped. -/
theorem QueueInv.step (h : QueueInv s) (hstep : s.step k e = some s') : QueueInv s' := by
  intro r
  rcases step_queue_cases hstep with ⟨r', p, rest, -, rfl⟩ | ⟨r', command, rest, hqueue, rfl⟩ |
    ⟨hreceived, hpopped, hqueue⟩
  · by_cases hr : r = r'
    · subst hr; simpa using congrArg (· ++ [p.command.withoutResponse]) (h r)
    · simpa [hr] using h r
  · by_cases hr : r = r'
    · subst hr; simpa [RemoteEngine.popCommand, hqueue] using h r
    · simpa [hr] using h r
  · rw [hreceived, hpopped, hqueue]
    exact h r

theorem Reachable.queueInv (hs : Reachable k s) : QueueInv s := by
  induction hs with
  | init => exact queueInv_init
  | step _ hstep ih => exact ih.step hstep

/-- What `GetCommand` reads follows the order the peer wrote in: the commands
the peer has written are those `PopCommand` has taken off engine `r`'s read
queue, then the queue from the front, then those `r` has not read yet; a popped
or queued command differs from the one written only by the continuation
`HandleReadCommand` attached. -/
theorem readCommandQueue_in_written_order (hs : Reachable k s) (r : Role) :
    (s.popped r ++ (s.engine r).readCommandQueue).map RemoteCommand.withoutResponse ++
      (s.inbox r).map (·.command) = (s.sent r.peer).map (·.command) := by
  have hreceived : (s.received r).map (·.command.withoutResponse) = (s.received r).map (·.command) :=
    List.map_congr_left fun p hp => RemoteCommand.withoutResponse_of_built
      (hs.sentBuilt r.peer p (hs.correlationInv.mem_sent_of_received hp))
  rw [hs.queueInv r, hreceived, ← List.map_append, hs.correlationInv.fifo r]

/-- The reply chain, with the context popping the frame's first reply. -/
def afterReplyChainPop : Session Unit :=
  (afterReplyChain.step 7 (.popCommand .context)).getD init

theorem readCommandQueue_in_written_order_after_reply_chain_pop :
    Reachable 7 afterReplyChainPop ∧ afterReplyChainPop.popped .context ≠ [] ∧
      (afterReplyChainPop.popped .context ++
          (afterReplyChainPop.engine .context).readCommandQueue).map
        RemoteCommand.withoutResponse ++ (afterReplyChainPop.inbox .context).map (·.command) =
        (afterReplyChainPop.sent Role.context.peer).map (·.command) :=
  have hs : Reachable 7 afterReplyChainPop :=
    reachable_afterReplyChain.step (e := .popCommand .context) rfl
  ⟨hs, by decide, readCommandQueue_in_written_order hs .context⟩

end Session

end Lldebug.Net
