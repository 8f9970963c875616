import Lldebug.Net.Delivery

/-!
# Commands without payload need no schedule

For a command with a payload, `asyncWrite` starts two writes at once, and
`Lldebug.Net.Pipe` shows that their bytes can interleave; `Lldebug.Net.Delivery`
needs the io_service to send the oldest outstanding write first.  A command
without payload is one `async_write` of its header, and `doWrite` and
`handleWrite` start the next queued command only once the front one has been
written.  So while no command written has a payload (`START_CONNECTION`,
`BREAK`, `RESUME`, the step commands, `SUCCESSED`, ...), at most one write is
ever outstanding, every step the io_service can take goes to the oldest
write, and the pipe is a FIFO channel of commands under every interleaving.

An operation may also fail.  A failed read closes the receiving socket, and a
failed write closes the sending one with nothing outstanding and its command
still queued (`OneWrite.closed`), so nothing more goes on the wire and the queue
never empties.  The pipe stays `Safe`: the commands handed over stay a prefix
of those written.
-/

namespace Lldebug.Net

variable {Callback : Type}

/-- The command has no payload. -/
def NoPayload (command : RemoteCommand Callback) : Prop :=
  command.header.dataSize = 0

instance (command : RemoteCommand Callback) : Decidable (NoPayload command) :=
  inferInstanceAs (Decidable (_ = _))

namespace SocketBase

variable {s : SocketBase Callback}

/-- With nothing outstanding, writing the front of a queue of commands without
payload starts at most one write. -/
theorem writeFront_single (hw : s.writes = []) (hq : ∀ c ∈ s.writeCommandQueue, NoPayload c) :
    s.writeFront.writes.length ≤ 1 := by
  unfold writeFront
  split
  · rename_i c rest hqueue
    have hc : c.header.dataSize = 0 := hq c (by simp [hqueue])
    simp [asyncWrite, hc, hw]
  · simp [hw]

/-- A write completing with nothing else outstanding starts at most one write,
and none once the queue is empty, and queues no new command. -/
theorem handleWrite_single (hw : s.writes = []) (hq : ∀ c ∈ s.writeCommandQueue, NoPayload c)
    (deleteCommand error : Bool) :
    (s.handleWrite deleteCommand error).writes.length ≤ 1 ∧
      ((s.handleWrite deleteCommand error).writeCommandQueue = [] →
        (s.handleWrite deleteCommand error).writes = []) ∧
      ∀ c ∈ (s.handleWrite deleteCommand error).writeCommandQueue, NoPayload c := by
  cases error
  · cases deleteCommand
    · rw [handleWrite_false_false]
      exact ⟨by simp [hw], fun _ => hw, hq⟩
    · rw [handleWrite_true_false]
      have hq' : ∀ c ∈ s.writeCommandQueue.tail, NoPayload c :=
        fun c hc => hq c (List.mem_of_mem_tail hc)
      refine ⟨writeFront_single hw hq', fun hnil => ?_, by simpa using hq'⟩
      have hnil : s.writeCommandQueue.tail = [] := by simpa using hnil
      simp [writeFront, hnil, hw]
  · exact ⟨by simp [handleWrite, doClose, hw], fun _ => hw,
      by simpa [handleWrite, doClose] using hq⟩

/-- `doWrite` of a command without payload, on a socket writing one command at
a time, leaves at most one write outstanding. -/
theorem doWrite_single (hidle : s.writeCommandQueue = [] → s.writes = [])
    (hlen : s.writes.length ≤ 1) (hq : ∀ c ∈ s.writeCommandQueue, NoPayload c)
    {command : RemoteCommand Callback} (hc : NoPayload command) :
    (s.doWrite command).writes.length ≤ 1 ∧ (s.doWrite command).writeCommandQueue ≠ [] ∧
      ∀ c ∈ (s.doWrite command).writeCommandQueue, NoPayload c := by
  by_cases hqueue : s.writeCommandQueue = []
  · rw [doWrite_of_eq_nil _ _ hqueue]
    have hc' : command.header.dataSize = 0 := hc
    simp [asyncWrite, hc', hidle hqueue]
    exact hc
  · rw [doWrite_of_ne_nil _ _ hqueue]
    exact ⟨hlen, by simp, List.forall_mem_append.mpr ⟨hq, List.forall_mem_singleton.mpr hc⟩⟩

/-- A completion closes a socket with nothing else outstanding only on an
error, which leaves its queue as it was. -/
theorem handleWrite_closed (hw : s.writes = []) (hopen : s.isOpen = true)
    (hq : s.writeCommandQueue ≠ []) {deleteCommand error : Bool}
    (hclosed : (s.handleWrite deleteCommand error).isOpen = false) :
    (s.handleWrite deleteCommand error).writes = [] ∧
      (s.handleWrite deleteCommand error).writeCommandQueue ≠ [] := by
  cases error
  · simp [hopen] at hclosed
  · simpa [hw] using hq

end SocketBase

namespace Pipe

/-- Nothing posted or queued has a payload, at most one write is outstanding,
none once the queue is empty, and a closed sender has nothing outstanding and
its command still queued. -/
structure OneWrite (p : Pipe Callback) : Prop where
  posted : ∀ c ∈ p.posted, NoPayload c
  queued : ∀ c ∈ p.sender.writeCommandQueue, NoPayload c
  writes : p.sender.writes.length ≤ 1
  idle : p.sender.writeCommandQueue = [] → p.sender.writes = []
  closed : p.sender.isOpen = false → p.sender.writes = [] ∧ p.sender.writeCommandQueue ≠ []

theorem oneWrite_connected : (connected : Pipe Callback).OneWrite := by
  constructor <;> simp [connected, SocketBase.connected, SocketBase.opened,
    SocketBase.asyncReadCommand]

namespace OneWrite

variable {p p' : Pipe Callback} (h : p.OneWrite)
include h

/-- With at most one write outstanding, only write 0 can send, complete or fail. -/
theorem index_eq_zero {i : Nat} {op : WriteOp} (hop : p.sender.writes[i]? = some op) : i = 0 := by
  have hi := (List.getElem?_eq_some_iff.mp hop).1
  have := h.writes
  omega

/-- Every event that can happen goes to the oldest write. -/
theorem oldestFirst {e : PipeEvent Callback} (hstep : p.step e = some p') : e.OldestFirst := by
  cases e <;> simp only [PipeEvent.OldestFirst] <;> simp only [Pipe.step] at hstep
  all_goals
    split at hstep
    · exact h.index_eq_zero ‹_›
    · cases hstep

/-- The one write outstanding, erased. -/
theorem eraseIdx_eq_nil {i : Nat} {op : WriteOp} (hop : p.sender.writes[i]? = some op) :
    p.sender.writes.eraseIdx i = [] := by
  obtain rfl := h.index_eq_zero hop
  have := h.writes
  rw [List.eraseIdx_zero, ← List.length_eq_zero, List.length_tail]
  omega

theorem step {e : PipeEvent Callback} (hnew : ∀ c ∈ e.written, NoPayload c)
    (hstep : p.step e = some p') : p'.OneWrite := by
  cases e <;> simp only [Pipe.step] at hstep
  case write command =>
    cases hstep
    exact ⟨List.forall_mem_append.mpr ⟨h.posted, hnew⟩, h.queued, h.writes, h.idle, h.closed⟩
  case doWrite =>
    split at hstep <;> [rename_i command rest hposted; cases hstep]
    cases hstep
    obtain ⟨hlen, hne, hq⟩ := SocketBase.doWrite_single h.idle h.writes h.queued
      (h.posted command (by simp [hposted]))
    refine ⟨fun c hc => h.posted c (by simp [hposted, hc]), hq, hlen, fun hnil => absurd hnil hne,
      fun hclosed => ?_⟩
    obtain ⟨hw, hqueue⟩ := h.closed (by simpa using hclosed)
    rw [SocketBase.doWrite_of_ne_nil _ _ hqueue]
    exact ⟨hw, by simp⟩
  case transfer i n =>
    split at hstep <;> [rename_i op hop; cases hstep]
    split_ifs at hstep with hcond
    cases hstep
    exact ⟨h.posted, h.queued, by simpa using h.writes, fun hq => by simp [h.idle hq] at hop,
      fun hclosed => absurd hcond.1 (by simpa using hclosed)⟩
  -- a write outstanding means an open sender, which closes only on a failure
  case writeDone i | writeFail i =>
    split at hstep <;> [rename_i op hop; cases hstep]
    split_ifs at hstep
    cases hstep
    have hopen : p.sender.isOpen = true := by
      by_contra hclosed
      simp [(h.closed (by simpa using hclosed)).1] at hop
    have hq : p.sender.writeCommandQueue ≠ [] := fun hq => by simp [h.idle hq] at hop
    obtain ⟨hlen, hidle, hqueued⟩ :=
      SocketBase.handleWrite_single (s := { p.sender with writes := p.sender.writes.eraseIdx i })
        (h.eraseIdx_eq_nil hop) h.queued _ _
    exact ⟨h.posted, hqueued, hlen, hidle, SocketBase.handleWrite_closed
      (s := { p.sender with writes := p.sender.writes.eraseIdx i }) (h.eraseIdx_eq_nil hop)
      hopen hq⟩
  -- the receiver's events leave the sender and the posted commands alone
  case receive _ | readDone | readFail =>
    split at hstep <;> [split_ifs at hstep; cases hstep]
    cases hstep
    exact ⟨h.posted, h.queued, h.writes, h.idle, h.closed⟩

end OneWrite

/-- A run of a safe pipe writing commands without payload only takes
oldest-first steps, and keeps both invariants. -/
theorem OneWrite.run {written : List (RemoteCommand Callback)} {p p' : Pipe Callback}
    (h : p.OneWrite) (hsafe : Safe written p) {es : List (PipeEvent Callback)}
    (hframed : ∀ c ∈ es.flatMap PipeEvent.written, WellFramed c ∧ NoPayload c)
    (hrun : p.run es = some p') :
    (∀ e ∈ es, e.OldestFirst) ∧ Safe (written ++ es.flatMap PipeEvent.written) p' ∧
      p'.OneWrite := by
  induction es generalizing written p with
  | nil => cases hrun; simpa using ⟨hsafe, h⟩
  | cons e es ih =>
    obtain ⟨q, hq, hrest⟩ := Option.bind_eq_some.mp hrun
    have he := h.oldestFirst hq
    have hnew : ∀ c ∈ e.written, WellFramed c ∧ NoPayload c :=
      fun c hc => hframed c (List.mem_append_left _ hc)
    obtain ⟨hsched, hsafe', h'⟩ := ih (h.step (fun c hc => (hnew c hc).2) hq)
      (hsafe.step he (fun c hc => (hnew c hc).1) hq)
      (fun c hc => hframed c (List.mem_append_right _ hc)) hrest
    exact ⟨List.forall_mem_cons.mpr ⟨he, hsched⟩, by simpa using hsafe', h'⟩

/-- While no command written has a payload, the io_service can only ever send,
complete or fail the oldest outstanding write, so with no schedule assumed the
pipe is a FIFO channel of commands, even when an operation fails: the commands
handed to `HandleReadCommand` are a prefix of those written, and all of them
once nothing is posted, queued, on the wire or half read. -/
theorem handled_prefix_of_no_payload {es : List (PipeEvent Callback)} {p : Pipe Callback}
    (hframed : ∀ c ∈ es.flatMap PipeEvent.written, WellFramed c ∧ NoPayload c)
    (hrun : connected.run es = some p) :
    (∀ e ∈ es, e.OldestFirst) ∧ p.receiver.handled <+: es.flatMap PipeEvent.written ∧
      (p.posted = [] → p.sender.writeCommandQueue = [] → p.wire = [] →
        p.receiver.read = some (.header []) → p.receiver.handled = es.flatMap PipeEvent.written) := by
  obtain ⟨hsched, hsafe, h⟩ := oneWrite_connected.run fifo_connected.safe hframed hrun
  rw [List.nil_append] at hsafe
  refine ⟨hsched, hsafe.handled, fun hposted hqueue hwire hread => ?_⟩
  cases hopen : p.sender.isOpen
  -- a closed sender still has its command queued
  · exact absurd hqueue (h.closed hopen).2
  · exact hsafe.handled_eq_of_idle hopen hposted (h.idle hqueue) hwire hread
      (by simp [ReadOp.remaining, headerSize])

/-- Two `BREAK` commands written one after the other; the first one's header
goes out in two pieces, the reader taking the first piece before the second
is sent. -/
def twoBreaks : List (PipeEvent Unit) :=
  [.write ⟨⟨RemoteCommandType.break.toWord, 0, 1, 0⟩, [], none⟩, .doWrite,
    .write ⟨⟨RemoteCommandType.break.toWord, 0, 3, 0⟩, [], none⟩, .doWrite,
    .transfer 0 5, .receive 5, .transfer 0 11, .writeDone 0, .receive 11, .readDone,
    .transfer 0 16, .writeDone 0, .receive 16, .readDone]

theorem handled_prefix_of_no_payload_two_breaks :
    (∀ c ∈ twoBreaks.flatMap PipeEvent.written, WellFramed c ∧ NoPayload c) ∧
      ∃ p, (connected : Pipe Unit).run twoBreaks = some p ∧
        ((∀ e ∈ twoBreaks, e.OldestFirst) ∧
          p.receiver.handled <+: twoBreaks.flatMap PipeEvent.written ∧
          (p.posted = [] → p.sender.writeCommandQueue = [] → p.wire = [] →
            p.receiver.read = some (.header []) →
              p.receiver.handled = twoBreaks.flatMap PipeEvent.written)) :=
  ⟨by decide, _, rfl, handled_prefix_of_no_payload (by decide) rfl⟩

end Pipe

end Lldebug.Net
