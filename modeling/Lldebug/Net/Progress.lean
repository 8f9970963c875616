import Lldebug.Net.Connection

/-!
# Every command written gets through

`Lldebug.Net.Connection` shows that a socket never hands its engine a command
out of turn.  This module shows that the sockets do not sit on one either: from
every state a run reaches, the io_services alone, sending oldest first and with
no engine call, can carry every command an engine has written across and hand
it to `HandleReadCommand` on the other side.

The pipe is emptied in three phases.  The posted `doWrite`s run; then the
oldest outstanding write sends all its bytes and completes, over and over; then
the receiver reads what is on the wire, header after payload after header.  The
last two phases end because a measure of the work left goes down at each step:
for the sender, the bytes unsent, three per queued command and one per
outstanding write; for the receiver, three per byte on the wire, two per
command not yet handed over and one for a header read.
-/

namespace Lldebug.Net

variable {Callback : Type}

/-- An event of the io_service alone, oldest write first and no failure. -/
def PipeEvent.IoOnly (e : PipeEvent Callback) : Prop :=
  e.OldestFirst ∧ ¬ e.Fails ∧ e.written = []

namespace SocketBase

theorem WritesShape.length_le {writes : List WriteOp} (h : WritesShape writes) :
    writes.length ≤ 2 := by
  rcases h with rfl | ⟨b, rfl⟩ | ⟨b, b', rfl⟩ <;> simp

/-- A read completing without error hands the engine a command and reads the
next header, or, after a header with a payload, goes on to read the payload. -/
theorem completeRead_false_cases (s : SocketBase Callback) (op : ReadOp Callback) :
    (∃ command, (s.completeRead false op).handled = s.handled ++ [command] ∧
      (s.completeRead false op).read = some (.header [])) ∨
    ((∃ got, op = .header got) ∧ (s.completeRead false op).handled = s.handled ∧
      ∃ command, (s.completeRead false op).read = some (.data command [])) := by
  cases op with
  | header got =>
    simp only [completeRead, handleReadCommand, Bool.false_eq_true, if_false]
    split_ifs <;> simp [doClose, handleReadData, asyncReadCommand]
  | data command got => exact .inl ⟨_, rfl, rfl⟩

end SocketBase

namespace Pipe

theorem run_append (p : Pipe Callback) (es es' : List (PipeEvent Callback)) :
    p.run (es ++ es') = (p.run es).bind (·.run es') := by
  induction es generalizing p with
  | nil => rfl
  | cons e es ih => simp only [List.cons_append, run, List.append_eq, ih, Option.bind_assoc]

/-- The work the sending socket has left: its unsent bytes, three for each
queued command and one for each outstanding write. -/
def sendMeasure (p : Pipe Callback) : Nat :=
  p.sender.unsent.length + 3 * p.sender.writeCommandQueue.length + p.sender.writes.length

/-- The work the receiving socket has left of `written`: three for each byte
on the wire, two for each command not yet handed over, one for a header read. -/
def readMeasure (written : List (RemoteCommand Callback)) (p : Pipe Callback) : Nat :=
  3 * p.wire.length + 2 * (written.length - p.receiver.handled.length) +
    match p.receiver.read with
    | some (.header _) => 1
    | _ => 0

namespace Fifo

variable {written : List (RemoteCommand Callback)} {p p' : Pipe Callback}

theorem ioStep (h : Fifo written p) {e : PipeEvent Callback} (he : e.IoOnly)
    (hstep : p.step e = some p') : Fifo written p' := by
  simpa [he.2.2] using h.step he.1 he.2.1 (by simp [he.2.2]) hstep

/-- The io_service runs every posted `doWrite`. -/
theorem runPosted (h : Fifo written p) :
    ∃ es, (∀ e ∈ es, PipeEvent.IoOnly e) ∧
      ∃ p', p.run es = some p' ∧ Fifo written p' ∧ p'.posted = [] := by
  obtain ⟨posted, hposted⟩ : ∃ posted, p.posted = posted := ⟨_, rfl⟩
  induction posted generalizing p with
  | nil => exact ⟨[], by simp, p, rfl, h, hposted⟩
  | cons command posted ih =>
    have hstep : p.step .doWrite =
        some { p with posted := posted, sender := p.sender.doWrite command } := by
      simp [Pipe.step, hposted]
    obtain ⟨es, hes, p', hrun, h', hp'⟩ := ih (h.ioStep (e := .doWrite) ⟨trivial, id, rfl⟩ hstep) rfl
    exact ⟨.doWrite :: es, List.forall_mem_cons.mpr ⟨⟨trivial, id, rfl⟩, hes⟩, p',
      by simp [Pipe.run, hstep, hrun], h', hp'⟩

/-- With writes outstanding and nothing posted, the oldest write sends all its
bytes or, having sent them, completes; the sender's work goes down. -/
theorem senderStep (h : Fifo written p) (hposted : p.posted = []) (hw : p.sender.writes ≠ []) :
    ∃ e p', e.IoOnly ∧ p.step e = some p' ∧ Fifo written p' ∧ p'.posted = [] ∧
      sendMeasure p' < sendMeasure p := by
  obtain ⟨op, ops, hops⟩ := List.exists_cons_of_ne_nil hw
  have hop : p.sender.writes[0]? = some op := by simp [hops]
  by_cases hbuf : op.buffer = []
  · have hstep : p.step (.writeDone 0) = some { p with sender :=
        (({ p.sender with writes := p.sender.writes.eraseIdx 0 } : SocketBase Callback).handleWrite
          op.deleteCommand false) } := by
      simp [Pipe.step, hop, hbuf]
    have h' := h.ioStep (e := .writeDone 0) ⟨rfl, id, rfl⟩ hstep
    refine ⟨.writeDone 0, _, ⟨rfl, id, rfl⟩, hstep, h', hposted, ?_⟩
    have hlen := h'.sending.shape.length_le
    have hqueue : p.sender.writeCommandQueue ≠ [] := h.sending.queue_iff.not.mpr hw
    simp only [sendMeasure, (h.sending.writeDone hop hbuf).2] at hlen ⊢
    rcases h.sending.shape with hw' | ⟨b, hw'⟩ | ⟨b, b', hw'⟩
    · exact absurd hw' hw
    · -- the command's last write: the command is popped and the next one started
      obtain rfl : ⟨b, true⟩ = op := by simpa [hw'] using hop
      have hq := List.length_pos.mpr hqueue
      simp only [SocketBase.handleWrite_true_false, SocketBase.writeFront_writeCommandQueue,
        List.length_tail] at hlen ⊢
      have hone : p.sender.writes.length = 1 := by rw [hw']; rfl
      omega
    · -- the header write of a command with a payload
      obtain rfl : ⟨b, false⟩ = op := by simpa [hw'] using hop
      simp [SocketBase.handleWrite_false_false, hw']
  · have hpos : 0 < op.buffer.length := List.length_pos.mpr hbuf
    have hstep : p.step (.transfer 0 op.buffer.length) = some { p with
        sender := { p.sender with
          writes := p.sender.writes.set 0 { op with buffer := op.buffer.drop op.buffer.length } }
        wire := p.wire ++ op.buffer.take op.buffer.length } := by
      simp [Pipe.step, hop, h.sending.isOpen, hpos]
    refine ⟨.transfer 0 op.buffer.length, _, ⟨rfl, id, rfl⟩, hstep,
      h.ioStep (e := .transfer 0 op.buffer.length) ⟨rfl, id, rfl⟩ hstep, hposted, ?_⟩
    have hunsent := congrArg List.length (h.sending.transfer hop op.buffer.length).2
    simp only [List.length_append, List.length_take, min_self] at hunsent
    simp only [sendMeasure, List.length_set]
    omega

/-- With nothing posted, the io_service can complete every outstanding write. -/
theorem flushSender (h : Fifo written p) (hposted : p.posted = []) :
    ∃ es, (∀ e ∈ es, PipeEvent.IoOnly e) ∧
      ∃ p', p.run es = some p' ∧ Fifo written p' ∧ p'.posted = [] ∧ p'.sender.writes = [] := by
  obtain ⟨n, hn⟩ : ∃ n, sendMeasure p = n := ⟨_, rfl⟩
  induction n using Nat.strong_induction_on generalizing p with
  | _ n ih =>
    subst hn
    by_cases hw : p.sender.writes = []
    · exact ⟨[], by simp, p, rfl, h, hposted, hw⟩
    obtain ⟨e, q, he, hstep, hq, hqposted, hlt⟩ := h.senderStep hposted hw
    obtain ⟨es, hes, p', hrun, h', hposted', hw'⟩ := ih _ hlt hq hqposted rfl
    exact ⟨e :: es, List.forall_mem_cons.mpr ⟨he, hes⟩, p', by simp [Pipe.run, hstep, hrun], h',
      hposted', hw'⟩

/-- With nothing posted and the sender idle, the receiver finishes its read or
takes what is on the wire, and its work goes down; when it can do neither,
every command written has been handed over. -/
theorem receiverStep (h : Fifo written p) (hposted : p.posted = []) (hw : p.sender.writes = []) :
    (∃ e p', e.IoOnly ∧ p.step e = some p' ∧ Fifo written p' ∧ p'.posted = [] ∧
      p'.sender.writes = [] ∧ readMeasure written p' < readMeasure written p) ∨
    p.receiver.handled = written := by
  obtain ⟨op, hread, hok, hpending⟩ := h.pending
  by_cases hdone : op.remaining = 0
  · -- the read is complete: its handler runs
    left
    have hstep : p.step .readDone = some { p with receiver :=
        (({ p.receiver with read := none } : SocketBase Callback).completeRead false op) } := by
      simp [Pipe.step, hread, hdone]
    have h' := h.ioStep (e := .readDone) ⟨trivial, id, rfl⟩ hstep
    refine ⟨.readDone, _, ⟨trivial, id, rfl⟩, hstep, h', hposted, hw, ?_⟩
    have hle := h'.handled.length_le
    simp only [readMeasure, hread] at hle ⊢
    rcases SocketBase.completeRead_false_cases { p.receiver with read := none } op with
      ⟨command, hhandled, hread'⟩ | ⟨⟨got, rfl⟩, hhandled, command, hread'⟩
    · -- a command is handed over and the next header read starts
      simp only [hhandled, hread', List.length_append, List.length_singleton] at hle ⊢
      omega
    · -- the header read becomes the payload read
      simp only [hhandled, hread']
      omega
  by_cases hwire : p.wire = []
  · -- nothing more can come: everything written has been handed over
    exact .inr (h.handled_eq_of_idle hposted hw hwire hread hdone)
  · -- the read takes what is on the wire
    left
    have hpos : 0 < min op.remaining p.wire.length :=
      lt_min (Nat.pos_of_ne_zero hdone) (List.length_pos.mpr hwire)
    have hstep : p.step (.receive (min op.remaining p.wire.length)) = some { p with
        receiver := { p.receiver with
          read := some (op.append (p.wire.take (min op.remaining p.wire.length))) }
        wire := p.wire.drop (min op.remaining p.wire.length) } := by
      simp [Pipe.step, hread, h.receiving, hpos]
    refine ⟨.receive (min op.remaining p.wire.length), _, ⟨trivial, id, rfl⟩, hstep,
      h.ioStep (e := .receive (min op.remaining p.wire.length)) ⟨trivial, id, rfl⟩ hstep, hposted,
      hw, ?_⟩
    simp only [readMeasure, List.length_drop, hread]
    cases op <;> simp only [ReadOp.append] <;> omega

/-- With nothing posted and the sender idle, the io_service can hand every
command written to the receiving engine. -/
theorem drainReceiver (h : Fifo written p) (hposted : p.posted = []) (hw : p.sender.writes = []) :
    ∃ es, (∀ e ∈ es, PipeEvent.IoOnly e) ∧
      ∃ p', p.run es = some p' ∧ Fifo written p' ∧ p'.receiver.handled = written := by
  obtain ⟨n, hn⟩ : ∃ n, readMeasure written p = n := ⟨_, rfl⟩
  induction n using Nat.strong_induction_on generalizing p with
  | _ n ih =>
    subst hn
    rcases h.receiverStep hposted hw with ⟨e, q, he, hstep, hq, hqposted, hqw, hlt⟩ | hhandled
    · obtain ⟨es, hes, p', hrun, h', hhandled'⟩ := ih _ hlt hq hqposted hqw rfl
      exact ⟨e :: es, List.forall_mem_cons.mpr ⟨he, hes⟩, p', by simp [Pipe.run, hstep, hrun], h',
        hhandled'⟩
    · exact ⟨[], by simp, p, rfl, h, hhandled⟩

/-- From every state of a FIFO pipe the io_service alone, oldest write first,
can hand every command written to the receiving engine. -/
theorem drain (h : Fifo written p) :
    ∃ es, (∀ e ∈ es, PipeEvent.IoOnly e) ∧
      ∃ p', p.run es = some p' ∧ Fifo written p' ∧ p'.receiver.handled = written := by
  obtain ⟨es₁, hes₁, p₁, hrun₁, h₁, hposted₁⟩ := h.runPosted
  obtain ⟨es₂, hes₂, p₂, hrun₂, h₂, hposted₂, hw₂⟩ := h₁.flushSender hposted₁
  obtain ⟨es₃, hes₃, p₃, hrun₃, h₃, hhandled⟩ := h₂.drainReceiver hposted₂ hw₂
  refine ⟨es₁ ++ es₂ ++ es₃, ?_, p₃, by simp [run_append, hrun₁, hrun₂, hrun₃], h₃,
    hhandled⟩
  simp only [List.forall_mem_append]
  exact ⟨⟨hes₁, hes₂⟩, hes₃⟩

end Fifo

end Pipe

namespace Connection

variable [DecidableEq Callback] {k : Word} {c : Connection Callback}

/-- What the pipe into `r` does on its own, the connection does too: the same
io events, with each command handed over read by `r`. -/
theorem Inv.ioRun (h : Inv k c) {r : Role} {es : List (PipeEvent (Registration Callback))}
    (hes : ∀ e ∈ es, e.IoOnly) {l : Pipe (Registration Callback)}
    (hl : (c.link r).run es = some l) :
    ∃ c', c.run k (es.map (.io r)) = some c' ∧ Inv k c' ∧ c'.link r = l ∧
      c'.session.sent = c.session.sent := by
  induction es generalizing c with
  | nil => cases hl; exact ⟨c, rfl, h, rfl, rfl⟩
  | cons e es ih =>
    obtain ⟨l₁, hl₁, hrest⟩ := Option.bind_eq_some.mp hl
    obtain ⟨heo, hfail, hew⟩ := hes e (List.mem_cons_self _ _)
    obtain ⟨c₁, hc₁, h₁⟩ := h.io heo hfail hew hl₁
    obtain ⟨hlink, hsent⟩ := deliver_eq hc₁
    obtain ⟨c', hrun, h', hlink', hsent'⟩ := ih h₁ (fun e he => hes e (List.mem_cons_of_mem _ he))
      (by rwa [hlink])
    refine ⟨c', ?_, h', hlink', hsent'.trans hsent⟩
    simp [Connection.run, Connection.step, hew, hl₁, hc₁, hrun]

/-- With each io_service sending oldest first and every command written well
framed, the sockets never sit on a command: after every run, the io_services
alone, oldest write first and with no engine call, can hand engine `r` every
command the peer has written; `r` has then read them all, in order, and its
inbox is empty. -/
theorem sockets_deliver_all_written {es : List (ConnectionEvent Callback)}
    (hsched : ∀ e ∈ es, e.OldestFirst) (hrun : init.run k es = some c)
    (hframed : ∀ r, ∀ p ∈ c.session.sent r, WellFramed p.command) (r : Role) :
    ∃ es' c', (∀ e ∈ es', ∃ e', e = .io r e' ∧ e'.OldestFirst) ∧ c.run k es' = some c' ∧
      c'.session.sent = c.session.sent ∧ c'.session.received r = c.session.sent r.peer ∧
      c'.session.inbox r = [] := by
  have h := inv_init.run hsched hrun hframed
  obtain ⟨pes, hpes, l, hl, -, hhandled⟩ := (h.fifo r).drain
  obtain ⟨c', hrun', h', hlink, hsent⟩ := h.ioRun hpes hl
  have hfifo := h'.reachable.correlationInv.fifo r
  have hmap : (c'.session.received r).map (·.command) = (c.session.sent r.peer).map (·.command) := by
    rw [← h'.handled r, hlink, hhandled]
  have hinbox : c'.session.inbox r = [] := by
    have hlen := congrArg List.length hfifo
    have hlen' := congrArg List.length hmap
    rw [hsent] at hlen
    simp only [List.length_append, List.length_map] at hlen hlen'
    exact List.length_eq_zero.mp (by omega)
  refine ⟨pes.map (.io r), c', ?_, hrun', hsent, ?_, hinbox⟩
  · simp only [List.mem_map]
    rintro _ ⟨e', he', rfl⟩
    exact ⟨e', rfl, (hpes e' he').1⟩
  · rw [← hsent, ← hfifo, hinbox, List.append_nil]

/-- The wired handshake up to the frame's `CHANGED_STATE`, still posted. -/
def changedStatePosted : List (ConnectionEvent Unit) :=
  wiredHandshake.take 8

def afterChangedStatePosted : Connection Unit :=
  ((init : Connection Unit).run 7 changedStatePosted).getD init

theorem sockets_deliver_all_written_changed_state_posted :
    (∀ e ∈ changedStatePosted, e.OldestFirst) ∧
      (∀ r, ∀ p ∈ afterChangedStatePosted.session.sent r, WellFramed p.command) ∧
      ∃ es' c', (∀ e ∈ es', ∃ e', e = .io .context e' ∧ e'.OldestFirst) ∧
        afterChangedStatePosted.run 7 es' = some c' ∧
        c'.session.sent = afterChangedStatePosted.session.sent ∧
        c'.session.received .context = afterChangedStatePosted.session.sent Role.context.peer ∧
        c'.session.inbox .context = [] :=
  have hframed : ∀ r, ∀ p ∈ afterChangedStatePosted.session.sent r, WellFramed p.command :=
    fun r => by cases r <;> decide
  have hrun : (init : Connection Unit).run 7 changedStatePosted = some afterChangedStatePosted := rfl
  ⟨by decide, hframed, sockets_deliver_all_written (by decide) hrun hframed .context⟩

end Connection

end Lldebug.Net
