import Lldebug.Net.Pipe

/-!
# Delivery when the oldest write goes first

`asyncWrite` starts a command's header write and payload write together, and
`Lldebug.Net.Pipe` shows that their bytes can interleave.  When the io_service
sends the outstanding writes oldest first (all of one write's bytes, and its
completion, before any byte of the next), a pipe is a FIFO channel of
commands: the receiving socket hands `HandleReadCommand` a prefix of the
commands written, byte for byte, and all of them once everything is through.

The proof keeps one equation: the frames of the commands not yet handed over
are the bytes the outstanding read has taken, then the wire, then what the
sender has still to send, then the frames of the posted commands.
-/

namespace Lldebug.Net

variable {Callback : Type}

/-- The bytes of commands on the wire, one frame after another. -/
def frames (commands : List (RemoteCommand Callback)) : List Byte :=
  commands.flatMap frameBytes

@[simp] theorem frames_nil : frames ([] : List (RemoteCommand Callback)) = [] := rfl

@[simp] theorem frames_cons (command : RemoteCommand Callback)
    (commands : List (RemoteCommand Callback)) :
    frames (command :: commands) = frameBytes command ++ frames commands := rfl

@[simp] theorem frames_append (commands more : List (RemoteCommand Callback)) :
    frames (commands ++ more) = frames commands ++ frames more := by
  simp [frames]

/-- Every frame has its header's bytes. -/
theorem frameBytes_ne_nil (command : RemoteCommand Callback) : frameBytes command ≠ [] := by
  simp [frameBytes, encodeHeader, wordBytes]

theorem frames_eq_nil {commands : List (RemoteCommand Callback)} (h : frames commands = []) :
    commands = [] := by
  cases commands with
  | nil => rfl
  | cons command commands => simp [frameBytes_ne_nil] at h

/-- A command as `SocketBase::Write` is meant to get it: its `ctxId` is not
negative, `dataSize` is the payload's length, and no continuation travels
with it. -/
def WellFramed (command : RemoteCommand Callback) : Prop :=
  0 ≤ command.header.ctxId.toInt ∧ command.header.dataSize.toNat = command.data.length ∧
    command.response = none

instance [DecidableEq Callback] (command : RemoteCommand Callback) :
    Decidable (WellFramed command) :=
  inferInstanceAs (Decidable (_ ∧ _))

/-- A header and what follows it determine each other. -/
theorem encodeHeader_append_inj {h h' : RemoteCommandHeader} {rest rest' : List Byte}
    (heq : encodeHeader h ++ rest = encodeHeader h' ++ rest') : h = h' ∧ rest = rest' := by
  obtain ⟨hbytes, hrest⟩ := List.append_inj heq rfl
  exact ⟨by simpa using congrArg decodeHeader hbytes, hrest⟩

/-! ## The sending socket -/

namespace SocketBase

variable (s : SocketBase Callback) (command : RemoteCommand Callback)

/-- The bytes a sending socket has still to send: those of its outstanding
writes, then the frames queued behind the command being written. -/
def unsent : List Byte :=
  s.writes.flatMap (·.buffer) ++ frames (s.writeCommandQueue.drop 1)

/-- The writes `asyncWrite` leaves for one command: none, the last one, or a
header write and then the last one. -/
def WritesShape (writes : List WriteOp) : Prop :=
  writes = [] ∨ (∃ b, writes = [⟨b, true⟩]) ∨ ∃ b b', writes = [⟨b, false⟩, ⟨b', true⟩]

@[simp] theorem asyncWrite_writeCommandQueue :
    (s.asyncWrite command).writeCommandQueue = s.writeCommandQueue := by
  unfold asyncWrite; split <;> rfl

@[simp] theorem writeFront_writeCommandQueue :
    s.writeFront.writeCommandQueue = s.writeCommandQueue := by
  unfold writeFront; split <;> simp

variable {s command}

/-- With nothing outstanding, `asyncWrite` of a well-framed command starts
writes of exactly its frame. -/
theorem asyncWrite_writes (hwrites : s.writes = []) (hc : WellFramed command) :
    (s.asyncWrite command).writes.flatMap (·.buffer) = frameBytes command ∧
      WritesShape (s.asyncWrite command).writes := by
  obtain ⟨-, hsize, -⟩ := hc
  unfold asyncWrite
  split_ifs with hzero
  · have hdata : command.data = [] := by
      rw [hzero] at hsize; exact List.length_eq_zero.mp hsize.symm
    simp [hwrites, hdata, frameBytes, WritesShape]
  · simp [hwrites, hsize, frameBytes, WritesShape]

/-- A sending socket that writes one command at a time: open, writing exactly
while its queue is not empty, only the last write of a command deleting it,
and every command queued well framed. -/
structure Sending (s : SocketBase Callback) : Prop where
  isOpen : s.isOpen = true
  queue_iff : s.writeCommandQueue = [] ↔ s.writes = []
  shape : WritesShape s.writes
  framed : ∀ c ∈ s.writeCommandQueue, WellFramed c

/-- With nothing outstanding, `asyncWrite` of the front of a well-framed queue
leaves a sending socket with the whole queue's frames still to send. -/
theorem sending_asyncWrite {rest : List (RemoteCommand Callback)} (hopen : s.isOpen = true)
    (hwrites : s.writes = []) (hqueue : s.writeCommandQueue = command :: rest)
    (hframed : ∀ c ∈ command :: rest, WellFramed c) :
    Sending (s.asyncWrite command) ∧ (s.asyncWrite command).unsent = frames (command :: rest) := by
  obtain ⟨hbytes, hshape⟩ := asyncWrite_writes hwrites (hframed command (List.mem_cons_self _ _))
  have hne : (s.asyncWrite command).writes ≠ [] := fun hnil =>
    frameBytes_ne_nil command (by rw [← hbytes, hnil]; rfl)
  refine ⟨⟨by simpa using hopen, by simpa [hqueue] using hne, hshape,
    by simpa [hqueue] using hframed⟩, ?_⟩
  rw [unsent, hbytes, asyncWrite_writeCommandQueue, hqueue]
  rfl

namespace Sending

variable (h : Sending s)
include h

/-- Being a sending socket depends only on `isOpen`, the queue and the writes. -/
theorem of_eq {s' : SocketBase Callback} (hopen : s'.isOpen = true)
    (hqueue : s'.writeCommandQueue = s.writeCommandQueue) (hwrites : s'.writes = s.writes) :
    Sending s' :=
  ⟨hopen, by rw [hqueue, hwrites]; exact h.queue_iff, hwrites ▸ h.shape, hqueue ▸ h.framed⟩

/-- `doWrite` adds the command's frame behind the unsent bytes. -/
theorem doWrite (hc : WellFramed command) :
    Sending (s.doWrite command) ∧ (s.doWrite command).unsent = s.unsent ++ frameBytes command := by
  by_cases hq : s.writeCommandQueue = []
  · have hw := h.queue_iff.mp hq
    rw [doWrite_of_eq_nil _ _ hq]
    obtain ⟨hsending, hunsent⟩ := sending_asyncWrite (s := { s with writeCommandQueue := [command] })
      h.isOpen hw rfl (List.forall_mem_singleton.mpr hc)
    exact ⟨hsending, by rw [hunsent]; simp [unsent, hw, hq]⟩
  · rw [doWrite_of_ne_nil _ _ hq]
    refine ⟨⟨h.isOpen, by simpa [hq] using h.queue_iff.not.mp hq, h.shape,
      List.forall_mem_append.mpr ⟨h.framed, List.forall_mem_singleton.mpr hc⟩⟩, ?_⟩
    obtain ⟨q, qs, hqs⟩ := List.exists_cons_of_ne_nil hq
    simp [unsent, hqs]

/-- Sending `n` bytes of the oldest write takes them off the front of the
unsent bytes. -/
theorem transfer {op : WriteOp} (hop : s.writes[0]? = some op) (n : Nat) :
    Sending { s with writes := s.writes.set 0 { op with buffer := op.buffer.drop n } } ∧
      s.unsent = op.buffer.take n ++
        ({ s with writes := s.writes.set 0 { op with buffer := op.buffer.drop n } } :
          SocketBase Callback).unsent := by
  rcases h.shape with hw | ⟨b, hw⟩ | ⟨b, b', hw⟩ <;> rw [hw] at hop <;> simp at hop <;> subst hop <;>
    exact ⟨⟨h.isOpen, by simpa [hw] using h.queue_iff, by simp [WritesShape, hw], h.framed⟩,
      by simp [unsent, hw, ← List.append_assoc]⟩

/-- The oldest write, all sent, completes: the bytes still to send stay the same. -/
theorem writeDone {op : WriteOp} (hop : s.writes[0]? = some op) (hbuf : op.buffer = []) :
    Sending (({ s with writes := s.writes.eraseIdx 0 } : SocketBase Callback).handleWrite
        op.deleteCommand false) ∧
      (({ s with writes := s.writes.eraseIdx 0 } : SocketBase Callback).handleWrite
        op.deleteCommand false).unsent = s.unsent := by
  rcases h.shape with hw | ⟨b, hw⟩ | ⟨b, b', hw⟩ <;> rw [hw] at hop <;> simp at hop <;> subst hop
  · obtain ⟨q, qs, hq⟩ := List.exists_cons_of_ne_nil (h.queue_iff.not.mpr (by simp [hw]))
    simp only at hbuf
    subst hbuf
    rw [handleWrite_true_false]
    cases qs with
    | nil =>
      simp only [writeFront, hw, hq, List.eraseIdx_cons_zero, List.tail_cons]
      exact ⟨⟨h.isOpen, by simp, .inl rfl, by simp⟩, by simp [unsent, hw, hq]⟩
    | cons q' qs =>
      simp only [writeFront, hw, hq, List.eraseIdx_cons_zero, List.tail_cons]
      obtain ⟨hsending, hunsent⟩ :=
        sending_asyncWrite (s := { s with writes := [], writeCommandQueue := q' :: qs })
          h.isOpen rfl rfl fun c hc => h.framed c (by simp [hq, hc])
      exact ⟨hsending, by rw [hunsent]; simp [unsent, hw, hq]⟩
  · simp only at hbuf
    subst hbuf
    rw [handleWrite_false_false]
    refine ⟨⟨h.isOpen, by simpa [hw] using h.queue_iff, .inr (.inl ⟨b', by simp [hw]⟩), h.framed⟩, ?_⟩
    simp [unsent, hw]

end Sending

end SocketBase

/-! ## The receiving socket -/

namespace ReadOp

/-- What the outstanding read has taken of the frame it is reading. -/
def consumed : ReadOp Callback → List Byte
  | header got => got
  | data command got => encodeHeader command.header ++ got

/-- A read as the read loop starts it: a header read short of its `headerSize`
bytes, or the payload read of a header, with no payload or continuation yet,
short of its `dataSize` bytes. -/
def Ok : ReadOp Callback → Prop
  | header got => got.length ≤ headerSize
  | data command got =>
    command.data = [] ∧ command.response = none ∧ got.length ≤ command.header.dataSize.toNat

@[simp] theorem consumed_append (op : ReadOp Callback) (bytes : List Byte) :
    (op.append bytes).consumed = op.consumed ++ bytes := by
  cases op <;> simp [append, consumed]

theorem Ok.append {op : ReadOp Callback} (h : op.Ok) {bytes : List Byte}
    (hlength : bytes.length ≤ op.remaining) : (op.append bytes).Ok := by
  cases op with
  | header got =>
    simp only [Ok, remaining] at h hlength
    show (got ++ bytes).length ≤ headerSize
    rw [List.length_append]; omega
  | data command got =>
    obtain ⟨hdata, hresp, hgot⟩ := h
    simp only [remaining] at hlength
    show command.data = [] ∧ command.response = none ∧
      (got ++ bytes).length ≤ command.header.dataSize.toNat
    exact ⟨hdata, hresp, by rw [List.length_append]; omega⟩

end ReadOp

namespace SocketBase

/-- A finished read of the frame the pending bytes start with either hands
that frame's command to the engine, or goes on to read its payload. -/
theorem completeRead_frame {s : SocketBase Callback} {op : ReadOp Callback}
    {pending : List (RemoteCommand Callback)} {rest : List Byte}
    (hok : op.Ok) (hdone : op.remaining = 0) (hframed : ∀ c ∈ pending, WellFramed c)
    (heq : frames pending = op.consumed ++ rest) :
    ∃ done op', done <+: pending ∧
      ({ s with read := none } : SocketBase Callback).completeRead false op =
        { s with read := some op', handled := s.handled ++ done } ∧
      op'.Ok ∧ frames (pending.drop done.length) = op'.consumed ++ rest := by
  cases pending with
  | nil =>
    exfalso
    have hlen := congrArg List.length heq
    cases op with
    | header got =>
      simp [ReadOp.Ok, ReadOp.remaining, ReadOp.consumed, headerSize] at hok hdone hlen; omega
    | data command got => simp [ReadOp.consumed, headerSize] at hlen; omega
  | cons c cs =>
    obtain ⟨hctx, hsize, hresp⟩ := hframed c (List.mem_cons_self _ _)
    have hnonneg : ¬ c.header.ctxId.toInt < 0 := not_lt.mpr hctx
    simp only [frames_cons, frameBytes, List.append_assoc] at heq
    cases op with
    | header got =>
      simp only [ReadOp.Ok, ReadOp.remaining, ReadOp.consumed] at hok hdone heq
      obtain ⟨hgot, hrest⟩ := List.append_inj heq.symm (by rw [length_encodeHeader]; omega)
      subst hgot hrest
      simp only [completeRead, decodeHeader_encodeHeader]
      by_cases hpos : 0 < c.header.dataSize
      · refine ⟨[], .data ⟨c.header, [], none⟩ [], List.nil_prefix, ?_, ⟨rfl, rfl, by simp⟩,
          by simp [ReadOp.consumed, frameBytes]⟩
        rw [handleReadCommand_of_pos _ ⟨c.header, [], none⟩ hnonneg hpos]
        simp
      · have hdata : c.data = [] := by
          rw [BitVec.lt_def] at hpos
          exact List.length_eq_zero.mp (by simp at hpos; omega)
        refine ⟨[c], .header [], by simp, ?_, by simp [ReadOp.Ok], by simp [ReadOp.consumed, hdata]⟩
        rw [handleReadCommand_of_not_pos _ ⟨c.header, [], none⟩ hnonneg hpos, handleReadData_false]
        obtain ⟨header, data, response⟩ := c
        simp only at hdata hresp
        subst hdata hresp
        rfl
    | data command got =>
      obtain ⟨hcdata, hcresp, hgot⟩ := hok
      simp only [ReadOp.remaining, ReadOp.consumed, List.append_assoc] at hdone heq
      obtain ⟨hheader, hbytes⟩ := encodeHeader_append_inj heq
      obtain ⟨hdata, hrest⟩ := List.append_inj hbytes (by rw [← hsize, hheader]; omega)
      subst hdata hrest
      refine ⟨[c], .header [], by simp, ?_, by simp [ReadOp.Ok], by simp [ReadOp.consumed]⟩
      rw [completeRead, handleReadData_false]
      obtain ⟨header, data, response⟩ := c
      obtain ⟨cheader, cdata, cresponse⟩ := command
      simp only at hheader hcdata hcresp hresp
      subst hheader hcdata hcresp hresp
      rfl

/-- A finished read, on a socket that has handed over a prefix of the commands
written and whose read has taken the front of the frames of the others, hands
over a longer prefix and leaves a read that has taken the front of the rest. -/
theorem completeRead_written {s : SocketBase Callback} {written : List (RemoteCommand Callback)}
    {op : ReadOp Callback} {rest : List Byte} (hframed : ∀ c ∈ written, WellFramed c)
    (hhandled : s.handled <+: written) (hok : op.Ok) (hdone : op.remaining = 0)
    (hpending : frames (written.drop s.handled.length) = op.consumed ++ rest) :
    ∃ done op', ({ s with read := none } : SocketBase Callback).completeRead false op =
        { s with read := some op', handled := s.handled ++ done } ∧
      s.handled ++ done <+: written ∧ op'.Ok ∧
      frames (written.drop (s.handled ++ done).length) = op'.consumed ++ rest := by
  obtain ⟨done, op', hhanded, hread, hok', hrest⟩ :=
    completeRead_frame (s := s) hok hdone (fun c hc => hframed c (List.mem_of_mem_drop hc)) hpending
  refine ⟨done, op', hread, ?_, hok', by simpa [List.drop_drop, Nat.add_comm] using hrest⟩
  exact (List.prefix_iff_eq_append.mp hhandled).symm ▸ (List.prefix_append_right_inj _).mpr hhanded

end SocketBase

/-! ## The pipe -/

namespace PipeEvent

/-- The commands a `write` event posts. -/
def written : PipeEvent Callback → List (RemoteCommand Callback)
  | write command => [command]
  | _ => []

/-- The io_service sends the oldest outstanding write first: bytes,
completions and failures only ever go to the write at position 0. -/
def OldestFirst : PipeEvent Callback → Prop
  | transfer op _ => op = 0
  | writeDone op => op = 0
  | writeFail op => op = 0
  | _ => True

instance : (e : PipeEvent Callback) → Decidable e.OldestFirst
  | transfer op _ => inferInstanceAs (Decidable (op = 0))
  | writeDone op => inferInstanceAs (Decidable (op = 0))
  | writeFail op => inferInstanceAs (Decidable (op = 0))
  | write _ | doWrite | receive _ | readDone | readFail => isTrue trivial

end PipeEvent

/-- A read that waits for bytes when the frames still to come are exactly the
bytes it has taken has nothing left to read. -/
theorem pending_eq_nil_of_waiting {op : ReadOp Callback} {pending : List (RemoteCommand Callback)}
    (hok : op.Ok) (hwait : op.remaining ≠ 0) (hframed : ∀ c ∈ pending, WellFramed c)
    (heq : frames pending = op.consumed) : pending = [] := by
  cases pending with
  | nil => rfl
  | cons c cs =>
    exfalso
    obtain ⟨-, hsize, -⟩ := hframed c (List.mem_cons_self _ _)
    simp only [frames_cons, frameBytes, List.append_assoc] at heq
    cases op with
    | header got =>
      have hlen := congrArg List.length heq
      simp only [ReadOp.Ok, ReadOp.remaining, ReadOp.consumed] at hok hwait heq hlen
      simp only [List.length_append, length_encodeHeader, headerSize] at hlen
      simp only [headerSize] at hok hwait
      omega
    | data command got =>
      obtain ⟨-, -, hgot⟩ := hok
      simp only [ReadOp.remaining, ReadOp.consumed] at hwait heq
      obtain ⟨hheader, hbytes⟩ := encodeHeader_append_inj heq
      have hlen := congrArg List.length hbytes
      simp only [List.length_append] at hlen
      rw [hheader] at hsize
      omega

namespace Pipe

/-- The pipe after the commands `written` were posted: each well framed, the
sender writing one command at a time, the receiver open and reading, the
commands handed over a prefix of `written`, and the frames of the others the
bytes the read has taken, then the wire, then the sender's unsent bytes, then
the frames of the posted commands. -/
structure Fifo (written : List (RemoteCommand Callback)) (p : Pipe Callback) : Prop where
  framed : ∀ c ∈ written, WellFramed c
  posted : ∀ c ∈ p.posted, WellFramed c
  sending : p.sender.Sending
  receiving : p.receiver.isOpen = true
  handled : p.receiver.handled <+: written
  pending : ∃ op, p.receiver.read = some op ∧ op.Ok ∧
    frames (written.drop p.receiver.handled.length) =
      op.consumed ++ p.wire ++ p.sender.unsent ++ frames p.posted

theorem fifo_connected : Fifo [] (connected : Pipe Callback) :=
  ⟨fun _ h => (List.not_mem_nil _ h).elim, fun _ h => (List.not_mem_nil _ h).elim,
    ⟨rfl, ⟨fun _ => rfl, fun _ => rfl⟩, .inl rfl, fun _ h => (List.not_mem_nil _ h).elim⟩, rfl,
    List.nil_prefix,
    ⟨.header [], rfl, by simp [ReadOp.Ok], rfl⟩⟩

namespace Fifo

variable {written : List (RemoteCommand Callback)} {p : Pipe Callback} (h : Fifo written p)
include h

/-- Posting commands to `SocketBase::Write` adds their frames behind the others. -/
theorem post {commands : List (RemoteCommand Callback)} (hframed : ∀ c ∈ commands, WellFramed c) :
    Fifo (written ++ commands) (p.post commands) := by
  obtain ⟨op, hread, hok, hpending⟩ := h.pending
  refine ⟨List.forall_mem_append.mpr ⟨h.framed, hframed⟩,
    List.forall_mem_append.mpr ⟨h.posted, hframed⟩, h.sending, h.receiving,
    h.handled.trans (List.prefix_append _ _), op, hread, hok, ?_⟩
  simp [Pipe.post, List.drop_append_of_le_length h.handled.length_le, hpending]

/-- Every event the oldest-first io_service allows, short of a failure, keeps
the pipe a FIFO of the commands written. -/
theorem step {p' : Pipe Callback} {e : PipeEvent Callback} (he : e.OldestFirst) (hfail : ¬ e.Fails)
    (hframed : ∀ c ∈ e.written, WellFramed c) (hstep : p.step e = some p') :
    Fifo (written ++ e.written) p' := by
  obtain ⟨op, hread, hok, hpending⟩ := h.pending
  cases e <;> simp only [Pipe.step, hread, PipeEvent.written, List.append_nil] at hstep ⊢
  case write command =>
    cases hstep
    exact h.post hframed
  case doWrite =>
    split at hstep
    · rename_i command rest hposted
      cases hstep
      obtain ⟨hsending, hunsent⟩ := h.sending.doWrite (h.posted command (by simp [hposted]))
      refine ⟨h.framed, fun c hc => h.posted c (by simp [hposted, hc]), hsending, h.receiving,
        h.handled, op, hread, hok, ?_⟩
      simp [hpending, hposted, hunsent]
    · cases hstep
  case transfer i n =>
    cases (he : i = 0)
    split at hstep
    · rename_i wop hwop
      split_ifs at hstep with hcond
      cases hstep
      obtain ⟨hsending, hunsent⟩ := h.sending.transfer hwop n
      refine ⟨h.framed, h.posted, hsending, h.receiving, h.handled, op, hread, hok, ?_⟩
      simp [hpending, hunsent]
    · cases hstep
  case writeDone i =>
    cases (he : i = 0)
    split at hstep
    · rename_i wop hwop
      split_ifs at hstep with hcond
      cases hstep
      have hbuf : wop.buffer = [] := hcond.resolve_right (by simp [h.sending.isOpen])
      obtain ⟨hsending, hunsent⟩ := h.sending.writeDone hwop hbuf
      simp only [hbuf, List.isEmpty_nil, Bool.not_true]
      exact ⟨h.framed, h.posted, hsending, h.receiving, h.handled, op, hread, hok,
        hunsent ▸ hpending⟩
    · cases hstep
  case receive n =>
    split_ifs at hstep with hcond
    cases hstep
    refine ⟨h.framed, h.posted, h.sending, h.receiving, h.handled, op.append (p.wire.take n), rfl,
      hok.append (by simp; omega), ?_⟩
    simp [hpending]
  case readDone =>
    split_ifs at hstep with hcond
    cases hstep
    have hdone : op.remaining = 0 := hcond.resolve_right (by simp [h.receiving])
    obtain ⟨done, op', hreceiver, hhanded, hok', hpending'⟩ :=
      SocketBase.completeRead_written h.framed h.handled hok hdone
        (by rw [hpending, List.append_assoc, List.append_assoc])
    simp only [hdone, bne_self_eq_false, hreceiver]
    exact ⟨h.framed, h.posted, h.sending, h.receiving, hhanded, op', rfl, hok',
      by simpa using hpending'⟩
  case readFail | writeFail => exact absurd trivial hfail

/-- A run of such events keeps it too, with the commands its `write` events post. -/
theorem run {p' : Pipe Callback} {es : List (PipeEvent Callback)}
    (hsched : ∀ e ∈ es, e.OldestFirst) (hfail : ∀ e ∈ es, ¬ e.Fails)
    (hframed : ∀ c ∈ es.flatMap PipeEvent.written, WellFramed c)
    (hrun : p.run es = some p') : Fifo (written ++ es.flatMap PipeEvent.written) p' := by
  induction es generalizing written p with
  | nil => cases hrun; simpa using h
  | cons e es ih =>
    obtain ⟨q, hq, hrest⟩ := Option.bind_eq_some.mp hrun
    have hq' := h.step (hsched e (List.mem_cons_self _ _)) (hfail e (List.mem_cons_self _ _))
      (fun c hc => hframed c (List.mem_append_left _ hc)) hq
    simpa using ih hq' (fun e he => hsched e (List.mem_cons_of_mem _ he))
      (fun e he => hfail e (List.mem_cons_of_mem _ he))
      (fun c hc => hframed c (List.mem_append_right _ hc)) hrest

end Fifo

/-! ## When operations fail

A failed read closes the receiving socket, and a failed write the sending one.
Order survives: `Safe` keeps that the commands handed over are a prefix of
those written and that an outstanding read, on an open socket or on one closed
under it, has taken the front of the frames not yet handed over, with the wire
behind it; only while the sender is open is the rest of those frames its
unsent bytes and then the posted commands. -/

/-- What stays true of a pipe when operations may fail: the commands written
well framed, the commands handed over a prefix of them, the sender writing one
command at a time while it is open, and an outstanding read has taken the front
of the frames not yet handed over, with the wire behind it and then, while the
sender is open, the sender's unsent bytes and the posted commands. -/
structure Safe (written : List (RemoteCommand Callback)) (p : Pipe Callback) : Prop where
  framed : ∀ c ∈ written, WellFramed c
  posted : ∀ c ∈ p.posted, WellFramed c
  handled : p.receiver.handled <+: written
  sending : p.sender.isOpen = true → p.sender.Sending
  pending : ∀ op, p.receiver.read = some op → op.Ok ∧ ∃ rest,
    frames (written.drop p.receiver.handled.length) = op.consumed ++ p.wire ++ rest ∧
      (p.sender.isOpen = true → rest = p.sender.unsent ++ frames p.posted)

theorem Fifo.safe {written : List (RemoteCommand Callback)} {p : Pipe Callback}
    (h : Fifo written p) : Safe written p := by
  obtain ⟨op, hread, hok, hpending⟩ := h.pending
  refine ⟨h.framed, h.posted, h.handled, fun _ => h.sending, fun op' hop' => ?_⟩
  obtain rfl := Option.some.inj (hread.symm.trans hop')
  exact ⟨hok, _, by rw [hpending, List.append_assoc], fun _ => rfl⟩

namespace Safe

variable {written : List (RemoteCommand Callback)} {p p' : Pipe Callback}
  (h : Safe written p)
include h

theorem post {commands : List (RemoteCommand Callback)} (hframed : ∀ c ∈ commands, WellFramed c) :
    Safe (written ++ commands) (p.post commands) := by
  refine ⟨List.forall_mem_append.mpr ⟨h.framed, hframed⟩,
    List.forall_mem_append.mpr ⟨h.posted, hframed⟩, h.handled.trans (List.prefix_append _ _),
    h.sending, fun op hop => ?_⟩
  obtain ⟨hok, rest, hrest, hsent⟩ := h.pending op hop
  exact ⟨hok, rest ++ frames commands,
    by simp [Pipe.post, List.drop_append_of_le_length h.handled.length_le, hrest],
    fun hs => by simp [Pipe.post, hsent hs]⟩

/-- The receiver's read completing with an error, or failing: the socket closes
with no read outstanding. -/
theorem closeRead (op : ReadOp Callback) :
    Safe written { p with receiver :=
      (({ p.receiver with read := none } : SocketBase Callback).completeRead true op) } := by
  rw [SocketBase.completeRead_true]
  exact ⟨h.framed, h.posted, h.handled, h.sending, fun _ hop => by simp at hop⟩

/-- Every event an oldest-first io_service can take, a failure included,
keeps a pipe safe. -/
theorem step {e : PipeEvent Callback} (he : e.OldestFirst) (hframed : ∀ c ∈ e.written, WellFramed c)
    (hstep : p.step e = some p') : Safe (written ++ e.written) p' := by
  cases e <;> simp only [Pipe.step, PipeEvent.written, List.append_nil] at hstep ⊢
  case write command =>
    cases hstep
    exact h.post hframed
  case doWrite =>
    split at hstep <;> [rename_i command rest hposted; cases hstep]
    cases hstep
    have hc := h.posted command (by simp [hposted])
    refine ⟨h.framed, fun c hc' => h.posted c (by simp [hposted, hc']), h.handled,
      fun hs => ((h.sending (by simpa using hs)).doWrite hc).1, fun op hop => ?_⟩
    obtain ⟨hok, rest', hrest, hsent⟩ := h.pending op hop
    refine ⟨hok, rest', hrest, fun hs => ?_⟩
    have hs' : p.sender.isOpen = true := by simpa using hs
    rw [hsent hs', ((h.sending hs').doWrite hc).2, hposted]
    simp
  case transfer i n =>
    cases (he : i = 0)
    split at hstep <;> [rename_i wop hwop; cases hstep]
    split_ifs at hstep with hcond
    cases hstep
    obtain ⟨hsending, hunsent⟩ := (h.sending hcond.1).transfer hwop n
    refine ⟨h.framed, h.posted, h.handled, fun _ => hsending, fun op hop => ?_⟩
    obtain ⟨hok, rest, hrest, hsent⟩ := h.pending op hop
    refine ⟨hok, _, ?_, fun _ => rfl⟩
    rw [hrest, hsent hcond.1, hunsent]
    simp
  case writeDone i =>
    cases (he : i = 0)
    split at hstep <;> [rename_i wop hwop; cases hstep]
    split_ifs at hstep with hcond
    cases hstep
    by_cases hs : p.sender.isOpen = true
    · have hbuf : wop.buffer = [] := hcond.resolve_right (by simp [hs])
      obtain ⟨hsending, hunsent⟩ := (h.sending hs).writeDone hwop hbuf
      simp only [hbuf, List.isEmpty_nil, Bool.not_true]
      refine ⟨h.framed, h.posted, h.handled, fun _ => hsending, fun op hop => ?_⟩
      obtain ⟨hok, rest, hrest, hsent⟩ := h.pending op hop
      exact ⟨hok, rest, hrest, fun _ => hunsent ▸ hsent hs⟩
    -- a closed sender stays closed
    · have hclosed := SocketBase.handleWrite_isOpen_of_closed
        (s := { p.sender with writes := p.sender.writes.eraseIdx 0 }) (by simpa using hs)
      refine ⟨h.framed, h.posted, h.handled, fun hs' => (ne_true_of_eq_false (hclosed _ _) hs').elim,
        fun op hop => ?_⟩
      obtain ⟨hok, rest, hrest, -⟩ := h.pending op hop
      exact ⟨hok, rest, hrest, fun hs' => (ne_true_of_eq_false (hclosed _ _) hs').elim⟩
  case writeFail i =>
    split at hstep <;> [skip; cases hstep]
    split_ifs at hstep
    cases hstep
    simp only [SocketBase.handleWrite_error]
    refine ⟨h.framed, h.posted, h.handled, fun hs => absurd hs (by simp), fun op hop => ?_⟩
    obtain ⟨hok, rest, hrest, -⟩ := h.pending op hop
    exact ⟨hok, rest, hrest, fun hs => absurd hs (by simp)⟩
  case receive n =>
    split at hstep <;> [rename_i op hop; cases hstep]
    split_ifs at hstep with hcond
    cases hstep
    obtain ⟨hok, rest, hrest, hsent⟩ := h.pending op hop
    refine ⟨h.framed, h.posted, h.handled, h.sending, fun op' hop' => ?_⟩
    obtain rfl := Option.some.inj hop'
    exact ⟨hok.append (by simp; omega), rest, by simp [hrest], hsent⟩
  case readDone =>
    split at hstep <;> [rename_i op hop; cases hstep]
    split_ifs at hstep
    cases hstep
    obtain ⟨hok, rest, hrest, hsent⟩ := h.pending op hop
    by_cases hdone : op.remaining = 0
    · obtain ⟨done, op', hreceiver, hhanded, hok', hpending'⟩ :=
        SocketBase.completeRead_written h.framed h.handled hok hdone
          (by rw [hrest, List.append_assoc])
      simp only [hdone, bne_self_eq_false, hreceiver]
      refine ⟨h.framed, h.posted, hhanded, h.sending, fun op'' hop'' => ?_⟩
      obtain rfl := Option.some.inj hop''
      exact ⟨hok', rest, by simpa using hpending', hsent⟩
    · rw [bne_iff_ne.mpr hdone]
      exact h.closeRead op
  case readFail =>
    split at hstep <;> [rename_i op hop; cases hstep]
    split_ifs at hstep
    cases hstep
    exact h.closeRead op

/-- With the sender open, nothing posted, no write outstanding, nothing on the
wire and the read waiting for bytes, every command written has been handed
over. -/
theorem handled_eq_of_idle (hopen : p.sender.isOpen = true) (hposted : p.posted = [])
    (hw : p.sender.writes = []) (hwire : p.wire = []) {op : ReadOp Callback}
    (hread : p.receiver.read = some op) (hwait : op.remaining ≠ 0) :
    p.receiver.handled = written := by
  obtain ⟨hok, rest, hrest, hsent⟩ := h.pending op hread
  have hunsent : p.sender.unsent = [] := by
    simp [SocketBase.unsent, hw, (h.sending hopen).queue_iff.mpr hw]
  have hnil := pending_eq_nil_of_waiting hok hwait
    (fun c hc => h.framed c (List.mem_of_mem_drop hc))
    (by simpa [hwire, hsent hopen, hunsent, hposted] using hrest)
  exact h.handled.eq_of_length (le_antisymm h.handled.length_le (List.drop_eq_nil_iff.mp hnil))

end Safe

/-- A FIFO pipe with nothing posted, no write outstanding, nothing on the wire
and its read waiting for bytes has handed over every command written. -/
theorem Fifo.handled_eq_of_idle {written : List (RemoteCommand Callback)} {p : Pipe Callback}
    (h : Fifo written p) (hposted : p.posted = []) (hw : p.sender.writes = []) (hwire : p.wire = [])
    {op : ReadOp Callback} (hread : p.receiver.read = some op) (hwait : op.remaining ≠ 0) :
    p.receiver.handled = written :=
  h.safe.handled_eq_of_idle h.sending.isOpen hposted hw hwire hread hwait

/-- When the io_service sends the outstanding writes oldest first and no
operation fails, a pipe is a FIFO channel of commands: after any run writing
well-framed commands, neither socket has closed, the commands the receiving
socket has handed to `HandleReadCommand` are a prefix of those written, byte
for byte, and all of them once nothing is posted, queued, on the wire or half
read. -/
theorem handled_prefix_of_oldestFirst {es : List (PipeEvent Callback)} {p : Pipe Callback}
    (hsched : ∀ e ∈ es, e.OldestFirst) (hfail : ∀ e ∈ es, ¬ e.Fails)
    (hframed : ∀ c ∈ es.flatMap PipeEvent.written, WellFramed c)
    (hrun : connected.run es = some p) :
    p.sender.isOpen = true ∧ p.receiver.isOpen = true ∧
      p.receiver.handled <+: es.flatMap PipeEvent.written ∧
      (p.posted = [] → p.sender.writeCommandQueue = [] → p.wire = [] →
        p.receiver.read = some (.header []) → p.receiver.handled = es.flatMap PipeEvent.written) := by
  have h := fifo_connected.run hsched hfail hframed hrun
  rw [List.nil_append] at h
  exact ⟨h.sending.isOpen, h.receiving, h.handled, fun hposted hqueue hwire hread =>
    h.handled_eq_of_idle hposted (h.sending.queue_iff.mp hqueue) hwire hread
      (by simp [ReadOp.remaining, headerSize])⟩

/-- `payloadCommand` written, its header sent and completed, then its payload,
and both read. -/
def serialRun : List (PipeEvent Unit) :=
  [.write payloadCommand, .doWrite, .transfer 0 16, .writeDone 0, .transfer 0 16, .writeDone 0,
    .receive 16, .readDone, .receive 16, .readDone]

theorem handled_prefix_of_oldestFirst_serial :
    (∀ e ∈ serialRun, e.OldestFirst) ∧ (∀ e ∈ serialRun, ¬ e.Fails) ∧
      (∀ c ∈ serialRun.flatMap PipeEvent.written, WellFramed c) ∧
      ∃ p, (connected : Pipe Unit).run serialRun = some p ∧
        (p.sender.isOpen = true ∧ p.receiver.isOpen = true ∧
          p.receiver.handled <+: serialRun.flatMap PipeEvent.written ∧
          (p.posted = [] → p.sender.writeCommandQueue = [] → p.wire = [] →
            p.receiver.read = some (.header []) →
              p.receiver.handled = serialRun.flatMap PipeEvent.written)) :=
  ⟨by decide, by decide, by decide, _, rfl,
    handled_prefix_of_oldestFirst (by decide) (by decide) (by decide) rfl⟩

end Pipe

end Lldebug.Net
