import Lldebug.Net.SocketBase

/-!
# One direction of a connection

A `Pipe` is everything between `SocketBase::Write` on one end and
`m_engine->HandleReadCommand` on the other: the `doWrite` handlers the sender's
io_service has still to run, the sending socket, the bytes TCP has accepted and
not yet delivered, and the receiving socket.

Each `PipeEvent` is one thing boost::asio may do next.  An outstanding
`async_write` moves any positive number of its bytes at a time, and several
may be outstanding at once; an `async_read` takes any positive number of the
bytes that have arrived.  An operation completes once it has moved all its
bytes, or with an error once its socket is closed.  On an open socket an
operation may also fail at any time, when the peer closes its end or resets
the connection; its handler then runs with the error.
-/

namespace Lldebug.Net

structure Pipe (Callback : Type) where
  /-- `doWrite` handlers posted by `SocketBase::Write` and not yet run. -/
  posted : List (RemoteCommand Callback)
  sender : SocketBase Callback
  /-- Bytes the sender's socket has sent and the receiver's has not yet read. -/
  wire : List Byte
  receiver : SocketBase Callback
  deriving DecidableEq, Repr

inductive PipeEvent (Callback : Type)
  /-- `SocketBase::Write` posts `doWrite` for the command. -/
  | write (command : RemoteCommand Callback)
  /-- The sender's io_service runs the oldest posted `doWrite`. -/
  | doWrite
  /-- The outstanding `async_write` at position `op` sends its next `count` bytes. -/
  | transfer (op count : Nat)
  /-- The outstanding `async_write` at position `op` completes: `handleWrite` runs. -/
  | writeDone (op : Nat)
  /-- The receiver's outstanding `async_read` takes `count` bytes off the wire. -/
  | receive (count : Nat)
  /-- The receiver's outstanding `async_read` completes. -/
  | readDone
  /-- The receiver's outstanding `async_read` fails on its open socket. -/
  | readFail
  /-- The outstanding `async_write` at position `op` fails on the open sending
  socket. -/
  | writeFail (op : Nat)
  deriving DecidableEq, Repr

/-- The event is an operation failing on an open socket. -/
def PipeEvent.Fails {Callback : Type} : PipeEvent Callback → Prop
  | .readFail | .writeFail _ => True
  | _ => False

instance {Callback : Type} : (e : PipeEvent Callback) → Decidable e.Fails
  | .readFail | .writeFail _ => isTrue trivial
  | .write _ | .doWrite | .transfer _ _ | .writeDone _ | .receive _ | .readDone => isFalse id

namespace Pipe

variable {Callback : Type}

/-- Both ends just after `connected()`: each socket waits for a header. -/
def connected : Pipe Callback :=
  ⟨[], SocketBase.opened.connected, [], SocketBase.opened.connected⟩

/-- One event, or `none` when the event cannot happen in `p`. -/
def step (p : Pipe Callback) : PipeEvent Callback → Option (Pipe Callback)
  | .write command => some { p with posted := p.posted ++ [command] }
  | .doWrite =>
    match p.posted with
    | command :: rest => some { p with posted := rest, sender := p.sender.doWrite command }
    | [] => none
  | .transfer i n =>
    match p.sender.writes[i]? with
    | some op =>
      if p.sender.isOpen ∧ 0 < n ∧ n ≤ op.buffer.length then
        some { p with
          sender := { p.sender with
            writes := p.sender.writes.set i { op with buffer := op.buffer.drop n } }
          wire := p.wire ++ op.buffer.take n }
      else none
    | none => none
  | .writeDone i =>
    match p.sender.writes[i]? with
    | some op =>
      if op.buffer = [] ∨ p.sender.isOpen = false then
        some { p with
          sender := ({ p.sender with writes := p.sender.writes.eraseIdx i }).handleWrite
            op.deleteCommand !op.buffer.isEmpty }
      else none
    | none => none
  | .receive n =>
    match p.receiver.read with
    | some op =>
      if p.receiver.isOpen ∧ 0 < n ∧ n ≤ op.remaining ∧ n ≤ p.wire.length then
        some { p with
          receiver := { p.receiver with read := some (op.append (p.wire.take n)) }
          wire := p.wire.drop n }
      else none
    | none => none
  | .readDone =>
    match p.receiver.read with
    | some op =>
      if op.remaining = 0 ∨ p.receiver.isOpen = false then
        some { p with
          receiver := ({ p.receiver with read := none }).completeRead (op.remaining != 0) op }
      else none
    | none => none
  | .readFail =>
    match p.receiver.read with
    | some op =>
      if p.receiver.isOpen then
        some { p with receiver := ({ p.receiver with read := none }).completeRead true op }
      else none
    | none => none
  | .writeFail i =>
    match p.sender.writes[i]? with
    | some op =>
      if p.sender.isOpen then
        some { p with
          sender := ({ p.sender with writes := p.sender.writes.eraseIdx i }).handleWrite
            op.deleteCommand true }
      else none
    | none => none

/-- A run of events, failing at the first one that cannot happen. -/
def run (p : Pipe Callback) : List (PipeEvent Callback) → Option (Pipe Callback)
  | [] => some p
  | e :: es => (p.step e).bind (run · es)

/-- `SocketBase::Write` of each of `commands` in turn: each posts its `doWrite`. -/
def post (p : Pipe Callback) (commands : List (RemoteCommand Callback)) : Pipe Callback :=
  { p with posted := p.posted ++ commands }

@[simp] theorem post_receiver (p : Pipe Callback) (commands : List (RemoteCommand Callback)) :
    (p.post commands).receiver = p.receiver := rfl

/-- What a step does to the receiving socket: nothing, take bytes off the wire
into its read while open, complete its read, with an error when bytes are
missing, or fail its read while open, which closes it. -/
theorem step_receiver {p p' : Pipe Callback} {e : PipeEvent Callback} (h : p.step e = some p') :
    p'.receiver = p.receiver ∨
      (∃ op bytes, p.receiver.read = some op ∧ p.receiver.isOpen = true ∧
        p'.receiver = { p.receiver with read := some (op.append bytes) }) ∨
      (∃ op, p.receiver.read = some op ∧ (op.remaining = 0 ∨ p.receiver.isOpen = false) ∧
        p'.receiver = ({ p.receiver with read := none } : SocketBase Callback).completeRead
          (op.remaining != 0) op) ∨
      ∃ op, p.receiver.read = some op ∧ p.receiver.isOpen = true ∧
        p'.receiver = ({ p.receiver with read := none } : SocketBase Callback).doClose := by
  cases e <;> simp only [step] at h
  case receive n =>
    split at h <;> [rename_i op hop; cases h]
    split_ifs at h with hcond
    cases h
    exact .inr (.inl ⟨op, _, hop, hcond.1, rfl⟩)
  case readDone =>
    split at h <;> [rename_i op hop; cases h]
    split_ifs at h with hcond
    cases h
    exact .inr (.inr (.inl ⟨op, hop, hcond, rfl⟩))
  case readFail =>
    split at h <;> [rename_i op hop; cases h]
    split_ifs at h with hopen
    cases h
    exact .inr (.inr (.inr ⟨op, hop, hopen, SocketBase.completeRead_true _ _⟩))
  case write => cases h; exact .inl rfl
  case doWrite => split at h <;> cases h; exact .inl rfl
  case transfer | writeDone | writeFail =>
    split at h <;> [split_ifs at h; cases h]; cases h; exact .inl rfl

/-- A step hands the receiving engine at most one command. -/
theorem step_handled {p p' : Pipe Callback} {e : PipeEvent Callback} (h : p.step e = some p') :
    p'.receiver.handled = p.receiver.handled ∨
      ∃ command, p'.receiver.handled = p.receiver.handled ++ [command] := by
  rcases step_receiver h with hsame | ⟨op, bytes, -, -, hrecv⟩ | ⟨op, -, -, hrecv⟩ |
    ⟨op, -, -, hrecv⟩
  · exact .inl (by rw [hsame])
  · exact .inl (by rw [hrecv])
  · rw [hrecv]
    exact SocketBase.completeRead_handled _ _ _
  · exact .inl (by rw [hrecv]; rfl)

/-- A failure hands the receiving engine nothing. -/
theorem step_handled_of_fails {p p' : Pipe Callback} {e : PipeEvent Callback} (hfail : e.Fails)
    (h : p.step e = some p') : p'.receiver.handled = p.receiver.handled := by
  cases e <;> simp only [PipeEvent.Fails] at hfail <;> simp only [step] at h <;>
    split at h <;> (try split_ifs at h) <;> cases h <;> simp

/-- A step moves the sender's writes and the receiver's read: the sender's read
loop and the receiver's write queue stay as they are. -/
theorem step_frame {p p' : Pipe Callback} {e : PipeEvent Callback} (h : p.step e = some p') :
    p'.sender.read = p.sender.read ∧ p'.sender.handled = p.sender.handled ∧
      p'.receiver.writeCommandQueue = p.receiver.writeCommandQueue ∧
      p'.receiver.writes = p.receiver.writes := by
  cases e <;> simp only [step] at h
  case write => cases h; simp
  all_goals
    split at h <;> [skip; cases h]
    try split_ifs at h
    cases h
    simp

/-! ## Header and payload writes interleave -/

/-- A `CHANGED_STATE` command with `ctxId` 0, `commandId` 1 and sixteen zero bytes
of payload, its `dataSize` matching. -/
def payloadCommand : RemoteCommand Unit :=
  ⟨⟨RemoteCommandType.changedState.toWord, 0, 1, 16⟩, List.replicate 16 0, none⟩

/-- The header write sends one byte, the payload write all of its bytes, then
the header write the rest; the receiver reads a header. -/
def interleavedRun : List (PipeEvent Unit) :=
  [.write payloadCommand, .doWrite, .transfer 0 1, .transfer 1 16, .transfer 0 15,
    .receive 16, .readDone]

theorem asyncWrite_misframes_payload_command :
    ∃ p, (connected : Pipe Unit).run interleavedRun = some p ∧
      p.sender.isOpen ∧ p.receiver.isOpen ∧ ¬ p.receiver.handled <+: [payloadCommand] :=
  ⟨_, rfl, by decide⟩

/-- `doWrite` of `payloadCommand` leaves two `async_write`s outstanding.  The
header's first `write_some` sends one byte; the payload's, started before the
header's second, sends all sixteen and the payload write completes.
`handleWrite(true)` then pops the command while its header has fifteen bytes
still to send, and the queue is empty with a write in flight. -/
theorem doWrite_pops_before_header_written :
    ∃ p q, (connected : Pipe Unit).run [.write payloadCommand, .doWrite] = some p ∧
      p.sender.writes.length = 2 ∧
      p.run [.transfer 0 1, .transfer 1 16, .writeDone 1] = some q ∧
      q.sender.writeCommandQueue = [] ∧ q.sender.writes.map (·.buffer.length) = [15] :=
  ⟨_, _, rfl, rfl, rfl, rfl, rfl⟩

/-! ## The close signal still reaches the engine -/

/-- `END_CONNECTION` from an engine whose `ctxId` is back at `-1`, without
payload. -/
def closeSignal : RemoteCommand Unit :=
  ⟨⟨RemoteCommandType.endConnection.toWord, -1, 3, 0⟩, [], none⟩

theorem handleReadCommand_hands_on_close_signal :
    ∃ p, (connected : Pipe Unit).run
        [.write closeSignal, .doWrite, .transfer 0 16, .writeDone 0, .receive 16, .readDone] =
          some p ∧
      p.receiver.isOpen = false ∧ p.receiver.handled = [closeSignal] :=
  ⟨_, rfl, rfl, rfl⟩

/-! ## A closed receiver hands nothing more -/

/-- A closed receiving socket's outstanding read waits for bytes that can no
longer come. -/
def ClosedReadWaits (p : Pipe Callback) : Prop :=
  p.receiver.isOpen = false → ∀ op, p.receiver.read = some op → op.remaining ≠ 0

theorem closedReadWaits_connected : (connected : Pipe Callback).ClosedReadWaits := by
  simp [ClosedReadWaits, connected, SocketBase.connected, SocketBase.opened,
    SocketBase.asyncReadCommand]

namespace ClosedReadWaits

variable {p p' : Pipe Callback} (h : p.ClosedReadWaits)
include h

/-- A read completing on an open socket closes it, if at all, with a read
outstanding; one completing or failing with an error closes it with none. -/
theorem step {e : PipeEvent Callback} (hstep : p.step e = some p') : p'.ClosedReadWaits := by
  rcases step_receiver hstep with hsame | ⟨op, bytes, -, hopen, hrecv⟩ | ⟨op, hop, -, hrecv⟩ |
    ⟨op, -, -, hrecv⟩
  · unfold ClosedReadWaits; rw [hsame]; exact h
  · intro hclosed; simp [hrecv, hopen] at hclosed
  · intro hclosed op' hread
    rw [hrecv] at hclosed hread
    by_cases hzero : op.remaining = 0
    · have hopen : p.receiver.isOpen = true := by
        by_contra hne
        exact h (by simpa using hne) op hop hzero
      simp only [hzero, bne_self_eq_false] at hclosed hread
      exact @SocketBase.completeRead_false_waits _ { p.receiver with read := none } hopen op hclosed _
        hread
    · rw [bne_iff_ne.mpr hzero, SocketBase.completeRead_true] at hread
      cases hread
  · intro _ op' hread
    rw [hrecv] at hread
    cases hread

/-- Once closed, the receiving socket stays closed and hands the engine nothing. -/
theorem step_of_closed (hclosed : p.receiver.isOpen = false) {e : PipeEvent Callback}
    (hstep : p.step e = some p') :
    p'.receiver.isOpen = false ∧ p'.receiver.handled = p.receiver.handled := by
  rcases step_receiver hstep with hsame | ⟨op, bytes, -, hopen, -⟩ | ⟨op, hop, -, hrecv⟩ |
    ⟨op, -, hopen, -⟩
  · rw [hsame]; exact ⟨hclosed, rfl⟩
  · simp [hclosed] at hopen
  · rw [hrecv, bne_iff_ne.mpr (h hclosed op hop), SocketBase.completeRead_true]
    exact ⟨rfl, rfl⟩
  · simp [hclosed] at hopen

end ClosedReadWaits

theorem ClosedReadWaits.run {p p' : Pipe Callback} (h : p.ClosedReadWaits)
    {es : List (PipeEvent Callback)} (hrun : p.run es = some p') : p'.ClosedReadWaits := by
  induction es generalizing p with
  | nil => cases hrun; exact h
  | cons e es ih =>
    obtain ⟨q, hq, hrest⟩ := Option.bind_eq_some.mp hrun
    exact ih (h.step hq) hrest

theorem ClosedReadWaits.run_of_closed {p p' : Pipe Callback} (h : p.ClosedReadWaits)
    (hclosed : p.receiver.isOpen = false) {es : List (PipeEvent Callback)}
    (hrun : p.run es = some p') :
    p'.receiver.isOpen = false ∧ p'.receiver.handled = p.receiver.handled := by
  induction es generalizing p with
  | nil => cases hrun; exact ⟨hclosed, rfl⟩
  | cons e es ih =>
    obtain ⟨q, hq, hrest⟩ := Option.bind_eq_some.mp hrun
    obtain ⟨hqclosed, hqhandled⟩ := h.step_of_closed hclosed hq
    exact hqhandled ▸ ih (h.step hq) hqclosed hrest

/-- Once a run has closed the receiving socket, on an error or on a header with
a negative `ctxId`, the socket stays closed and hands the engine no further
command, however the io_service goes on. -/
theorem closed_receiver_hands_nothing_more {es es' : List (PipeEvent Callback)}
    {p p' : Pipe Callback} (hrun : connected.run es = some p) (hclosed : p.receiver.isOpen = false)
    (hrun' : p.run es' = some p') :
    p'.receiver.isOpen = false ∧ p'.receiver.handled = p.receiver.handled :=
  (closedReadWaits_connected.run hrun).run_of_closed hclosed hrun'

/-- The close signal is handed on, then `payloadCommand` is written and its
header sent; the read that would take it fails on the closed socket. -/
def closeThenPayload : List (PipeEvent Unit) × List (PipeEvent Unit) :=
  ([.write closeSignal, .doWrite, .transfer 0 16, .writeDone 0, .receive 16, .readDone],
    [.write payloadCommand, .doWrite, .transfer 0 16, .readDone])

theorem closed_receiver_hands_nothing_more_after_close_signal :
    ∃ p p', (connected : Pipe Unit).run closeThenPayload.1 = some p ∧
      p.receiver.isOpen = false ∧ p.run closeThenPayload.2 = some p' ∧
      (p'.receiver.isOpen = false ∧ p'.receiver.handled = p.receiver.handled) :=
  ⟨_, _, rfl, rfl, rfl,
    @closed_receiver_hands_nothing_more _ closeThenPayload.1 closeThenPayload.2 _ _ rfl rfl rfl⟩

/-- A read failing on the open receiver closes it too, and the commands written
after it are never handed on. -/
example : ((connected : Pipe Unit).run [.readFail, .write closeSignal, .doWrite, .transfer 0 16,
    .writeDone 0]).map (fun p => (p.receiver.isOpen, p.receiver.handled, p.wire.length)) =
      some (false, [], 16) := by
  decide

end Pipe

end Lldebug.Net
