import Lldebug.Net.Command

/-!
# `SocketBase`: the framed read loop and the write queue

Every handler of `SocketBase` runs on the thread of the io_service, one at a
time, so each is one function on the socket's state.  What boost::asio does
between them (moving bytes of an outstanding `async_write` onto the wire,
filling the buffer of the outstanding `async_read`, completing an operation) is
left to the events of `Lldebug.Net.Pipe`.

An outstanding operation keeps the bytes it has still to move.  The source
hands `async_write` pointers into `m_writeCommandQueue.front()`; the model
copies those bytes when the operation starts.
-/

namespace Lldebug.Net

/-- An outstanding `async_write`: the bytes it has still to send, and the
`deleteCommand` flag bound into its `handleWrite` completion. -/
structure WriteOp where
  buffer : List Byte
  deleteCommand : Bool
  deriving DecidableEq, Repr

/-- The outstanding `async_read` of the read loop, with the bytes read so far. -/
inductive ReadOp (Callback : Type)
  /-- `asyncReadCommand`: the `sizeof(RemoteCommandHeader)` header bytes. -/
  | header (got : List Byte)
  /-- `handleReadCommand`: the `dataSize` payload bytes of `command`. -/
  | data (command : RemoteCommand Callback) (got : List Byte)
  deriving DecidableEq, Repr

namespace ReadOp

variable {Callback : Type}

/-- How many bytes the read still waits for. -/
def remaining : ReadOp Callback → Nat
  | header got => headerSize - got.length
  | data command got => command.header.dataSize.toNat - got.length

/-- The read after `bytes` more have arrived. -/
def append (bytes : List Byte) : ReadOp Callback → ReadOp Callback
  | header got => header (got ++ bytes)
  | data command got => data command (got ++ bytes)

end ReadOp

structure SocketBase (Callback : Type) where
  /-- `m_socket.is_open()`. -/
  isOpen : Bool
  /-- `m_isConnected`. -/
  isConnected : Bool
  /-- `m_writeCommandQueue`. -/
  writeCommandQueue : List (RemoteCommand Callback)
  /-- The outstanding `async_write` operations, oldest first. -/
  writes : List WriteOp
  /-- The outstanding `async_read`, if any. -/
  read : Option (ReadOp Callback)
  /-- Every command passed to `m_engine->HandleReadCommand`, in order. -/
  handled : List (RemoteCommand Callback)
  deriving DecidableEq, Repr

namespace SocketBase

variable {Callback : Type}

/-- A socket that has just been accepted or connected: open, with nothing
outstanding and `m_isConnected` still false. -/
def opened : SocketBase Callback :=
  ⟨true, false, [], [], none, []⟩

/-- `doClose`.  Outstanding operations stay listed: on a closed socket they can
only complete with an error. -/
def doClose (s : SocketBase Callback) : SocketBase Callback :=
  { s with isOpen := false, isConnected := false }

@[simp] theorem doClose_isOpen (s : SocketBase Callback) : s.doClose.isOpen = false := rfl

@[simp] theorem doClose_writeCommandQueue (s : SocketBase Callback) :
    s.doClose.writeCommandQueue = s.writeCommandQueue := rfl

@[simp] theorem doClose_writes (s : SocketBase Callback) : s.doClose.writes = s.writes := rfl

@[simp] theorem doClose_read (s : SocketBase Callback) : s.doClose.read = s.read := rfl

@[simp] theorem doClose_handled (s : SocketBase Callback) : s.doClose.handled = s.handled := rfl

/-! ## Write side -/

/-- `asyncWrite`: a command without payload is one `async_write`, of its
header; a command with a payload is two, the header's and the payload's, both
started at once. -/
def asyncWrite (s : SocketBase Callback) (command : RemoteCommand Callback) :
    SocketBase Callback :=
  if command.header.dataSize = 0 then
    { s with writes := s.writes ++ [⟨encodeHeader command.header, true⟩] }
  else
    { s with writes := s.writes ++
        [⟨encodeHeader command.header, false⟩,
          ⟨command.data.take command.header.dataSize.toNat, true⟩] }

/-- `asyncWrite(m_writeCommandQueue.front())`. -/
def writeFront (s : SocketBase Callback) : SocketBase Callback :=
  match s.writeCommandQueue with
  | command :: _ => s.asyncWrite command
  | [] => s

/-- `doWrite`: queue the command, and start writing it if nothing was queued. -/
def doWrite (s : SocketBase Callback) (command : RemoteCommand Callback) :
    SocketBase Callback :=
  let isProgress := !s.writeCommandQueue.isEmpty
  let s := { s with writeCommandQueue := s.writeCommandQueue ++ [command] }
  if isProgress then s else s.writeFront

/-- `handleWrite(deleteCommand, error)`: the completion of one `async_write`. -/
def handleWrite (s : SocketBase Callback) (deleteCommand error : Bool) :
    SocketBase Callback :=
  if error then s.doClose
  else if deleteCommand then
    let s := { s with writeCommandQueue := s.writeCommandQueue.tail }
    if !s.writeCommandQueue.isEmpty then s.writeFront else s
  else s

section WriteEffects

variable (s : SocketBase Callback) (command : RemoteCommand Callback)

theorem doWrite_of_eq_nil (hq : s.writeCommandQueue = []) :
    s.doWrite command = { s with writeCommandQueue := [command] }.asyncWrite command := by
  simp [doWrite, hq, writeFront]

theorem doWrite_of_ne_nil (hq : s.writeCommandQueue ≠ []) :
    s.doWrite command = { s with writeCommandQueue := s.writeCommandQueue ++ [command] } := by
  simp [doWrite, List.isEmpty_iff, hq]

/-- The completion of a command's last write pops it and writes the next one. -/
theorem handleWrite_true_false :
    s.handleWrite true false = { s with writeCommandQueue := s.writeCommandQueue.tail }.writeFront := by
  unfold handleWrite writeFront
  split <;> simp_all

theorem handleWrite_false_false : s.handleWrite false false = s := rfl

/-- A write completing with an error closes the socket. -/
@[simp] theorem handleWrite_error (deleteCommand : Bool) :
    s.handleWrite deleteCommand true = s.doClose := rfl

/-! The write side leaves the read loop alone, and opens no socket. -/

@[simp] theorem asyncWrite_isOpen : (s.asyncWrite command).isOpen = s.isOpen := by
  unfold asyncWrite; split <;> rfl

@[simp] theorem writeFront_isOpen : s.writeFront.isOpen = s.isOpen := by
  unfold writeFront; split <;> simp

@[simp] theorem doWrite_isOpen : (s.doWrite command).isOpen = s.isOpen := by
  simp only [doWrite]; split <;> simp

/-- A write completing without error leaves the socket as open as it was. -/
@[simp] theorem handleWrite_false_isOpen (deleteCommand : Bool) :
    (s.handleWrite deleteCommand false).isOpen = s.isOpen := by
  cases deleteCommand
  · rfl
  · rw [handleWrite_true_false, writeFront_isOpen]

/-- A completion never opens a closed socket. -/
theorem handleWrite_isOpen_of_closed (h : s.isOpen = false) (deleteCommand error : Bool) :
    (s.handleWrite deleteCommand error).isOpen = false := by
  cases error
  · simpa using h
  · rfl

@[simp] theorem asyncWrite_read : (s.asyncWrite command).read = s.read := by
  unfold asyncWrite; split <;> rfl

@[simp] theorem asyncWrite_handled : (s.asyncWrite command).handled = s.handled := by
  unfold asyncWrite; split <;> rfl

@[simp] theorem writeFront_read : s.writeFront.read = s.read := by
  unfold writeFront; split <;> simp

@[simp] theorem writeFront_handled : s.writeFront.handled = s.handled := by
  unfold writeFront; split <;> simp

@[simp] theorem doWrite_read : (s.doWrite command).read = s.read := by
  simp only [doWrite]; split <;> simp

@[simp] theorem doWrite_handled : (s.doWrite command).handled = s.handled := by
  simp only [doWrite]; split <;> simp

@[simp] theorem handleWrite_read (deleteCommand error : Bool) :
    (s.handleWrite deleteCommand error).read = s.read := by
  simp only [handleWrite]; split_ifs <;> simp [doClose]

@[simp] theorem handleWrite_handled (deleteCommand error : Bool) :
    (s.handleWrite deleteCommand error).handled = s.handled := by
  simp only [handleWrite]; split_ifs <;> simp [doClose]

end WriteEffects

/-! ## Read side -/

/-- `asyncReadCommand`: a fresh command, and an `async_read` of its header. -/
def asyncReadCommand (s : SocketBase Callback) : SocketBase Callback :=
  { s with read := some (.header []) }

/-- `connected`: the first call starts the read loop. -/
def connected (s : SocketBase Callback) : SocketBase Callback :=
  if s.isConnected then s else { s with isConnected := true }.asyncReadCommand

/-- `handleReadData(command, error)`: hand the command to the engine and read
the next header. -/
def handleReadData (s : SocketBase Callback) (command : RemoteCommand Callback)
    (error : Bool) : SocketBase Callback :=
  if error then s.doClose
  else { s with handled := s.handled ++ [command] }.asyncReadCommand

/-- `handleReadCommand(command, error)`, the header already decoded.  A negative
`ctxId` closes the socket and the handler goes on: a payload is still asked for,
and a command without payload still reaches `handleReadData`. -/
def handleReadCommand (s : SocketBase Callback) (command : RemoteCommand Callback)
    (error : Bool) : SocketBase Callback :=
  if error then s.doClose
  else
    let s := if command.header.ctxId.toInt < 0 then s.doClose else s
    if 0 < command.header.dataSize then { s with read := some (.data command []) }
    else s.handleReadData command false

section ReadEffects

variable (s : SocketBase Callback) (command : RemoteCommand Callback)

/-- A header with a payload, and a `ctxId` that is not negative, starts the
payload read. -/
theorem handleReadCommand_of_pos (hctx : ¬ command.header.ctxId.toInt < 0)
    (hpos : 0 < command.header.dataSize) :
    s.handleReadCommand command false = { s with read := some (.data command []) } := by
  simp only [handleReadCommand, Bool.false_eq_true, ↓reduceIte, hctx, hpos]

/-- A header without payload, and a `ctxId` that is not negative, is handed on at
once. -/
theorem handleReadCommand_of_not_pos (hctx : ¬ command.header.ctxId.toInt < 0)
    (hpos : ¬ 0 < command.header.dataSize) :
    s.handleReadCommand command false = s.handleReadData command false := by
  simp only [handleReadCommand, Bool.false_eq_true, ↓reduceIte, hctx, hpos]

theorem handleReadData_false :
    s.handleReadData command false =
      { s with handled := s.handled ++ [command], read := some (.header []) } := rfl

end ReadEffects

/-- The completion handler of a read: `handleReadCommand` for a header,
`handleReadData` for a payload. -/
def completeRead (s : SocketBase Callback) (error : Bool) :
    ReadOp Callback → SocketBase Callback
  | .header got => s.handleReadCommand ⟨decodeHeader got, [], none⟩ error
  | .data command got => s.handleReadData { command with data := got } error

/-- The read loop leaves the write queue alone. -/
@[simp] theorem completeRead_writes (s : SocketBase Callback) (error : Bool)
    (op : ReadOp Callback) :
    (s.completeRead error op).writes = s.writes := by
  cases op <;> simp only [completeRead, handleReadCommand, handleReadData] <;> split_ifs <;> rfl

@[simp] theorem completeRead_writeCommandQueue (s : SocketBase Callback) (error : Bool)
    (op : ReadOp Callback) :
    (s.completeRead error op).writeCommandQueue = s.writeCommandQueue := by
  cases op <;> simp only [completeRead, handleReadCommand, handleReadData] <;> split_ifs <;> rfl

/-- A read completion hands the engine at most one command. -/
theorem completeRead_handled (s : SocketBase Callback) (error : Bool) (op : ReadOp Callback) :
    (s.completeRead error op).handled = s.handled ∨
      ∃ command, (s.completeRead error op).handled = s.handled ++ [command] := by
  cases op with
  | header got =>
    simp only [completeRead, handleReadCommand]
    split_ifs <;> simp [doClose, handleReadData, asyncReadCommand]
  | data command got =>
    cases error <;> simp [completeRead, handleReadData, doClose, asyncReadCommand]

/-- A read completing with an error only closes the socket. -/
@[simp] theorem completeRead_true (s : SocketBase Callback) (op : ReadOp Callback) :
    s.completeRead true op = s.doClose := by
  cases op <;> rfl

/-- A read completion never opens a closed socket. -/
theorem isOpen_of_completeRead {s : SocketBase Callback} {error : Bool} {op : ReadOp Callback}
    (h : (s.completeRead error op).isOpen = true) : s.isOpen = true := by
  cases error
  · cases op <;> simp only [completeRead, handleReadCommand, handleReadData] at h <;>
      split_ifs at h <;> simp_all [doClose, asyncReadCommand]
  · simp [doClose] at h

/-- A read completing without error on an open socket leaves it open, or
closes it with a read outstanding that waits for bytes. -/
theorem completeRead_false_waits {s : SocketBase Callback} (hopen : s.isOpen = true)
    (op : ReadOp Callback) (hclosed : (s.completeRead false op).isOpen = false)
    {op' : ReadOp Callback} (hread : (s.completeRead false op).read = some op') :
    op'.remaining ≠ 0 := by
  cases op with
  | header got =>
    simp only [completeRead, handleReadCommand, Bool.false_eq_true, if_false] at hclosed hread
    by_cases hctx : (decodeHeader got).ctxId.toInt < 0
    · by_cases hpos : 0 < (decodeHeader got).dataSize
      · simp only [hctx, hpos, if_true, Option.some.injEq] at hread
        subst hread
        simpa [ReadOp.remaining, BitVec.lt_def, Nat.pos_iff_ne_zero] using hpos
      · simp only [hctx, hpos, if_true, if_false, handleReadData_false, Option.some.injEq] at hread
        subst hread
        simp [ReadOp.remaining, headerSize]
    · split_ifs at hclosed <;> simp [handleReadData, asyncReadCommand, hopen] at hclosed
  | data command got => simp [completeRead, handleReadData, asyncReadCommand, hopen] at hclosed

end SocketBase

end Lldebug.Net
