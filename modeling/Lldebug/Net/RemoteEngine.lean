import Lldebug.Net.Command

/-!
# `RemoteEngine`: command ids, pending responses and the context id

The state `RemoteEngine` keeps under `m_mutex`, and its operations.  Each
operation holds the mutex for its whole run, so each is one function here; the
operations that write return the command they hand to `m_socket->Write`.

`m_ctxId` and the counter are C `int`s and `commandId` a 32-bit field, so all
three are `Word`s; `m_ctxId < 0` reads the word as signed.
-/

namespace Lldebug.Net

/-- `WaitResponseCommand`: a request written with a continuation. -/
structure WaitResponseCommand (Callback : Type) where
  header : RemoteCommandHeader
  response : Callback
  deriving DecidableEq, Repr

structure RemoteEngine (Callback : Type) where
  /-- `m_commandIdCounter`. -/
  commandIdCounter : Word
  /-- `m_ctxId`. -/
  ctxId : Word
  /-- `m_waitResponseCommandList`. -/
  waitResponseCommandList : List (WaitResponseCommand Callback)
  /-- `m_readCommandQueue`. -/
  readCommandQueue : List (RemoteCommand Callback)
  /-- `m_socket != NULL`. -/
  hasSocket : Bool
  deriving DecidableEq, Repr

namespace RemoteEngine

variable {Callback : Type}

/-- The constructor: `m_commandIdCounter(0)`, `m_ctxId(-1)`. -/
def init : RemoteEngine Callback :=
  ⟨0, -1, [], [], false⟩

/-- `InitCommandHeader(type, dataSize, commandId)`: a zero `commandId` takes the
counter's value, and the counter advances by two. -/
def initCommandHeader (e : RemoteEngine Callback) (type : RemoteCommandType)
    (dataSize : Nat) (commandId : Word) : RemoteEngine Callback × RemoteCommandHeader :=
  if commandId = 0 then
    ({ e with commandIdCounter := e.commandIdCounter + 2 },
      ⟨type.toWord, e.ctxId, e.commandIdCounter, BitVec.ofNat 32 dataSize⟩)
  else (e, ⟨type.toWord, e.ctxId, commandId, BitVec.ofNat 32 dataSize⟩)

/-- `WriteCommand(type, data)`. -/
def writeCommand (e : RemoteEngine Callback) (type : RemoteCommandType)
    (data : List Byte) : RemoteEngine Callback × RemoteCommand Callback :=
  let init := e.initCommandHeader type data.length 0
  (init.1, ⟨init.2, data, none⟩)

/-- `WriteCommand(type, data, response)`: the request also waits in
`m_waitResponseCommandList`. -/
def writeCommandWithResponse (e : RemoteEngine Callback) (type : RemoteCommandType)
    (data : List Byte) (response : Callback) :
    RemoteEngine Callback × RemoteCommand Callback :=
  let init := e.initCommandHeader type data.length 0
  ({ init.1 with
      waitResponseCommandList := init.1.waitResponseCommandList ++ [⟨init.2, response⟩] },
    ⟨init.2, data, none⟩)

/-- `WriteResponse(readCommand, type, data)`: the header carries the
`commandId` of the command answered. -/
def writeResponse (e : RemoteEngine Callback) (readCommand : RemoteCommand Callback)
    (type : RemoteCommandType) (data : List Byte) :
    RemoteEngine Callback × RemoteCommand Callback :=
  let init := e.initCommandHeader type data.length readCommand.header.commandId
  (init.1, ⟨init.2, data, none⟩)

/-- `DoStartConnection(ctxId)`: `START_CONNECTION` carrying the given `ctxId`. -/
def doStartConnection (e : RemoteEngine Callback) (ctxId : Word) :
    RemoteEngine Callback × RemoteCommand Callback :=
  let init := e.initCommandHeader .startConnection 0 0
  (init.1, ⟨{ init.2 with ctxId := ctxId }, [], none⟩)

/-- `DoEndConnection`. -/
def doEndConnection (e : RemoteEngine Callback) :
    RemoteEngine Callback × RemoteCommand Callback :=
  e.writeCommand .endConnection []

/-- `SetCtxId(ctxId)`; the `notify_all` wakes a waiting `StartContext` or
`StartFrame`. -/
def setCtxId (e : RemoteEngine Callback) (ctxId : Word) : RemoteEngine Callback :=
  if e.ctxId ≠ ctxId then { e with ctxId := ctxId } else e

/-- The scan of `m_waitResponseCommandList` in `HandleReadCommand`: the first
entry whose `ctxId` and `commandId` match the command's, and the list with that
entry erased. -/
def findResponse (command : RemoteCommand Callback) :
    List (WaitResponseCommand Callback) →
      Option (WaitResponseCommand Callback × List (WaitResponseCommand Callback))
  | [] => none
  | w :: ws =>
    if command.header.ctxId = w.header.ctxId ∧ command.header.commandId = w.header.commandId
    then some (w, ws)
    else (findResponse command ws).map fun found => (found.1, w :: found.2)

/-- The first half of `HandleReadCommand`: a matching request leaves
`m_waitResponseCommandList` and its continuation goes with the command. -/
def attachResponse (e : RemoteEngine Callback) (command : RemoteCommand Callback) :
    RemoteEngine Callback × RemoteCommand Callback :=
  match findResponse command e.waitResponseCommandList with
  | some (w, rest) =>
    ({ e with waitResponseCommandList := rest }, { command with response := some w.response })
  | none => (e, command)

/-- The `switch` of `HandleReadCommand`: `START_CONNECTION` sets `m_ctxId`,
`END_CONNECTION` resets it, and any other command sets it while it is unset. -/
def updateCtxId (e : RemoteEngine Callback) (command : RemoteCommand Callback) :
    RemoteEngine Callback :=
  if command.header.type = RemoteCommandType.startConnection.toWord then
    e.setCtxId command.header.ctxId
  else if command.header.type = RemoteCommandType.endConnection.toWord then
    e.setCtxId (-1)
  else if e.ctxId.toInt < 0 then e.setCtxId command.header.ctxId
  else e

/-- `HandleReadCommand(command)`. -/
def handleReadCommand (e : RemoteEngine Callback) (command : RemoteCommand Callback) :
    RemoteEngine Callback :=
  let attached := e.attachResponse command
  let e := attached.1.updateCtxId attached.2
  { e with readCommandQueue := e.readCommandQueue ++ [attached.2] }

/-- `PopCommand`. -/
def popCommand (e : RemoteEngine Callback) : RemoteEngine Callback :=
  { e with readCommandQueue := e.readCommandQueue.tail }

/-! ## What each operation does to the state -/

section Effects

variable (e : RemoteEngine Callback) (command : RemoteCommand Callback)

@[simp]
theorem initCommandHeader_fst (type : RemoteCommandType) (dataSize : Nat) (commandId : Word) :
    (e.initCommandHeader type dataSize commandId).1 =
      { e with commandIdCounter :=
          if commandId = 0 then e.commandIdCounter + 2 else e.commandIdCounter } := by
  unfold initCommandHeader; split <;> simp_all

@[simp]
theorem initCommandHeader_snd (type : RemoteCommandType) (dataSize : Nat) (commandId : Word) :
    (e.initCommandHeader type dataSize commandId).2 =
      ⟨type.toWord, e.ctxId, if commandId = 0 then e.commandIdCounter else commandId,
        BitVec.ofNat 32 dataSize⟩ := by
  unfold initCommandHeader; split <;> simp_all

@[simp]
theorem setCtxId_eq (ctxId : Word) : e.setCtxId ctxId = { e with ctxId := ctxId } := by
  unfold setCtxId
  split_ifs with h
  · rfl
  · rw [← not_not.mp h]

@[simp]
theorem updateCtxId_commandIdCounter :
    (e.updateCtxId command).commandIdCounter = e.commandIdCounter := by
  unfold updateCtxId; split_ifs <;> simp

@[simp]
theorem updateCtxId_hasSocket : (e.updateCtxId command).hasSocket = e.hasSocket := by
  unfold updateCtxId; split_ifs <;> simp

@[simp]
theorem updateCtxId_waitResponseCommandList :
    (e.updateCtxId command).waitResponseCommandList = e.waitResponseCommandList := by
  unfold updateCtxId; split_ifs <;> simp

/-- The `switch` leaves `m_ctxId` as it was, or takes the command's, or `-1`. -/
theorem updateCtxId_ctxId :
    (e.updateCtxId command).ctxId = e.ctxId ∨ (e.updateCtxId command).ctxId = command.header.ctxId ∨
      (e.updateCtxId command).ctxId = -1 := by
  unfold updateCtxId; split_ifs <;> simp

/-- A `findResponse` hit matches the command and is taken out of the list. -/
theorem findResponse_eq_some {ws : List (WaitResponseCommand Callback)}
    {w : WaitResponseCommand Callback} {rest : List (WaitResponseCommand Callback)}
    (h : findResponse command ws = some (w, rest)) :
    (w :: rest).Perm ws ∧ command.header.ctxId = w.header.ctxId ∧
      command.header.commandId = w.header.commandId := by
  induction ws generalizing rest with
  | nil => cases h
  | cons v vs ih =>
    unfold findResponse at h
    split_ifs at h with hmatch
    · cases h; exact ⟨.refl _, hmatch⟩
    · obtain ⟨⟨w', rest'⟩, hfound, heq⟩ := Option.map_eq_some'.mp h
      obtain ⟨rfl, rfl⟩ := Prod.mk.inj heq
      obtain ⟨hperm, hctx, hid⟩ := ih hfound
      exact ⟨(List.Perm.swap v _ rest').trans (hperm.cons v), hctx, hid⟩

@[simp]
theorem attachResponse_snd_header : (e.attachResponse command).2.header = command.header := by
  unfold attachResponse; split <;> rfl

@[simp]
theorem attachResponse_fst :
    (e.attachResponse command).1 =
      { e with waitResponseCommandList :=
          (((findResponse command e.waitResponseCommandList).map Prod.snd).getD
            e.waitResponseCommandList) } := by
  unfold attachResponse; split <;> simp_all

@[simp]
theorem handleReadCommand_commandIdCounter :
    (e.handleReadCommand command).commandIdCounter = e.commandIdCounter := by
  simp [handleReadCommand]

@[simp]
theorem handleReadCommand_hasSocket :
    (e.handleReadCommand command).hasSocket = e.hasSocket := by
  simp [handleReadCommand]

@[simp]
theorem handleReadCommand_waitResponseCommandList :
    (e.handleReadCommand command).waitResponseCommandList =
      ((findResponse command e.waitResponseCommandList).map Prod.snd).getD
        e.waitResponseCommandList := by
  simp [handleReadCommand]

theorem handleReadCommand_ctxId :
    (e.handleReadCommand command).ctxId = e.ctxId ∨
      (e.handleReadCommand command).ctxId = command.header.ctxId ∨
      (e.handleReadCommand command).ctxId = -1 := by
  simpa [handleReadCommand] using updateCtxId_ctxId (e.attachResponse command).1
    (e.attachResponse command).2

end Effects

end RemoteEngine

end Lldebug.Net
