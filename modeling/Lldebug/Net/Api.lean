import Lldebug.Net.RemoteEngine

/-!
# The calls of the engine's interface

Every call of the interface the debugger frame and the Lua context use
(`ChangedState`, `Eval`, `ResponseVarList`, ...) fills a `RemoteCommandData`
with one of its `Set_...` methods and passes it, with the call's own command
type, to `WriteCommand(type, data)`, to `WriteCommand(type, data, response)` or
to `WriteResponse(command, type, data)`.  The `Set_...` serialisers are not
among the sources, so a call here takes the payload bytes they leave.  The
`StringResponseHandler` and `VarListResponseHandler` a request registers only
decode the reply's payload before calling back, so a request takes its
continuation as it is given.

The three forms are one: `InitCommandHeader` with the call's type, payload
size and `commandId` (zero but for a reply), and a continuation registered for
a request only.  The session model's write events are these three forms.
-/

namespace Lldebug.Net

/-- How a call of the interface writes its command. -/
inductive RemoteCall (Callback : Type)
  /-- `WriteCommand(type, data)`: a notification. -/
  | notify (type : RemoteCommandType) (data : List Byte)
  /-- `WriteCommand(type, data, response)`: a request waiting for its reply. -/
  | request (type : RemoteCommandType) (data : List Byte) (response : Callback)
  /-- `WriteResponse(command, type, data)`: the reply to a command read. -/
  | respond (command : RemoteCommand Callback) (type : RemoteCommandType) (data : List Byte)
  deriving DecidableEq, Repr

namespace RemoteCall

variable {Callback : Type}

def type : RemoteCall Callback → RemoteCommandType
  | notify type _ | request type _ _ | respond _ type _ => type

def data : RemoteCall Callback → List Byte
  | notify _ data | request _ data _ | respond _ _ data => data

/-- The `commandId` the call passes to `InitCommandHeader`: the default 0, or
the id of the command it answers. -/
def commandId : RemoteCall Callback → Word
  | respond command _ _ => command.header.commandId
  | _ => 0

/-- The continuation the call registers. -/
def response? : RemoteCall Callback → Option Callback
  | request _ _ response => some response
  | _ => none

end RemoteCall

namespace RemoteEngine

variable {Callback : Type} (e : RemoteEngine Callback)

/-- A call of the interface on `e`: the engine after it, and the command it
hands to `m_socket->Write`. -/
def call : RemoteCall Callback → RemoteEngine Callback × RemoteCommand Callback
  | .notify type data => e.writeCommand type data
  | .request type data response => e.writeCommandWithResponse type data response
  | .respond command type data => e.writeResponse command type data

/-- Every call is `InitCommandHeader` of its type, payload size and
`commandId`, its payload without continuation, and a continuation registered
under the header written for a request only. -/
theorem call_eq (c : RemoteCall Callback) :
    e.call c =
      let init := e.initCommandHeader c.type c.data.length c.commandId
      ({ init.1 with
          waitResponseCommandList := init.1.waitResponseCommandList ++
            (c.response?.map fun response => ⟨init.2, response⟩).toList },
        ⟨init.2, c.data, none⟩) := by
  cases c <;>
    simp [call, writeCommand, writeCommandWithResponse, writeResponse, RemoteCall.type,
      RemoteCall.data, RemoteCall.commandId, RemoteCall.response?]

/-! ## The members, with their command types -/

/-- `ResponseSuccessed(command)`. -/
def responseSuccessed (command : RemoteCommand Callback) :=
  e.call (.respond command .successed [])

/-- `ResponseFailed(command)`. -/
def responseFailed (command : RemoteCommand Callback) :=
  e.call (.respond command .failed [])

/-- `ChangedState(isBreak)`; `data` is what `Set_ChangedState(isBreak)` leaves. -/
def changedState (data : List Byte) :=
  e.call (.notify .changedState data)

/-- `UpdateSource(key, line, updateSourceCount, response)`. -/
def updateSource (data : List Byte) (response : Callback) :=
  e.call (.request .updateSource data response)

/-- `ForceUpdateSource()`. -/
def forceUpdateSource :=
  e.call (.notify .forceUpdateSource [])

/-- `AddedSource(source)`. -/
def addedSource (data : List Byte) :=
  e.call (.notify .addedSource data)

/-- `SaveSource(key, sources)`. -/
def saveSource (data : List Byte) :=
  e.call (.notify .saveSource data)

/-- `SetUpdateCount(updateCount)`. -/
def setUpdateCount (data : List Byte) :=
  e.call (.notify .setUpdateCount data)

/-- `SetBreakpoint(bp)`. -/
def setBreakpoint (data : List Byte) :=
  e.call (.notify .setBreakpoint data)

/-- `RemoveBreakpoint(bp)`. -/
def removeBreakpoint (data : List Byte) :=
  e.call (.notify .removeBreakpoint data)

/-- `ChangedBreakpointList(bps)`. -/
def changedBreakpointList (data : List Byte) :=
  e.call (.notify .changedBreakpointList data)

/-- `Break()`. -/
def «break» :=
  e.call (.notify .break [])

/-- `Resume()`. -/
def resume :=
  e.call (.notify .resume [])

/-- `StepInto()`. -/
def stepInto :=
  e.call (.notify .stepInto [])

/-- `StepOver()`. -/
def stepOver :=
  e.call (.notify .stepOver [])

/-- `StepReturn()`. -/
def stepReturn :=
  e.call (.notify .stepReturn [])

/-- `OutputLog(type, str, key, line)`. -/
def outputLog (data : List Byte) :=
  e.call (.notify .outputLog data)

/-- `Eval(str, stackFrame, callback)`. -/
def eval (data : List Byte) (callback : Callback) :=
  e.call (.request .eval data callback)

/-- `RequestFieldsVarList(var, callback)`. -/
def requestFieldsVarList (data : List Byte) (callback : Callback) :=
  e.call (.request .requestFieldsVarList data callback)

/-- `RequestLocalVarList(stackFrame, callback)`. -/
def requestLocalVarList (data : List Byte) (callback : Callback) :=
  e.call (.request .requestLocalVarList data callback)

/-- `RequestEnvironVarList(stackFrame, callback)`: the payload it passes is the
one `Set_RequestLocalVarList(stackFrame)` builds, as `RequestLocalVarList`'s. -/
def requestEnvironVarList (data : List Byte) (callback : Callback) :=
  e.call (.request .requestEnvironVarList data callback)

/-- `RequestEvalVarList(array, stackFrame, callback)`. -/
def requestEvalVarList (data : List Byte) (callback : Callback) :=
  e.call (.request .requestEvalVarList data callback)

/-- `RequestGlobalVarList(callback)`. -/
def requestGlobalVarList (callback : Callback) :=
  e.call (.request .requestGlobalVarList [] callback)

/-- `RequestRegistryVarList(callback)`. -/
def requestRegistryVarList (callback : Callback) :=
  e.call (.request .requestRegistryVarList [] callback)

/-- `RequestStackList(callback)`. -/
def requestStackList (callback : Callback) :=
  e.call (.request .requestStackList [] callback)

/-- `ResponseString(command, str)`. -/
def responseString (command : RemoteCommand Callback) (data : List Byte) :=
  e.call (.respond command .valueString data)

/-- `ResponseVarList(command, vars)`. -/
def responseVarList (command : RemoteCommand Callback) (data : List Byte) :=
  e.call (.respond command .valueVarList data)

/-- `ResponseBacktraceList(command, backtraces)`. -/
def responseBacktraceList (command : RemoteCommand Callback) (data : List Byte) :=
  e.call (.respond command .valueBacktraceList data)

end RemoteEngine

end Lldebug.Net
