import Mathlib

/-!
# Remote commands and the command header on the wire

`lldebug::net` moves `RemoteCommand`s between a debugger frame and a Lua
context: a fixed-size `RemoteCommandHeader` followed by `dataSize` payload
bytes.  `SocketBase::asyncWrite` sends the header as the raw memory of the
header struct, and `asyncReadCommand` reads exactly `sizeof(RemoteCommandHeader)`
bytes back into one.

The declarations of the header and of the command kinds (`remoteengine.h`) are
not among the sources.  Their layout is taken from the spec: four 32-bit fields,
`type`, `ctxId` (a signed `int`), `commandId` and `dataSize`, in that order,
each little-endian.
-/

namespace Lldebug.Net

abbrev Byte := BitVec 8
abbrev Word := BitVec 32

/-- Modelled from the spec: the command kinds of `remoteengine.h`, in the order
the spec lists them. -/
inductive RemoteCommandType
  | startConnection | endConnection | changedState | updateSource
  | forceUpdateSource | addedSource | saveSource | setUpdateCount
  | setBreakpoint | removeBreakpoint | changedBreakpointList
  | «break» | resume | stepInto | stepOver | stepReturn | outputLog | eval
  | requestFieldsVarList | requestLocalVarList | requestEnvironVarList
  | requestEvalVarList | requestGlobalVarList | requestRegistryVarList
  | requestStackList | valueString | valueVarList | valueBacktraceList
  | successed | failed
  deriving DecidableEq, Repr

/-- The value an enumerator leaves in the header's `type` field. -/
def RemoteCommandType.toWord (type : RemoteCommandType) : Word :=
  BitVec.ofNat 32 type.toCtorIdx

/-- `RemoteCommandHeader`.  The fields hold whatever 32 bits were read, so a
header decoded from arbitrary bytes is still a header. -/
structure RemoteCommandHeader where
  type : Word
  ctxId : Word
  commandId : Word
  dataSize : Word
  deriving DecidableEq, Repr

/-- `sizeof(RemoteCommandHeader)`. -/
def headerSize : Nat := 16

/-- A command: its header, its payload (`RemoteCommandData`) and the
continuation that `HandleReadCommand` may attach with `SetResponse`. -/
structure RemoteCommand (Callback : Type) where
  header : RemoteCommandHeader
  data : List Byte
  response : Option Callback := none
  deriving DecidableEq, Repr

/-! ## Byte layout of the header -/

/-- The four little-endian bytes of a 32-bit field. -/
def wordBytes (w : Word) : List Byte :=
  [BitVec.ofNat 8 w.toNat, BitVec.ofNat 8 (w.toNat / 2 ^ 8),
    BitVec.ofNat 8 (w.toNat / 2 ^ 16), BitVec.ofNat 8 (w.toNat / 2 ^ 24)]

/-- A 32-bit field read back from four little-endian bytes. -/
def bytesWord (b0 b1 b2 b3 : Byte) : Word :=
  BitVec.ofNat 32 (b0.toNat + 2 ^ 8 * b1.toNat + 2 ^ 16 * b2.toNat + 2 ^ 24 * b3.toNat)

theorem bytesWord_wordBytes (w : Word) :
    bytesWord (BitVec.ofNat 8 w.toNat) (BitVec.ofNat 8 (w.toNat / 2 ^ 8))
      (BitVec.ofNat 8 (w.toNat / 2 ^ 16)) (BitVec.ofNat 8 (w.toNat / 2 ^ 24)) = w := by
  apply BitVec.eq_of_toNat_eq
  have hw := w.isLt
  simp only [bytesWord, BitVec.toNat_ofNat]
  omega

/-- The header as `asyncWrite` hands it to `async_write`. -/
def encodeHeader (h : RemoteCommandHeader) : List Byte :=
  wordBytes h.type ++ wordBytes h.ctxId ++ wordBytes h.commandId ++ wordBytes h.dataSize

/-- The header `handleReadCommand` finds in the buffer `async_read` filled. -/
def decodeHeader (bytes : List Byte) : RemoteCommandHeader :=
  let field (i : Nat) : Word :=
    bytesWord (bytes.getD (4 * i) 0) (bytes.getD (4 * i + 1) 0)
      (bytes.getD (4 * i + 2) 0) (bytes.getD (4 * i + 3) 0)
  ⟨field 0, field 1, field 2, field 3⟩

@[simp]
theorem length_encodeHeader (h : RemoteCommandHeader) :
    (encodeHeader h).length = headerSize := rfl

/-- Decoding only looks at the first `headerSize` bytes. -/
theorem decodeHeader_encodeHeader_append (h : RemoteCommandHeader) (rest : List Byte) :
    decodeHeader (encodeHeader h ++ rest) = h := by
  simp only [decodeHeader, encodeHeader, wordBytes, List.cons_append, List.nil_append,
    Nat.mul_zero, List.getD_cons_succ, List.getD_cons_zero, bytesWord_wordBytes]

@[simp]
theorem decodeHeader_encodeHeader (h : RemoteCommandHeader) :
    decodeHeader (encodeHeader h) = h := by
  simpa using decodeHeader_encodeHeader_append h []

/-- The bytes of one command on the wire: its header, then its payload. -/
def frameBytes {Callback : Type} (command : RemoteCommand Callback) : List Byte :=
  encodeHeader command.header ++ command.data

end Lldebug.Net
