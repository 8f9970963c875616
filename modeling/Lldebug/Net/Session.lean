import Lldebug.Net.RemoteEngine

/-!
# A context engine and a frame engine

`StartContext(port, k, wait)` makes an engine the Lua context's end: it writes
`START_CONNECTION` carrying `k` and starts the counter at 1.  `StartFrame`
makes the debugger's end, with the counter at 2.  A `Session` is the two
engines, the commands on their way between them (in order), and how far each
`Start...` call has got.  A `SessionEvent` is one call holding the `m_mutex` of
one engine: a write, a `HandleReadCommand` of the oldest command that has
arrived, a pop of the read queue, or a step of a `Start...` call.

Four parts of the state are bookkeeping of the model: the commands each
engine has written and read, the commands `PopCommand` has taken off each read
queue, the continuations `HandleReadCommand` attached, and the serial numbers
that tell one registration from another.
-/

namespace Lldebug.Net

inductive Role
  | context
  | frame
  deriving DecidableEq, Repr

namespace Role

/-- The engine at the other end. -/
def peer : Role → Role
  | context => frame
  | frame => context

@[simp]
theorem peer_peer (r : Role) : r.peer.peer = r := by
  cases r <;> rfl

@[simp]
theorem peer_ne (r : Role) : r.peer ≠ r := by
  cases r <;> decide

@[simp]
theorem ne_peer (r : Role) : r ≠ r.peer := (peer_ne r).symm

/-- `m_commandIdCounter` as `StartContext` (1) and `StartFrame` (2) set it. -/
def seed : Role → Word
  | context => 1
  | frame => 2

end Role

/-- A continuation as one call of `WriteCommand(type, data, response)`
registered it; the serial number tells it from an equal continuation registered
by another call.  The engine only copies it. -/
structure Registration (Callback : Type) where
  serial : Nat
  callback : Callback
  deriving DecidableEq, Repr

/-- A command on its way to the other engine, with where its `commandId` came
from: the header of the command `WriteResponse` answered with it, and whether
`InitCommandHeader` allocated the id. -/
structure Packet (Callback : Type) where
  command : RemoteCommand (Registration Callback)
  respondsTo : Option RemoteCommandHeader
  allocated : Bool
  deriving DecidableEq, Repr

/-- How far the `StartContext` or `StartFrame` call of an engine has got. -/
inductive StartPhase
  | idle
  | waiting
  | returned (code : Int)
  deriving DecidableEq, Repr

/-- `HandleReadCommand` of `role` attached the continuation of `entry` to the
command of `packet`. -/
structure Attachment (Callback : Type) where
  role : Role
  entry : WaitResponseCommand (Registration Callback)
  packet : Packet Callback
  deriving DecidableEq, Repr

structure Session (Callback : Type) where
  engine : Role → RemoteEngine (Registration Callback)
  /-- Commands written by the other engine and not yet handed to this one. -/
  inbox : Role → List (Packet Callback)
  phase : Role → StartPhase
  sent : Role → List (Packet Callback)
  received : Role → List (Packet Callback)
  registrations : Nat
  attachments : List (Attachment Callback)
  /-- The commands `PopCommand` has taken off the engine's read queue, in order. -/
  popped : Role → List (RemoteCommand (Registration Callback))

inductive SessionEvent (Callback : Type)
  /-- `StartContext(port, k, wait)`; `socket->Start` connects or times out. -/
  | startContext (connects : Bool)
  /-- `StartFrame(host, port, wait)`; `socket->Start` connects or times out. -/
  | startFrame (connects : Bool)
  /-- The `timed_wait` of the engine's `Start...` returns. -/
  | wake (r : Role)
  | writeCommand (r : Role) (type : RemoteCommandType) (data : List Byte)
  | writeCommandWithResponse (r : Role) (type : RemoteCommandType) (data : List Byte)
      (response : Callback)
  /-- `WriteResponse` to the `index`-th command the engine has read. -/
  | writeResponse (r : Role) (index : Nat) (type : RemoteCommandType) (data : List Byte)
  /-- The engine's socket hands it the oldest command that has arrived. -/
  | handleReadCommand (r : Role)
  | popCommand (r : Role)

namespace Session

variable {Callback : Type}

/-- Two engines just constructed, nothing written. -/
def init : Session Callback :=
  ⟨fun _ => .init, fun _ => [], fun _ => .idle, fun _ => [], fun _ => [], 0, [], fun _ => []⟩

/-- What `Start...` returns when it stops waiting: `-1` while `m_ctxId < 0`. -/
def waitResult (e : RemoteEngine (Registration Callback)) : StartPhase :=
  .returned (if e.ctxId.toInt < 0 then -1 else 0)

/-- After connecting, `Start...` returns at once if `m_ctxId` is set, and
waits otherwise. -/
def afterConnect (e : RemoteEngine (Registration Callback)) : StartPhase :=
  if e.ctxId.toInt < 0 then .waiting else .returned 0

variable (s : Session Callback)

def setEngine (r : Role) (e : RemoteEngine (Registration Callback)) : Session Callback :=
  { s with engine := Function.update s.engine r e }

def setPhase (r : Role) (phase : StartPhase) : Session Callback :=
  { s with phase := Function.update s.phase r phase }

/-- Engine `r` becomes `e` and hands `packet` to `m_socket->Write`. -/
def write (r : Role) (e : RemoteEngine (Registration Callback)) (packet : Packet Callback) :
    Session Callback :=
  { s with
    engine := Function.update s.engine r e
    inbox := Function.update s.inbox r.peer (s.inbox r.peer ++ [packet])
    sent := Function.update s.sent r (s.sent r ++ [packet]) }

/-- `HandleReadCommand` of engine `r` on `packet`, the oldest of its inbox. -/
def handle (r : Role) (packet : Packet Callback) (rest : List (Packet Callback)) :
    Session Callback :=
  { s with
    engine := Function.update s.engine r ((s.engine r).handleReadCommand packet.command)
    inbox := Function.update s.inbox r rest
    received := Function.update s.received r (s.received r ++ [packet])
    attachments := s.attachments ++
      ((RemoteEngine.findResponse packet.command (s.engine r).waitResponseCommandList).map
        fun found => ⟨r, found.1, packet⟩).toList }

/-- `PopCommand` of engine `r`, the front of whose read queue, what
`GetCommand` returns, is `command`. -/
def pop (r : Role) (command : RemoteCommand (Registration Callback)) : Session Callback :=
  { s with
    engine := Function.update s.engine r (s.engine r).popCommand
    popped := Function.update s.popped r (s.popped r ++ [command]) }

section Projections

variable (r : Role) (e : RemoteEngine (Registration Callback)) (p : Packet Callback)
  (rest : List (Packet Callback)) (phase : StartPhase)
  (command : RemoteCommand (Registration Callback))

@[simp] theorem setEngine_engine : (s.setEngine r e).engine = Function.update s.engine r e := rfl
@[simp] theorem setEngine_inbox : (s.setEngine r e).inbox = s.inbox := rfl
@[simp] theorem setEngine_phase : (s.setEngine r e).phase = s.phase := rfl
@[simp] theorem setEngine_sent : (s.setEngine r e).sent = s.sent := rfl
@[simp] theorem setEngine_received : (s.setEngine r e).received = s.received := rfl
@[simp] theorem setEngine_registrations : (s.setEngine r e).registrations = s.registrations := rfl
@[simp] theorem setEngine_attachments : (s.setEngine r e).attachments = s.attachments := rfl
@[simp] theorem setEngine_popped : (s.setEngine r e).popped = s.popped := rfl

@[simp] theorem setPhase_engine : (s.setPhase r phase).engine = s.engine := rfl
@[simp] theorem setPhase_inbox : (s.setPhase r phase).inbox = s.inbox := rfl
@[simp] theorem setPhase_phase :
    (s.setPhase r phase).phase = Function.update s.phase r phase := rfl
@[simp] theorem setPhase_sent : (s.setPhase r phase).sent = s.sent := rfl
@[simp] theorem setPhase_received : (s.setPhase r phase).received = s.received := rfl
@[simp] theorem setPhase_registrations :
    (s.setPhase r phase).registrations = s.registrations := rfl
@[simp] theorem setPhase_attachments : (s.setPhase r phase).attachments = s.attachments := rfl
@[simp] theorem setPhase_popped : (s.setPhase r phase).popped = s.popped := rfl

@[simp] theorem write_engine : (s.write r e p).engine = Function.update s.engine r e := rfl
@[simp] theorem write_inbox :
    (s.write r e p).inbox = Function.update s.inbox r.peer (s.inbox r.peer ++ [p]) := rfl
@[simp] theorem write_phase : (s.write r e p).phase = s.phase := rfl
@[simp] theorem write_sent :
    (s.write r e p).sent = Function.update s.sent r (s.sent r ++ [p]) := rfl
@[simp] theorem write_received : (s.write r e p).received = s.received := rfl
@[simp] theorem write_registrations : (s.write r e p).registrations = s.registrations := rfl
@[simp] theorem write_attachments : (s.write r e p).attachments = s.attachments := rfl
@[simp] theorem write_popped : (s.write r e p).popped = s.popped := rfl

@[simp] theorem handle_engine :
    (s.handle r p rest).engine =
      Function.update s.engine r ((s.engine r).handleReadCommand p.command) := rfl
@[simp] theorem handle_inbox : (s.handle r p rest).inbox = Function.update s.inbox r rest := rfl
@[simp] theorem handle_phase : (s.handle r p rest).phase = s.phase := rfl
@[simp] theorem handle_sent : (s.handle r p rest).sent = s.sent := rfl
@[simp] theorem handle_received :
    (s.handle r p rest).received = Function.update s.received r (s.received r ++ [p]) := rfl
@[simp] theorem handle_registrations : (s.handle r p rest).registrations = s.registrations := rfl
@[simp] theorem handle_attachments :
    (s.handle r p rest).attachments = s.attachments ++
      ((RemoteEngine.findResponse p.command (s.engine r).waitResponseCommandList).map
        fun found => ⟨r, found.1, p⟩).toList := rfl
@[simp] theorem handle_popped : (s.handle r p rest).popped = s.popped := rfl

@[simp] theorem pop_engine :
    (s.pop r command).engine = Function.update s.engine r (s.engine r).popCommand := rfl
@[simp] theorem pop_inbox : (s.pop r command).inbox = s.inbox := rfl
@[simp] theorem pop_phase : (s.pop r command).phase = s.phase := rfl
@[simp] theorem pop_sent : (s.pop r command).sent = s.sent := rfl
@[simp] theorem pop_received : (s.pop r command).received = s.received := rfl
@[simp] theorem pop_registrations : (s.pop r command).registrations = s.registrations := rfl
@[simp] theorem pop_attachments : (s.pop r command).attachments = s.attachments := rfl
@[simp] theorem pop_popped :
    (s.pop r command).popped = Function.update s.popped r (s.popped r ++ [command]) := rfl

end Projections

/-- `StartContext(port, k, wait)` once `socket->Start` has connected:
`StartThread()`, `m_commandIdCounter = 1`, `m_socket = socket`,
`DoStartConnection(k)`, and the check of `m_ctxId`. -/
def startContext (k : Word) : Session Callback :=
  let e := { s.engine .context with commandIdCounter := 1, hasSocket := true }
  let w := e.doStartConnection k
  (s.write .context w.1 ⟨w.2, none, true⟩).setPhase .context (afterConnect w.1)

/-- `StartFrame(host, port, wait)` once `socket->Start` has connected. -/
def startFrame : Session Callback :=
  let e := { s.engine .frame with commandIdCounter := 2, hasSocket := true }
  (s.setEngine .frame e).setPhase .frame (afterConnect e)

/-- One event, `k` being the `ctxId` given to `StartContext`; `none` when the
event cannot happen. -/
def step (k : Word) : SessionEvent Callback → Option (Session Callback)
  | .startContext connects =>
    if s.phase .context = .idle then
      some (if connects then s.startContext k else s.setPhase .context (.returned (-1)))
    else none
  | .startFrame connects =>
    if s.phase .frame = .idle then
      some (if connects then s.startFrame else s.setPhase .frame (.returned (-1)))
    else none
  | .wake r => if s.phase r = .waiting then some (s.setPhase r (waitResult (s.engine r))) else none
  | .writeCommand r type data =>
    if (s.engine r).hasSocket then
      let w := (s.engine r).writeCommand type data
      some (s.write r w.1 ⟨w.2, none, true⟩)
    else none
  | .writeCommandWithResponse r type data response =>
    if (s.engine r).hasSocket then
      let w := (s.engine r).writeCommandWithResponse type data ⟨s.registrations, response⟩
      some { s.write r w.1 ⟨w.2, none, true⟩ with registrations := s.registrations + 1 }
    else none
  | .writeResponse r i type data =>
    match (s.received r)[i]? with
    | some p =>
      if (s.engine r).hasSocket then
        let w := (s.engine r).writeResponse p.command type data
        some (s.write r w.1 ⟨w.2, some p.command.header, p.command.header.commandId == 0⟩)
      else none
    | none => none
  | .handleReadCommand r =>
    match s.inbox r with
    | p :: rest => some (s.handle r p rest)
    | [] => none
  | .popCommand r =>
    match (s.engine r).readCommandQueue with
    | command :: _ => some (s.pop r command)
    | [] => none

/-- A run of events from `s`, failing at the first that cannot happen. -/
def run (k : Word) : Session Callback → List (SessionEvent Callback) → Option (Session Callback)
  | s, [] => some s
  | s, e :: es => (s.step k e).bind (run k · es)

theorem prefix_update_append {α : Type} (f : Role → List α) (r : Role) (l : List α) (r' : Role) :
    f r' <+: Function.update f r (f r ++ l) r' := by
  by_cases hr : r' = r
  · subst hr; simp
  · simp [hr]

/-- A step either hands engine `r` the oldest command of its inbox, or reads
nothing and only adds to what each engine has written. -/
theorem step_cases {k : Word} {s' : Session Callback} {e : SessionEvent Callback}
    (h : s.step k e = some s') :
    (∃ r p rest, e = .handleReadCommand r ∧ s.inbox r = p :: rest ∧ s' = s.handle r p rest) ∨
      (s'.received = s.received ∧ ∀ r, s.sent r <+: s'.sent r) := by
  cases e <;> simp only [step] at h
  case handleReadCommand r =>
    split at h <;> cases h
    exact .inl ⟨r, _, _, rfl, ‹_›, rfl⟩
  all_goals
    right
    (try split at h) <;> (try split_ifs at h) <;> cases h <;>
      simp [startContext, startFrame, prefix_update_append]

/-- The sessions some run from `init` reaches. -/
inductive Reachable (k : Word) : Session Callback → Prop
  | init : Reachable k init
  | step {s s' : Session Callback} {e : SessionEvent Callback} :
      Reachable k s → s.step k e = some s' → Reachable k s'

theorem Reachable.run {k : Word} {s s' : Session Callback} (hs : Reachable k s)
    (es : List (SessionEvent Callback)) (h : s.run k es = some s') : Reachable k s' := by
  induction es generalizing s with
  | nil => cases h; exact hs
  | cons e es ih =>
    obtain ⟨t, ht, hrun⟩ := Option.bind_eq_some.mp h
    exact ih (hs.step ht) hrun

/-- `StartContext` with `ctxId` 7, `StartFrame`, the frame reads
`START_CONNECTION` and sends `CHANGED_STATE`, the context reads it, and both
`Start...` calls return. -/
def handshake : List (SessionEvent Unit) :=
  [.startContext true, .startFrame true, .handleReadCommand .frame,
    .writeCommand .frame .changedState [], .handleReadCommand .context,
    .wake .context, .wake .frame]

def afterHandshake : Session Unit :=
  ((init : Session Unit).run 7 handshake).getD init

theorem reachable_afterHandshake : Reachable 7 afterHandshake :=
  Reachable.init.run handshake rfl

end Session

end Lldebug.Net
