import Lldebug.Net.Delivery
import Lldebug.Net.Correlation

/-!
# The engines over their sockets

`Lldebug.Net.Session` hands each engine the commands of the other whole and in
the order they were written.  Underneath, `WriteCommand` gives each command to
`SocketBase::Write`, and `HandleReadCommand` is called by the engine's own
socket once it has read a header and a payload off the wire.  A `Connection`
is the two engines, each with its socket, and what is on its way to each: the
posted `doWrite`s of the peer and the bytes on the wire.  The pipe into `r`
(`link`) has the peer's socket as its sender and `r`'s as its receiver, so
each socket sends on one pipe and receives on the other.  An io step on one
pipe moves its sender's writes and its receiver's read, which the other pipe
does not look at; the two halves of a socket share `isOpen`, which only a
failure changes.

When each io_service sends its outstanding writes oldest first, no socket
operation fails and every command written is well framed, the connection
refines the session: an engine call is one `Session.step`, an io step is
either unseen by the session or the `HandleReadCommand` of the oldest command
the peer wrote, and no io step the sockets can take is refused.  What holds of
every reachable session holds of the engines over their sockets.
-/

namespace Lldebug.Net

structure Connection (Callback : Type) where
  session : Session Callback
  /-- Each engine's `m_socket`: its read loop reads the peer's commands, its
  write queue writes the engine's own. -/
  socket : Role → SocketBase (Registration Callback)
  /-- The bytes on their way to engine `r`. -/
  wire : Role → List Byte
  /-- The `doWrite`s the `Write` calls of the peer of `r` have posted. -/
  posted : Role → List (RemoteCommand (Registration Callback))

inductive ConnectionEvent (Callback : Type)
  /-- A call on an engine under its `m_mutex`; `HandleReadCommand` is its socket's to make. -/
  | call (e : SessionEvent Callback)
  /-- boost::asio moves the pipe into engine `r`; `SocketBase::Write` is the engines' to make. -/
  | io (r : Role) (e : PipeEvent (Registration Callback))

variable {Callback : Type}

/-- The event hands an engine a command. -/
def SessionEvent.reads : SessionEvent Callback → Bool
  | .handleReadCommand _ => true
  | _ => false

namespace ConnectionEvent

/-- Each io_service sends its outstanding writes oldest first, and no socket
operation fails. -/
def OldestFirst : ConnectionEvent Callback → Prop
  | call _ => True
  | io _ e => e.OldestFirst ∧ ¬ e.Fails

instance : (e : ConnectionEvent Callback) → Decidable e.OldestFirst
  | call _ => isTrue trivial
  | io _ e => inferInstanceAs (Decidable (e.OldestFirst ∧ ¬ e.Fails))

end ConnectionEvent

namespace Pipe

namespace Fifo

variable {written : List (RemoteCommand Callback)} {p : Pipe Callback} (h : Fifo written p)
include h

/-- A FIFO depends only on what is posted, the wire, the sender's writes and
the receiver's read: a pipe that agrees on them, both its sockets open, is a
FIFO of the same commands. -/
theorem of_halves {p' : Pipe Callback} (hposted : p'.posted = p.posted) (hwire : p'.wire = p.wire)
    (hsender : p'.sender.isOpen = true ∧
      p'.sender.writeCommandQueue = p.sender.writeCommandQueue ∧ p'.sender.writes = p.sender.writes)
    (hreceiver : p'.receiver.isOpen = true ∧ p'.receiver.read = p.receiver.read ∧
      p'.receiver.handled = p.receiver.handled) :
    Fifo written p' := by
  obtain ⟨hopen, hqueue, hwrites⟩ := hsender
  obtain ⟨hropen, hread, hhandled⟩ := hreceiver
  obtain ⟨op, hop, hok, hpending⟩ := h.pending
  have hunsent : p'.sender.unsent = p.sender.unsent := by
    simp only [SocketBase.unsent, hqueue, hwrites]
  refine ⟨h.framed, hposted ▸ h.posted, h.sending.of_eq hopen hqueue hwrites, hropen,
    hhandled ▸ h.handled, op, hread ▸ hop, hok, ?_⟩
  rw [hhandled, hwire, hunsent, hposted]
  exact hpending

end Fifo

end Pipe

namespace Connection

/-- The pipe carrying the peer's commands to engine `r`: the peer's socket
sends, `r`'s socket reads. -/
def link (c : Connection Callback) (r : Role) : Pipe (Registration Callback) :=
  ⟨c.posted r, c.socket r.peer, c.wire r, c.socket r⟩

/-- The pipe into `r` has become `l`: its sender is the peer's socket, its
receiver `r`'s. -/
def setLink (c : Connection Callback) (r : Role) (l : Pipe (Registration Callback)) :
    Connection Callback :=
  { c with
    socket := Function.update (Function.update c.socket r.peer l.sender) r l.receiver
    wire := Function.update c.wire r l.wire
    posted := Function.update c.posted r l.posted }

section SetLink

variable (c : Connection Callback) (r : Role) (l : Pipe (Registration Callback))

@[simp] theorem setLink_session : (c.setLink r l).session = c.session := rfl

@[simp] theorem setLink_link : (c.setLink r l).link r = l := by
  simp only [setLink, link, Function.update_same, Function.update_noteq (Role.peer_ne r)]

/-- The pipe into the peer sees the same two sockets, the other way round. -/
theorem setLink_link_peer :
    (c.setLink r l).link r.peer =
      { c.link r.peer with sender := l.receiver, receiver := l.sender } := by
  simp only [setLink, link, Role.peer_peer, Function.update_same,
    Function.update_noteq (Role.peer_ne r)]

end SetLink

/-- Two engines just constructed over connected sockets: nothing moves on a
pipe before its sender writes. -/
def init : Connection Callback :=
  ⟨Session.init, fun _ => SocketBase.opened.connected, fun _ => [], fun _ => []⟩

/-- The commands engine `r` wrote between `s` and `s'`. -/
def written (s s' : Session Callback) (r : Role) : List (RemoteCommand (Registration Callback)) :=
  ((s'.sent r).drop (s.sent r).length).map (·.command)

/-- After an engine call, what each engine wrote goes to its socket's `Write`. -/
def afterCall (c : Connection Callback) (s : Session Callback) : Connection Callback :=
  { c with session := s, posted := fun r => c.posted r ++ written c.session s r.peer }

@[simp] theorem afterCall_session (c : Connection Callback) (s : Session Callback) :
    (c.afterCall s).session = s := rfl

@[simp] theorem afterCall_link (c : Connection Callback) (s : Session Callback) (r : Role) :
    (c.afterCall s).link r = (c.link r).post (written c.session s r.peer) := rfl

variable {k : Word} {c c' : Connection Callback}

/-- What an engine has written after a call is what it had written before,
then `written`. -/
theorem map_sent_eq {s s' : Session Callback} {r : Role} (hsent : s.sent r <+: s'.sent r) :
    (s'.sent r).map (·.command) = (s.sent r).map (·.command) ++ written s s' r := by
  rw [written, ← List.map_append, List.prefix_iff_eq_append.mp hsent]

theorem written_framed {s s' : Session Callback} {r : Role}
    (hframed : ∀ p ∈ s'.sent r, WellFramed p.command) : ∀ x ∈ written s s' r, WellFramed x := by
  intro x hx
  obtain ⟨p, hp, rfl⟩ := List.mem_map.mp hx
  exact hframed p (List.mem_of_mem_drop hp)

/-- A command the socket of `r` hands on, keeping what it handed over a prefix of
what the peer wrote, is the oldest of `r`'s inbox. -/
theorem handed_head (hs : Session.Reachable k c.session) {r : Role}
    {l : Pipe (Registration Callback)} {command : RemoteCommand (Registration Callback)}
    (hhandled : (c.link r).receiver.handled = (c.session.received r).map (·.command))
    (hhanded : l.receiver.handled <+: (c.session.sent r.peer).map (·.command))
    (hnew : l.receiver.handled = (c.link r).receiver.handled ++ [command]) :
    ∃ p rest, c.session.inbox r = p :: rest ∧ p.command = command := by
  rw [hnew, hhandled, ← hs.correlationInv.fifo r, List.map_append] at hhanded
  have hhead := (List.prefix_append_right_inj _).mp hhanded
  cases hin : c.session.inbox r with
  | nil => simp [hin] at hhead
  | cons p rest => exact ⟨p, rest, rfl, by simpa [hin, eq_comm] using hhead⟩

/-- After an io step on the pipe into `r`, with the session taken to `s` by
what the socket of `r` handed on, each socket has handed its engine exactly the
commands the engine read. -/
theorem handled_setLink {r : Role} {e : PipeEvent (Registration Callback)}
    {l : Pipe (Registration Callback)} (hl : (c.link r).step e = some l)
    (hhandled : ∀ r, (c.link r).receiver.handled = (c.session.received r).map (·.command))
    {s : Session Callback} (hnew : l.receiver.handled = (s.received r).map (·.command))
    (hpeer : s.received r.peer = c.session.received r.peer) (r' : Role) :
    ({ c.setLink r l with session := s }.link r').receiver.handled =
      (s.received r').map (·.command) := by
  change ((c.setLink r l).link r').receiver.handled = _
  obtain rfl | rfl : r' = r ∨ r' = r.peer := by cases r <;> cases r' <;> decide
  · rw [setLink_link]
    exact hnew
  · rw [setLink_link_peer, hpeer, ← hhandled r.peer]
    exact (Pipe.step_frame hl).2.1

/-- The connection over the session: the session is reachable, the pipe into
each engine is a FIFO of the commands the peer wrote, and the engine's socket
has handed it exactly the commands it read there. -/
structure Inv (k : Word) (c : Connection Callback) : Prop where
  reachable : Session.Reachable k c.session
  fifo : ∀ r, (c.link r).Fifo ((c.session.sent r.peer).map (·.command))
  handled : ∀ r, (c.link r).receiver.handled = (c.session.received r).map (·.command)

theorem inv_init : Inv k (init : Connection Callback) :=
  ⟨.init, fun _ => Pipe.fifo_connected, fun _ => rfl⟩

namespace Inv

variable (h : Inv k c)
include h

/-- An engine call other than a read is one session step; what it wrote is
posted to the writer's socket. -/
theorem afterCall {e : SessionEvent Callback} (he : e.reads = false) {s : Session Callback}
    (hs : c.session.step k e = some s) (hframed : ∀ r, ∀ p ∈ s.sent r, WellFramed p.command) :
    Inv k (c.afterCall s) := by
  obtain ⟨r, p, rest, rfl, -, -⟩ | ⟨hreceived, hsent⟩ := Session.step_cases _ hs
  · simp [SessionEvent.reads] at he
  refine ⟨h.reachable.step hs, fun r => ?_, fun r => by simpa [hreceived] using h.handled r⟩
  rw [afterCall_link, afterCall_session, map_sent_eq (hsent r.peer)]
  exact (h.fifo r).post (written_framed (hframed r.peer))

/-- An io step that keeps the pipe into `r` a FIFO keeps the pipe into the peer
one too: it moves neither the read nor the writes that pipe looks at, and
leaves both sockets open. -/
theorem fifo_setLink {r : Role} {e : PipeEvent (Registration Callback)}
    {l : Pipe (Registration Callback)} (hl : (c.link r).step e = some l)
    (hfifo : l.Fifo ((c.session.sent r.peer).map (·.command))) (r' : Role) :
    ((c.setLink r l).link r').Fifo ((c.session.sent r'.peer).map (·.command)) := by
  obtain rfl | rfl : r' = r ∨ r' = r.peer := by cases r <;> cases r' <;> decide
  · simpa using hfifo
  · obtain ⟨hread, hhandled, hqueue, hwrites⟩ := Pipe.step_frame hl
    have hsocket : (c.link r.peer).sender = (c.link r).receiver := by simp [link]
    rw [setLink_link_peer]
    exact (h.fifo r.peer).of_halves rfl rfl ⟨hfifo.receiving, hsocket ▸ hqueue, hsocket ▸ hwrites⟩
      ⟨hfifo.sending.isOpen, hread, hhandled⟩

/-- Such a step, with the session taken to `s` by what the socket of `r`
handed on, keeps the invariant. -/
theorem setLink {r : Role} {e : PipeEvent (Registration Callback)}
    {l : Pipe (Registration Callback)} (hl : (c.link r).step e = some l)
    (hfifo : l.Fifo ((c.session.sent r.peer).map (·.command))) {s : Session Callback}
    (hs : Session.Reachable k s) (hsent : s.sent = c.session.sent)
    (hhandled : l.receiver.handled = (s.received r).map (·.command))
    (hpeer : s.received r.peer = c.session.received r.peer) :
    Inv k { c.setLink r l with session := s } :=
  ⟨hs, fun r' => hsent ▸ h.fifo_setLink hl hfifo r', handled_setLink hl h.handled hhandled hpeer⟩

end Inv

/-- The frames of the commands the peer wrote and `r` has not read are the
bytes the socket's read has taken, then the wire, then what the peer's socket
has still to send, then the commands it has posted. -/
theorem Inv.inbox_frames (h : Inv k c) (r : Role) :
    ∃ op, (c.link r).receiver.read = some op ∧
      frames ((c.session.inbox r).map (·.command)) =
        op.consumed ++ (c.link r).wire ++ (c.link r).sender.unsent ++ frames (c.link r).posted := by
  obtain ⟨op, hread, -, hpending⟩ := (h.fifo r).pending
  refine ⟨op, hread, ?_⟩
  rw [← hpending, h.handled r, ← h.reachable.correlationInv.fifo r, List.map_append,
    List.drop_left]

section Step

variable [DecidableEq Callback]

/-- The pipe into `r` has become `l`: a command its socket handed on goes to
`HandleReadCommand` of `r` as the oldest command of its inbox, and the step is
refused unless it is that command. -/
def deliver (c : Connection Callback) (r : Role) (l : Pipe (Registration Callback)) :
    Option (Connection Callback) :=
  match l.receiver.handled.drop (c.link r).receiver.handled.length, c.session.inbox r with
  | [], _ => some (c.setLink r l)
  | [command], p :: rest =>
    if p.command = command then some { c.setLink r l with session := c.session.handle r p rest }
    else none
  | _, _ => none

/-- One event, `k` being the `ctxId` given to `StartContext`. -/
def step (k : Word) (c : Connection Callback) :
    ConnectionEvent Callback → Option (Connection Callback)
  | .call e => if e.reads then none else (c.session.step k e).map c.afterCall
  | .io r e => if e.written.isEmpty then ((c.link r).step e).bind (c.deliver r) else none

def run (k : Word) : Connection Callback → List (ConnectionEvent Callback) →
    Option (Connection Callback)
  | c, [] => some c
  | c, e :: es => (c.step k e).bind (run k · es)

/-- Delivering makes the pipe into `r` the new one and leaves what the engines
wrote alone. -/
theorem deliver_eq {r : Role} {l : Pipe (Registration Callback)} (h : c.deliver r l = some c') :
    c'.link r = l ∧ c'.session.sent = c.session.sent := by
  simp only [deliver] at h
  split at h
  · cases h; exact ⟨setLink_link c r l, rfl⟩
  · split_ifs at h
    cases h
    exact ⟨setLink_link c r l, rfl⟩
  · cases h

/-- A failure hands nothing on, so delivering it always goes through. -/
theorem deliver_of_fails {r : Role} {e : PipeEvent (Registration Callback)}
    {l : Pipe (Registration Callback)} (hfail : e.Fails) (hl : (c.link r).step e = some l) :
    c.deliver r l = some (c.setLink r l) := by
  simp [deliver, Pipe.step_handled_of_fails hfail hl]

/-- The engines only ever add to what they have written. -/
theorem step_sent {e : ConnectionEvent Callback} (h : c.step k e = some c') (r : Role) :
    c.session.sent r <+: c'.session.sent r := by
  cases e with
  | call e =>
    simp only [step] at h
    split_ifs at h
    obtain ⟨s, hs, rfl⟩ := Option.map_eq_some'.mp h
    rcases Session.step_cases _ hs with ⟨r', p, rest, -, -, rfl⟩ | ⟨-, hsent⟩
    · exact List.prefix_refl _
    · exact hsent r
  | io r' e =>
    simp only [step] at h
    split_ifs at h
    obtain ⟨l, -, h⟩ := Option.bind_eq_some.mp h
    rw [(deliver_eq h).2]

theorem run_sent {es : List (ConnectionEvent Callback)} (h : c.run k es = some c') (r : Role) :
    c.session.sent r <+: c'.session.sent r := by
  induction es generalizing c with
  | nil => cases h; exact List.prefix_refl _
  | cons e es ih =>
    obtain ⟨d, hd, hrest⟩ := Option.bind_eq_some.mp h
    exact (step_sent hd r).trans (ih hrest)

/-- A property of connections that every step allowed by `allowed` keeps, once
every command written by the end of the run is well framed, holds after every
run of allowed steps. -/
theorem run_induction {P : Connection Callback → Prop} {allowed : ConnectionEvent Callback → Prop}
    (hstep : ∀ {c c' : Connection Callback} {e : ConnectionEvent Callback}, P c → allowed e →
      c.step k e = some c' → (∀ r, ∀ p ∈ c'.session.sent r, WellFramed p.command) → P c')
    {es : List (ConnectionEvent Callback)} (hsched : ∀ e ∈ es, allowed e) (h : P c)
    (hrun : c.run k es = some c') (hframed : ∀ r, ∀ p ∈ c'.session.sent r, WellFramed p.command) :
    P c' := by
  induction es generalizing c with
  | nil => cases hrun; exact h
  | cons e es ih =>
    obtain ⟨d, hd, hrest⟩ := Option.bind_eq_some.mp hrun
    exact ih (fun e he => hsched e (List.mem_cons_of_mem _ he))
      (hstep h (hsched e (List.mem_cons_self _ _)) hd
        fun r p hp => hframed r p ((run_sent hrest r).subset hp)) hrest

namespace Inv

variable (h : Inv k c)
include h

/-- Every io step the sockets can take, short of a failure, goes through and
keeps the invariant. -/
theorem io {r : Role} {e : PipeEvent (Registration Callback)} (he : e.OldestFirst)
    (hfail : ¬ e.Fails) (hw : e.written = []) {l : Pipe (Registration Callback)}
    (hl : (c.link r).step e = some l) :
    ∃ c', c.deliver r l = some c' ∧ Inv k c' := by
  have hfifo : l.Fifo ((c.session.sent r.peer).map (·.command)) := by
    simpa [hw] using (h.fifo r).step he hfail (by simp [hw]) hl
  rcases Pipe.step_handled hl with hsame | ⟨command, hnew⟩
  · exact ⟨c.setLink r l, by simp [deliver, hsame],
      h.setLink hl hfifo h.reachable rfl (hsame.trans (h.handled r)) rfl⟩
  · obtain ⟨p, rest, hin, rfl⟩ := handed_head h.reachable (h.handled r) hfifo.handled hnew
    exact ⟨_, by simp [deliver, hnew, hin], h.setLink hl hfifo (s := c.session.handle r p rest)
      (h.reachable.step (e := .handleReadCommand r) (by simp [Session.step, hin])) rfl
      (by simp [hnew, h.handled r]) (by simp)⟩

theorem step {e : ConnectionEvent Callback} (he : e.OldestFirst) (hstep : c.step k e = some c')
    (hframed : ∀ r, ∀ p ∈ c'.session.sent r, WellFramed p.command) : Inv k c' := by
  cases e with
  | call e =>
    simp only [Connection.step] at hstep
    split_ifs at hstep with hreads
    obtain ⟨s, hs, rfl⟩ := Option.map_eq_some'.mp hstep
    exact h.afterCall (by simpa using hreads) hs hframed
  | io r e =>
    simp only [Connection.step] at hstep
    split_ifs at hstep with hw
    obtain ⟨l, hl, hdeliver⟩ := Option.bind_eq_some.mp hstep
    obtain ⟨c'', hc'', hinv⟩ := h.io he.1 he.2 (List.isEmpty_iff.mp hw) hl
    exact Option.some.inj (hc''.symm.trans hdeliver) ▸ hinv

theorem run {es : List (ConnectionEvent Callback)} (hsched : ∀ e ∈ es, e.OldestFirst)
    (hrun : c.run k es = some c') (hframed : ∀ r, ∀ p ∈ c'.session.sent r, WellFramed p.command) :
    Inv k c' :=
  run_induction (fun h he hstep hframed => Inv.step h he hstep hframed) hsched h hrun hframed

end Inv

/-- With each io_service sending oldest first, no socket operation failing and
every command written well framed, the engines over their sockets refine the
session.  After every run
from two fresh engines, the session is one `Session.step` can reach, each
engine's socket has handed it exactly the commands it read there, the frames
of the commands it has still to read are the bytes on their way in order, and
no io step the sockets can take next is refused: a command a socket hands on
is always the oldest the peer wrote and the engine has not read. -/
theorem sockets_refine_session {es : List (ConnectionEvent Callback)}
    (hsched : ∀ e ∈ es, e.OldestFirst) (hrun : init.run k es = some c)
    (hframed : ∀ r, ∀ p ∈ c.session.sent r, WellFramed p.command) :
    Session.Reachable k c.session ∧
      (∀ r, (c.link r).receiver.handled = (c.session.received r).map (·.command)) ∧
      (∀ r, ∃ op, (c.link r).receiver.read = some op ∧
        frames ((c.session.inbox r).map (·.command)) =
          op.consumed ++ (c.link r).wire ++ (c.link r).sender.unsent ++ frames (c.link r).posted) ∧
      ∀ r e l, e.OldestFirst → e.written = [] → (c.link r).step e = some l →
        ∃ c', c.step k (.io r e) = some c' := by
  have h := inv_init.run hsched hrun hframed
  refine ⟨h.reachable, h.handled, h.inbox_frames, fun r e l he hw hl => ?_⟩
  by_cases hfail : e.Fails
  · exact ⟨c.setLink r l, by simp [Connection.step, hw, hl, deliver_of_fails hfail hl]⟩
  · obtain ⟨c', hc', -⟩ := h.io he hfail hw hl
    exact ⟨c', by simp [Connection.step, hw, hl, hc']⟩

end Step

/-- `StartContext` with `ctxId` 7 and `StartFrame`; `START_CONNECTION` crosses
the pipe into the frame, which answers with `CHANGED_STATE` on the pipe back. -/
def wiredHandshake : List (ConnectionEvent Unit) :=
  [.call (.startContext true), .call (.startFrame true),
    .io .frame .doWrite, .io .frame (.transfer 0 16), .io .frame (.writeDone 0),
    .io .frame (.receive 16), .io .frame .readDone,
    .call (.writeCommand .frame .changedState []),
    .io .context .doWrite, .io .context (.transfer 0 16), .io .context (.writeDone 0),
    .io .context (.receive 16), .io .context .readDone]

def afterWiredHandshake : Connection Unit :=
  ((init : Connection Unit).run 7 wiredHandshake).getD init

theorem sockets_refine_session_wired_handshake :
    (∀ e ∈ wiredHandshake, e.OldestFirst) ∧
      (∀ r, ∀ p ∈ afterWiredHandshake.session.sent r, WellFramed p.command) ∧
      (Session.Reachable 7 afterWiredHandshake.session ∧
        (∀ r, (afterWiredHandshake.link r).receiver.handled =
          (afterWiredHandshake.session.received r).map (·.command)) ∧
        (∀ r, ∃ op, (afterWiredHandshake.link r).receiver.read = some op ∧
          frames ((afterWiredHandshake.session.inbox r).map (·.command)) =
            op.consumed ++ (afterWiredHandshake.link r).wire ++
              (afterWiredHandshake.link r).sender.unsent ++
              frames (afterWiredHandshake.link r).posted) ∧
        ∀ r e l, e.OldestFirst → e.written = [] → (afterWiredHandshake.link r).step e = some l →
          ∃ c', afterWiredHandshake.step 7 (.io r e) = some c') :=
  have hframed : ∀ r, ∀ p ∈ afterWiredHandshake.session.sent r, WellFramed p.command :=
    fun r => by cases r <;> decide
  have hrun : (init : Connection Unit).run 7 wiredHandshake = some afterWiredHandshake := rfl
  ⟨by decide, hframed, sockets_refine_session (by decide) hrun hframed⟩

end Connection

end Lldebug.Net
