import Lldebug.Net.Connection

/-!
# The sockets stay in order when operations fail

`Lldebug.Net.Connection` assumes that no socket operation fails.  A read or a
write can fail, though (the peer resets the connection, or closes it), and the
handler then calls `doClose`.  Each engine has one socket, which sends on the
pipe out of the engine and reads on the pipe into it, so a failure on either
pipe closes one direction's sender and the other's receiver at once.

What a failure breaks is progress: a closed sender sends no more bytes, and a
failed read starts no new one.  What it does not break is order: each pipe
stays `Safe` (`Lldebug.Net.Delivery`), and a step on one pipe can only close
the socket the other pipe sends from, which `Safe` allows.  So with each
io_service sending oldest first and every command written well framed, the
engines over their sockets still refine the session whatever fails: a socket
never hands its engine a command out of turn, and no io step is refused.
-/

namespace Lldebug.Net

variable {Callback : Type}

namespace Pipe

/-- A step never opens the receiving socket. -/
theorem isOpen_of_step {p p' : Pipe Callback} {e : PipeEvent Callback} (h : p.step e = some p')
    (hopen : p'.receiver.isOpen = true) : p.receiver.isOpen = true := by
  rcases step_receiver h with hsame | ⟨-, -, -, hopen', -⟩ | ⟨op, -, -, hrecv⟩ | ⟨-, -, hopen', -⟩
  · rwa [hsame] at hopen
  · exact hopen'
  · rw [hrecv] at hopen
    exact SocketBase.isOpen_of_completeRead (s := { p.receiver with read := none }) hopen
  · exact hopen'

namespace Safe

variable {written : List (RemoteCommand Callback)} {p p' : Pipe Callback}

/-- Being safe depends only on what is posted, the wire, the sender's writes
and the receiver's read: a pipe that agrees on them, and whose sender is open
only if the first one's was, is safe for the same commands. -/
theorem of_halves (h : Safe written p) (hposted : p'.posted = p.posted) (hwire : p'.wire = p.wire)
    (hsender : (p'.sender.isOpen = true → p.sender.isOpen = true) ∧
      p'.sender.writeCommandQueue = p.sender.writeCommandQueue ∧ p'.sender.writes = p.sender.writes)
    (hreceiver : p'.receiver.read = p.receiver.read ∧ p'.receiver.handled = p.receiver.handled) :
    Safe written p' := by
  obtain ⟨hopen, hqueue, hwrites⟩ := hsender
  obtain ⟨hread, hhandled⟩ := hreceiver
  have hunsent : p'.sender.unsent = p.sender.unsent := by
    simp only [SocketBase.unsent, hqueue, hwrites]
  refine ⟨h.framed, hposted ▸ h.posted, hhandled ▸ h.handled,
    fun hs => (h.sending (hopen hs)).of_eq hs hqueue hwrites, fun op hop => ?_⟩
  obtain ⟨hok, rest, hrest, hsent⟩ := h.pending op (hread ▸ hop)
  exact ⟨hok, rest, by rw [hhandled, hwire]; exact hrest,
    fun hs => by rw [hunsent, hposted]; exact hsent (hopen hs)⟩

end Safe

end Pipe

/-- The io_service sends its outstanding writes oldest first; the event may be
a failure. -/
def ConnectionEvent.SendsOldestFirst : ConnectionEvent Callback → Prop
  | .call _ => True
  | .io _ e => e.OldestFirst

instance : (e : ConnectionEvent Callback) → Decidable e.SendsOldestFirst
  | .call _ => isTrue trivial
  | .io _ e => inferInstanceAs (Decidable e.OldestFirst)

namespace Connection

variable {k : Word} {c c' : Connection Callback}

/-- The connection over the session when operations may fail: the session is
reachable, the pipe into each engine is safe for the commands the peer wrote,
and the engine's socket has handed it exactly the commands it read there. -/
structure SafeInv (k : Word) (c : Connection Callback) : Prop where
  reachable : Session.Reachable k c.session
  safe : ∀ r, (c.link r).Safe ((c.session.sent r.peer).map (·.command))
  handled : ∀ r, (c.link r).receiver.handled = (c.session.received r).map (·.command)

theorem safeInv_init : SafeInv k (init : Connection Callback) :=
  ⟨.init, fun _ => Pipe.fifo_connected.safe, fun _ => rfl⟩

namespace SafeInv

variable (h : SafeInv k c)
include h

theorem afterCall {e : SessionEvent Callback} (he : e.reads = false) {s : Session Callback}
    (hs : c.session.step k e = some s) (hframed : ∀ r, ∀ p ∈ s.sent r, WellFramed p.command) :
    SafeInv k (c.afterCall s) := by
  obtain ⟨r, p, rest, rfl, -, -⟩ | ⟨hreceived, hsent⟩ := Session.step_cases _ hs
  · simp [SessionEvent.reads] at he
  refine ⟨h.reachable.step hs, fun r => ?_, fun r => by simpa [hreceived] using h.handled r⟩
  rw [afterCall_link, afterCall_session, map_sent_eq (hsent r.peer)]
  exact (h.safe r).post (written_framed (hframed r.peer))

/-- An io step on the pipe into `r` leaves the pipe into the peer safe: it
moves neither the read nor the writes that pipe looks at, and can only close
the socket of `r`, which sends on it. -/
theorem safe_setLink {r : Role} {e : PipeEvent (Registration Callback)}
    {l : Pipe (Registration Callback)} (hl : (c.link r).step e = some l)
    (hsafe : l.Safe ((c.session.sent r.peer).map (·.command))) (r' : Role) :
    ((c.setLink r l).link r').Safe ((c.session.sent r'.peer).map (·.command)) := by
  obtain rfl | rfl : r' = r ∨ r' = r.peer := by cases r <;> cases r' <;> decide
  · simpa using hsafe
  · obtain ⟨hread, hhandled, hqueue, hwrites⟩ := Pipe.step_frame hl
    have hsocket : (c.link r.peer).sender = (c.link r).receiver := by simp [link]
    rw [setLink_link_peer]
    exact (h.safe r.peer).of_halves rfl rfl
      ⟨hsocket ▸ Pipe.isOpen_of_step hl, hsocket ▸ hqueue, hsocket ▸ hwrites⟩ ⟨hread, hhandled⟩

theorem setLink {r : Role} {e : PipeEvent (Registration Callback)}
    {l : Pipe (Registration Callback)} (hl : (c.link r).step e = some l)
    (hsafe : l.Safe ((c.session.sent r.peer).map (·.command))) {s : Session Callback}
    (hs : Session.Reachable k s) (hsent : s.sent = c.session.sent)
    (hhandled : l.receiver.handled = (s.received r).map (·.command))
    (hpeer : s.received r.peer = c.session.received r.peer) :
    SafeInv k { c.setLink r l with session := s } :=
  ⟨hs, fun r' => hsent ▸ h.safe_setLink hl hsafe r', handled_setLink hl h.handled hhandled hpeer⟩

variable [DecidableEq Callback]

/-- Every io step an oldest-first io_service can take, a failure included,
goes through and keeps the invariant. -/
theorem io {r : Role} {e : PipeEvent (Registration Callback)} (he : e.OldestFirst)
    (hw : e.written = []) {l : Pipe (Registration Callback)} (hl : (c.link r).step e = some l) :
    ∃ c', c.deliver r l = some c' ∧ SafeInv k c' := by
  have hsafe : l.Safe ((c.session.sent r.peer).map (·.command)) := by
    simpa [hw] using (h.safe r).step he (by simp [hw]) hl
  rcases Pipe.step_handled hl with hsame | ⟨command, hnew⟩
  · exact ⟨c.setLink r l, by simp [deliver, hsame],
      h.setLink hl hsafe h.reachable rfl (hsame.trans (h.handled r)) rfl⟩
  · obtain ⟨p, rest, hin, rfl⟩ := handed_head h.reachable (h.handled r) hsafe.handled hnew
    exact ⟨_, by simp [deliver, hnew, hin], h.setLink hl hsafe (s := c.session.handle r p rest)
      (h.reachable.step (e := .handleReadCommand r) (by simp [Session.step, hin])) rfl
      (by simp [hnew, h.handled r]) (by simp)⟩

theorem step {e : ConnectionEvent Callback} (he : e.SendsOldestFirst)
    (hstep : c.step k e = some c') (hframed : ∀ r, ∀ p ∈ c'.session.sent r, WellFramed p.command) :
    SafeInv k c' := by
  cases e with
  | call e =>
    simp only [Connection.step] at hstep
    split_ifs at hstep with hreads
    obtain ⟨s, hs, rfl⟩ := Option.map_eq_some'.mp hstep
    exact h.afterCall (by simpa using hreads) hs hframed
  | io r e =>
    simp only [Connection.step] at hstep
    split_ifs at hstep with hw
    obtain ⟨l, hl, hdeliver⟩ := Option.bind_eq_some.mp hstep
    obtain ⟨c'', hc'', hinv⟩ := h.io he (List.isEmpty_iff.mp hw) hl
    exact Option.some.inj (hc''.symm.trans hdeliver) ▸ hinv

theorem run {es : List (ConnectionEvent Callback)}
    (hsched : ∀ e ∈ es, e.SendsOldestFirst) (hrun : c.run k es = some c')
    (hframed : ∀ r, ∀ p ∈ c'.session.sent r, WellFramed p.command) : SafeInv k c' :=
  run_induction (fun h he hstep hframed => SafeInv.step h he hstep hframed) hsched h hrun hframed

end SafeInv

variable [DecidableEq Callback]

/-- With each io_service sending oldest first and every command written well
framed, the engines over their sockets refine the session even when reads and
writes fail.  After every run from two fresh engines, the session is one
`Session.step` can reach, each engine's socket has handed it exactly the
commands it read there, a prefix of those the peer wrote, and no io step the
sockets can take next is refused: a command a socket hands on is always the
oldest the peer wrote and the engine has not read. -/
theorem sockets_refine_session_despite_failures {es : List (ConnectionEvent Callback)}
    (hsched : ∀ e ∈ es, e.SendsOldestFirst) (hrun : init.run k es = some c)
    (hframed : ∀ r, ∀ p ∈ c.session.sent r, WellFramed p.command) :
    Session.Reachable k c.session ∧
      (∀ r, (c.link r).receiver.handled = (c.session.received r).map (·.command) ∧
        (c.link r).receiver.handled <+: (c.session.sent r.peer).map (·.command)) ∧
      ∀ r e l, e.OldestFirst → e.written = [] → (c.link r).step e = some l →
        ∃ c', c.step k (.io r e) = some c' := by
  have h := safeInv_init.run hsched hrun hframed
  refine ⟨h.reachable, fun r => ⟨h.handled r, (h.safe r).handled⟩, fun r e l he hw hl => ?_⟩
  obtain ⟨c', hc', -⟩ := h.io he hw hl
  exact ⟨c', by simp [Connection.step, hw, hl, hc']⟩

/-- The wired handshake, then the frame's read fails; the frame writes `BREAK`,
which its socket, closed by the failure, queues and never sends. -/
def readFailThenBreak : List (ConnectionEvent Unit) :=
  wiredHandshake ++
    [.io .frame .readFail, .call (.writeCommand .frame .break []), .io .context .doWrite]

def afterReadFail : Connection Unit :=
  ((init : Connection Unit).run 7 readFailThenBreak).getD init

theorem sockets_refine_session_despite_failures_read_fail :
    (∀ e ∈ readFailThenBreak, e.SendsOldestFirst) ∧
      (∀ r, ∀ p ∈ afterReadFail.session.sent r, WellFramed p.command) ∧
      (afterReadFail.socket .frame).isOpen = false ∧
      (Session.Reachable 7 afterReadFail.session ∧
        (∀ r, (afterReadFail.link r).receiver.handled =
            (afterReadFail.session.received r).map (·.command) ∧
          (afterReadFail.link r).receiver.handled <+:
            (afterReadFail.session.sent r.peer).map (·.command)) ∧
        ∀ r e l, e.OldestFirst → e.written = [] → (afterReadFail.link r).step e = some l →
          ∃ c', afterReadFail.step 7 (.io r e) = some c') :=
  have hsched : ∀ e ∈ readFailThenBreak, e.SendsOldestFirst := by decide
  have hframed : ∀ r, ∀ p ∈ afterReadFail.session.sent r, WellFramed p.command :=
    fun r => by cases r <;> decide
  have hrun : (init : Connection Unit).run 7 readFailThenBreak = some afterReadFail := rfl
  ⟨hsched, hframed, rfl, sockets_refine_session_despite_failures hsched hrun hframed⟩

end Connection

end Lldebug.Net
