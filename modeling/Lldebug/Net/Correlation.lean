import Lldebug.Net.CommandId

/-!
# Which command a continuation is attached to

`WriteCommand(type, data, response)` puts the request in
`m_waitResponseCommandList`; `HandleReadCommand` takes out the first entry whose
`ctxId` and `commandId` match an arriving command and hands its continuation on
with that command.  A reply carries the request's id back, because
`WriteResponse` passes the id it answers to `InitCommandHeader`, which keeps a
nonzero id.

Each continuation is attached at most once, and never to a fresh request of the
peer: the ids the context allocates are odd and the frame's even.  But the match
looks at `ctxId` and `commandId` only, and `WriteResponse` answers any command
read, a reply included, under that command's id.  So the command a continuation
is attached to is a reply of the peer to some command carrying the request's
id, which need not be the request.
-/

namespace Lldebug.Net.Session

variable {Callback : Type} {k : Word}

/-- `x` is odd for the context and even for the frame, as the ids each engine
allocates are. -/
def HasParity (r : Role) (x : Word) : Prop :=
  x.toNat % 2 = r.seed.toNat % 2

instance (r : Role) (x : Word) : Decidable (HasParity r x) :=
  inferInstanceAs (Decidable (_ = _))

theorem hasParity_allocId (r : Role) (n : Nat) : HasParity r (allocId r n) := by
  cases r <;> simp [HasParity, toNat_allocId, Role.seed] <;> omega

theorem not_hasParity_peer {r : Role} {x : Word} (h : HasParity r x) : ¬ HasParity r.peer x := by
  cases r <;> simp_all [HasParity, Role.peer, Role.seed]

theorem CounterInv.hasParity_counter {s : Session Callback} (hc : CounterInv s) {r : Role}
    (hsock : (s.engine r).hasSocket = true) : HasParity r (s.engine r).commandIdCounter :=
  hc.counter r hsock ▸ hasParity_allocId r _

/-- Where the `commandId` of a command engine `r` wrote comes from: its own
counter, or the command of the peer it answers, whose id it kept. -/
def Origin (s : Session Callback) (r : Role) (p : Packet Callback) : Prop :=
  (p.allocated = true → HasParity r p.command.header.commandId) ∧
  (p.allocated = false → ∃ q ∈ s.sent r.peer,
    p.respondsTo = some q.command.header ∧ p.command.header.commandId = q.command.header.commandId)

/-- What `HandleReadCommand` of `a.role` attached a continuation to: a command
the peer wrote with `WriteResponse` under an id it did not allocate, with the
request's `ctxId` and `commandId`, in answer to a command of `a.role` with that
id. -/
def Attached (s : Session Callback) (a : Attachment Callback) : Prop :=
  a.packet ∈ s.sent a.role.peer ∧ a.packet.allocated = false ∧
    a.packet.command.header.ctxId = a.entry.header.ctxId ∧
    a.packet.command.header.commandId = a.entry.header.commandId ∧
    ∃ q ∈ s.sent a.role, a.packet.respondsTo = some q.command.header ∧
      q.command.header.commandId = a.entry.header.commandId

/-- The requests waiting in either engine. -/
def waiting (engine : Role → RemoteEngine (Registration Callback)) :
    List (WaitResponseCommand (Registration Callback)) :=
  (engine .context).waitResponseCommandList ++ (engine .frame).waitResponseCommandList

/-- The serials of the registrations still waiting, then of those attached. -/
def serials (s : Session Callback) : List Nat :=
  (waiting s.engine ++ s.attachments.map (·.entry)).map (·.response.serial)

/-- Engine `r` becoming `e` changes the requests waiting as it changes `r`'s. -/
theorem waiting_update_perm {engine : Role → RemoteEngine (Registration Callback)} {r : Role}
    {e : RemoteEngine (Registration Callback)} {l m : List (WaitResponseCommand (Registration Callback))}
    (hperm : (e.waitResponseCommandList ++ l).Perm ((engine r).waitResponseCommandList ++ m)) :
    (waiting (Function.update engine r e) ++ l).Perm (waiting engine ++ m) := by
  classical
  rw [List.perm_iff_count] at hperm ⊢
  intro x
  have hx := hperm x
  cases r <;> simp only [waiting, List.count_append, Function.update_apply, reduceCtorEq,
    if_true, if_false] at hx ⊢ <;> omega

/-- The serials after engine `r` becomes `e` and the attachments grow by `l`:
those before, but for what `r`'s waiting list gained or lost. -/
theorem serials_perm {s : Session Callback} (s' : Session Callback) {r : Role}
    {e : RemoteEngine (Registration Callback)} {l m : List (WaitResponseCommand (Registration Callback))}
    (hengine : s'.engine = Function.update s.engine r e)
    (hperm : (e.waitResponseCommandList ++ l).Perm ((s.engine r).waitResponseCommandList ++ m))
    (hatt : s'.attachments.map (·.entry) = s.attachments.map (·.entry) ++ l) :
    (serials s').Perm (serials s ++ m.map (·.response.serial)) := by
  classical
  have hw := waiting_update_perm hperm
  rw [← hengine, List.perm_iff_count] at hw
  rw [serials, serials, ← List.map_append]
  refine List.Perm.map _ (List.perm_iff_count.mpr fun x => ?_)
  have hx := hw x
  simp only [hatt, List.count_append] at hx ⊢
  omega

/-- Engine `r` becoming `e` keeps every waiting request at its engine's parity
when `e`'s requests have `r`'s. -/
theorem waitingParity_update {engine : Role → RemoteEngine (Registration Callback)} {r : Role}
    {e : RemoteEngine (Registration Callback)}
    (hwaiting : ∀ r, ∀ w ∈ (engine r).waitResponseCommandList, HasParity r w.header.commandId)
    (he : ∀ w ∈ e.waitResponseCommandList, HasParity r w.header.commandId) (r' : Role) :
    ∀ w ∈ (Function.update engine r e r').waitResponseCommandList, HasParity r' w.header.commandId := by
  by_cases hr : r' = r
  · subst hr; simpa using he
  · simpa [hr] using hwaiting r'

theorem mem_sent_write {s : Session Callback} {r r' : Role} {e : RemoteEngine (Registration Callback)}
    {p q : Packet Callback} (hq : q ∈ s.sent r') : q ∈ (s.write r e p).sent r' := by
  by_cases hr : r' = r
  · subst hr; simp [hq]
  · simpa [hr] using hq

theorem Origin.write {s : Session Callback} {r r' : Role} {e : RemoteEngine (Registration Callback)}
    {p q : Packet Callback} (ho : Origin s r' q) : Origin (s.write r e p) r' q :=
  ⟨ho.1, fun hal => (ho.2 hal).imp fun _ ⟨hq, hq'⟩ => ⟨mem_sent_write hq, hq'⟩⟩

theorem Attached.write {s : Session Callback} {r : Role} {e : RemoteEngine (Registration Callback)}
    {p : Packet Callback} {a : Attachment Callback} (ha : Attached s a) :
    Attached (s.write r e p) a :=
  ⟨mem_sent_write ha.1, ha.2.1, ha.2.2.1, ha.2.2.2.1,
    ha.2.2.2.2.imp fun _ ⟨hq, hq'⟩ => ⟨mem_sent_write hq, hq'⟩⟩

theorem origin_of_allocated {s : Session Callback} {r : Role} {p : Packet Callback}
    (hal : p.allocated = true) (hpar : HasParity r p.command.header.commandId) : Origin s r p :=
  ⟨fun _ => hpar, fun h => by simp [hal] at h⟩

/-- The commands of each engine reach the other in the order written, every
command's id comes from where `Origin` says, waiting requests have their
engine's parity, registrations are attached at most once, and every attachment
is as `Attached` says. -/
structure CorrelationInv (s : Session Callback) : Prop where
  fifo : ∀ r, s.received r ++ s.inbox r = s.sent r.peer
  origin : ∀ r, ∀ p ∈ s.sent r, Origin s r p
  waiting_parity : ∀ r, ∀ w ∈ (s.engine r).waitResponseCommandList, HasParity r w.header.commandId
  serials_nodup : (serials s).Nodup
  serials_lt : ∀ n ∈ serials s, n < s.registrations
  attached : ∀ a ∈ s.attachments, Attached s a

theorem correlationInv_init : CorrelationInv (init : Session Callback) :=
  ⟨fun _ => rfl, fun _ _ h => (List.not_mem_nil _ h).elim, fun _ _ h => (List.not_mem_nil _ h).elim,
    List.nodup_nil, fun _ h => (List.not_mem_nil _ h).elim, fun _ h => (List.not_mem_nil _ h).elim⟩

namespace CorrelationInv

variable {s : Session Callback} (h : CorrelationInv s)
include h

/-- A command `r` reads is one the peer wrote. -/
theorem mem_sent_of_received {r : Role} {p : Packet Callback} (hp : p ∈ s.received r) :
    p ∈ s.sent r.peer :=
  h.fifo r ▸ List.mem_append_left _ hp

/-- The request a command matches has `r`'s parity, so the command is not a
fresh one of the peer: it is a reply, to a command of `r` with the request's
id. -/
theorem attached_of_findResponse {r : Role} {p : Packet Callback}
    {w : WaitResponseCommand (Registration Callback)} {rest : List (WaitResponseCommand _)}
    (hp : p ∈ s.sent r.peer)
    (hfound : RemoteEngine.findResponse p.command (s.engine r).waitResponseCommandList =
      some (w, rest)) :
    Attached s ⟨r, w, p⟩ := by
  obtain ⟨hperm, hctx, hid⟩ := RemoteEngine.findResponse_eq_some _ hfound
  have hw := h.waiting_parity r w (hperm.subset (List.mem_cons_self _ _))
  have hal : p.allocated = false := by
    cases hal : p.allocated
    · rfl
    · exact absurd (hid ▸ (h.origin r.peer p hp).1 hal) (not_hasParity_peer hw)
  obtain ⟨q, hq, hresp, hqid⟩ := (h.origin r.peer p hp).2 hal
  rw [Role.peer_peer] at hq
  exact ⟨hp, hal, hctx, hid, q, hq, hresp, hqid ▸ hid⟩

/-- Only the commands written and read, the waiting lists, the attachments and
the count of registrations matter. -/
theorem of_eq {s' : Session Callback} (hsent : s'.sent = s.sent) (hinbox : s'.inbox = s.inbox)
    (hreceived : s'.received = s.received)
    (hwaiting : ∀ r, (s'.engine r).waitResponseCommandList = (s.engine r).waitResponseCommandList)
    (hatt : s'.attachments = s.attachments) (hreg : s'.registrations = s.registrations) :
    CorrelationInv s' := by
  have hserials : serials s' = serials s := by simp only [serials, waiting, hwaiting, hatt]
  refine ⟨?_, ?_, ?_, ?_, ?_, ?_⟩
  · rw [hsent, hinbox, hreceived]; exact h.fifo
  · simpa only [Origin, hsent] using h.origin
  · simpa only [hwaiting] using h.waiting_parity
  · rw [hserials]; exact h.serials_nodup
  · rw [hserials, hreg]; exact h.serials_lt
  · simpa only [Attached, hsent, hatt] using h.attached

theorem setPhase (r : Role) (phase : StartPhase) : CorrelationInv (s.setPhase r phase) :=
  h.of_eq rfl rfl rfl (fun _ => rfl) rfl rfl

theorem setEngine {r : Role} {e : RemoteEngine (Registration Callback)}
    (he : e.waitResponseCommandList = (s.engine r).waitResponseCommandList) :
    CorrelationInv (s.setEngine r e) :=
  h.of_eq rfl rfl rfl (fun r' => by by_cases hr : r' = r <;> simp_all) rfl rfl

theorem fifo_write (r : Role) (e : RemoteEngine (Registration Callback)) (p : Packet Callback)
    (r' : Role) : (s.write r e p).received r' ++ (s.write r e p).inbox r' =
      (s.write r e p).sent r'.peer := by
  by_cases hr : r' = r.peer
  · have hfifo := h.fifo r.peer
    rw [Role.peer_peer] at hfifo
    subst hr; simp [← hfifo]
  · have hr' : r'.peer ≠ r := fun h' => hr (h' ▸ (Role.peer_peer r').symm)
    simpa [hr, hr'] using h.fifo r'

theorem origin_write {r : Role} {e : RemoteEngine (Registration Callback)} {p : Packet Callback}
    (hp : Origin s r p) (r' : Role) : ∀ q ∈ (s.write r e p).sent r', Origin (s.write r e p) r' q := by
  intro q hq
  by_cases hr : r' = r
  · subst hr
    simp only [write_sent, Function.update_same, List.mem_append, List.mem_singleton] at hq
    rcases hq with hq | rfl
    · exact (h.origin r' q hq).write
    · exact hp.write
  · exact (h.origin r' q (by simpa [hr] using hq)).write

/-- A write that leaves the engine's waiting list alone. -/
theorem write {r : Role} {e : RemoteEngine (Registration Callback)} {p : Packet Callback}
    (he : e.waitResponseCommandList = (s.engine r).waitResponseCommandList) (hp : Origin s r p) :
    CorrelationInv (s.write r e p) := by
  have hperm : (serials (s.write r e p)).Perm (serials s) := by
    simpa using serials_perm (s.write r e p) (l := []) (m := []) rfl (by rw [he]) (by simp)
  exact ⟨h.fifo_write r e p, h.origin_write hp,
    waitingParity_update h.waiting_parity fun w hw => h.waiting_parity r w (he ▸ hw),
    hperm.nodup_iff.mpr h.serials_nodup, fun n hn => h.serials_lt n (hperm.subset hn),
    fun a ha => (h.attached a ha).write⟩

/-- A write that registers the next continuation with the request written. -/
theorem register (response : Callback) {r : Role} {e : RemoteEngine (Registration Callback)}
    {p : Packet Callback}
    (he : e.waitResponseCommandList = (s.engine r).waitResponseCommandList ++
      [⟨p.command.header, ⟨s.registrations, response⟩⟩])
    (hp : Origin s r p) (hpar : HasParity r p.command.header.commandId) :
    CorrelationInv { s.write r e p with registrations := s.registrations + 1 } := by
  dsimp only
  have hperm : (serials (s.write r e p)).Perm (serials s ++ [s.registrations]) := by
    simpa using serials_perm (s.write r e p) (l := []) (m := [⟨p.command.header, ⟨s.registrations, response⟩⟩])
      rfl (by rw [he, List.append_nil]) (by simp)
  have hfresh : s.registrations ∉ serials s := fun hn => (h.serials_lt _ hn).false
  have hwaiting : ∀ w ∈ e.waitResponseCommandList, HasParity r w.header.commandId := by
    rw [he]
    exact List.forall_mem_append.mpr ⟨h.waiting_parity r, List.forall_mem_singleton.mpr hpar⟩
  refine ⟨h.fifo_write r e p, h.origin_write (e := e) hp, waitingParity_update h.waiting_parity hwaiting,
    hperm.nodup_iff.mpr (List.concat_eq_append _ _ ▸ h.serials_nodup.concat hfresh),
    fun n hn => ?_, fun a ha => (h.attached a ha).write (e := e) (p := p)⟩
  · rcases List.mem_append.mp (hperm.subset hn) with hn | hn
    · exact Nat.lt_succ_of_lt (h.serials_lt n hn)
    · rw [List.mem_singleton.mp hn]; exact Nat.lt_succ_self _

/-- `WriteResponse` answers a command the engine has read: under that command's
id, which the peer wrote, or under a fresh id from the counter. -/
theorem origin_writeResponse (hc : CounterInv s) {r : Role} {p : Packet Callback}
    (hp : p ∈ s.received r) (hsock : (s.engine r).hasSocket = true) (type : RemoteCommandType)
    (data : List Byte) :
    Origin s r ⟨((s.engine r).writeResponse p.command type data).2, some p.command.header,
      p.command.header.commandId == 0⟩ := by
  by_cases hz : p.command.header.commandId = 0
  · exact origin_of_allocated (by simp [hz])
      (by simpa [RemoteEngine.writeResponse, hz] using hc.hasParity_counter hsock)
  · exact ⟨fun hal => absurd (beq_iff_eq.mp hal) hz, fun _ => ⟨p, h.mem_sent_of_received hp, rfl,
      by simpa [RemoteEngine.writeResponse] using fun h0 => absurd h0 hz⟩⟩

/-- `HandleReadCommand` of the oldest command that has arrived. -/
theorem handle {r : Role} {p : Packet Callback} {rest : List (Packet Callback)}
    (hin : s.inbox r = p :: rest) : CorrelationInv (s.handle r p rest) := by
  have hp : p ∈ s.sent r.peer := by rw [← h.fifo r, hin]; simp
  obtain ⟨l, hperm, hatt⟩ : ∃ l,
      (((s.engine r).handleReadCommand p.command).waitResponseCommandList ++ l).Perm
        ((s.engine r).waitResponseCommandList ++ []) ∧
      (s.handle r p rest).attachments.map (·.entry) = s.attachments.map (·.entry) ++ l := by
    cases hfound : RemoteEngine.findResponse p.command (s.engine r).waitResponseCommandList with
    | none => exact ⟨[], by simp [hfound], by simp [hfound]⟩
    | some found =>
      refine ⟨[found.1], ?_, by simp [hfound]⟩
      simpa [hfound] using (List.perm_append_singleton _ _).trans
        (RemoteEngine.findResponse_eq_some _ hfound).1
  have hserials : (serials (s.handle r p rest)).Perm (serials s) := by
    simpa using serials_perm (s.handle r p rest) rfl hperm hatt
  refine ⟨fun r' => ?_, h.origin, waitingParity_update h.waiting_parity fun w hw =>
      h.waiting_parity r w (by simpa using hperm.subset (List.mem_append_left l hw)),
    hserials.nodup_iff.mpr h.serials_nodup, fun n hn => h.serials_lt n (hserials.subset hn),
    fun a ha => ?_⟩
  · by_cases hr : r' = r
    · subst hr; simp [← h.fifo r', hin]
    · simpa [hr] using h.fifo r'
  · simp only [handle_attachments, List.mem_append, Option.mem_toList, Option.mem_def,
      Option.map_eq_some'] at ha
    rcases ha with ha | ⟨⟨w, rest'⟩, hfound, rfl⟩
    · exact h.attached a ha
    · exact h.attached_of_findResponse hp hfound

/-- Every event keeps the correlation facts, the counters' invariant given. -/
theorem step (hc : CounterInv s) {s' : Session Callback} {e : SessionEvent Callback}
    (hstep : s.step k e = some s') : CorrelationInv s' := by
  cases e <;> simp only [Session.step] at hstep
  case startContext connects =>
    split_ifs at hstep <;> cases hstep
    · exact (h.write (by simp [RemoteEngine.doStartConnection]) (origin_of_allocated rfl
        (by simp [RemoteEngine.doStartConnection]; decide))).setPhase _ _
    · exact h.setPhase _ _
  case startFrame connects =>
    split_ifs at hstep <;> cases hstep
    · unfold Session.startFrame
      exact (h.setEngine (by rfl)).setPhase _ _
    · exact h.setPhase _ _
  case wake r =>
    split_ifs at hstep
    cases hstep
    exact h.setPhase _ _
  case writeCommand r type data =>
    split_ifs at hstep with hsock
    cases hstep
    exact h.write (by simp [RemoteEngine.writeCommand]) (origin_of_allocated rfl
      (by simpa [RemoteEngine.writeCommand] using hc.hasParity_counter hsock))
  case writeCommandWithResponse r type data response =>
    split_ifs at hstep with hsock
    cases hstep
    have hpar := hc.hasParity_counter hsock
    exact h.register response (by simp [RemoteEngine.writeCommandWithResponse])
      (origin_of_allocated rfl (by simpa [RemoteEngine.writeCommandWithResponse] using hpar))
      (by simpa [RemoteEngine.writeCommandWithResponse] using hpar)
  case writeResponse r i type data =>
    split at hstep
    · rename_i p hget
      split_ifs at hstep with hsock
      cases hstep
      exact h.write (by simp [RemoteEngine.writeResponse])
        (h.origin_writeResponse hc (List.getElem?_mem hget) hsock type data)
    · cases hstep
  case handleReadCommand r =>
    split at hstep
    · cases hstep; exact h.handle ‹_›
    · cases hstep
  case popCommand r =>
    split at hstep <;> cases hstep
    exact (h.setEngine (r := r) (e := (s.engine r).popCommand) rfl).of_eq rfl rfl rfl
      (fun _ => rfl) rfl rfl

end CorrelationInv

theorem Reachable.correlationInv {s : Session Callback} (hs : Reachable k s) :
    CorrelationInv s := by
  induction hs with
  | init => exact correlationInv_init
  | step hs hstep ih => exact ih.step hs.counterInv hstep

/-- The context writes `EVAL` with a continuation before its `m_ctxId` is set,
so the request carries `ctxId` -1, and the frame's reply, carrying 7, matches
nothing.  The context answers that reply and ends the connection, which puts
the frame's `m_ctxId` back to -1; the frame then answers the context's answer,
under the request's id and with `ctxId` -1, and that matches. -/
def replyChain : List (SessionEvent Unit) :=
  [.startContext true, .startFrame true, .writeCommandWithResponse .context .eval [] (),
    .handleReadCommand .frame, .handleReadCommand .frame, .writeResponse .frame 1 .successed [],
    .handleReadCommand .context, .writeResponse .context 0 .successed [],
    .writeCommand .context .endConnection [], .handleReadCommand .frame,
    .handleReadCommand .frame, .writeResponse .frame 2 .successed [], .handleReadCommand .context]

def afterReplyChain : Session Unit :=
  ((init : Session Unit).run 7 replyChain).getD init

theorem reachable_afterReplyChain : Reachable 7 afterReplyChain :=
  Reachable.init.run replyChain rfl

/-- In every reachable session no registration is attached twice; the command a
continuation goes with is a reply of the peer with the request's `ctxId` and
`commandId`, answering a command of the engine with that id; and a command
whose id the peer allocated leaves the waiting list as it was. -/
theorem continuation_attached_once_to_reply {s : Session Callback} (hs : Reachable k s) :
    (s.attachments.map (·.entry.response.serial)).Nodup ∧
    (∀ a ∈ s.attachments, Attached s a) ∧
    ∀ r p rest, s.inbox r = p :: rest → p.allocated = true →
      ((s.engine r).handleReadCommand p.command).waitResponseCommandList =
        (s.engine r).waitResponseCommandList := by
  have h := hs.correlationInv
  refine ⟨?_, h.attached, fun r p rest hin hal => ?_⟩
  · have hnodup := h.serials_nodup
    rw [serials, List.map_append, List.map_map] at hnodup
    exact hnodup.sublist (List.sublist_append_right _ _)
  · have hp : p ∈ s.sent r.peer := by rw [← h.fifo r, hin]; simp
    cases hfound : RemoteEngine.findResponse p.command (s.engine r).waitResponseCommandList with
    | none => simp [hfound]
    | some found =>
      obtain ⟨w, rest'⟩ := found
      exact absurd (h.attached_of_findResponse hp hfound).2.1 (by simp [hal])

theorem continuation_attached_once_to_reply_after_reply_chain :
    Reachable 7 afterReplyChain ∧
    ((afterReplyChain.attachments.map (·.entry.response.serial)).Nodup ∧
    (∀ a ∈ afterReplyChain.attachments, Attached afterReplyChain a) ∧
    ∀ r p rest, afterReplyChain.inbox r = p :: rest → p.allocated = true →
      ((afterReplyChain.engine r).handleReadCommand p.command).waitResponseCommandList =
        (afterReplyChain.engine r).waitResponseCommandList) :=
  ⟨reachable_afterReplyChain, continuation_attached_once_to_reply reachable_afterReplyChain⟩

/-- The continuation of the context's `EVAL` goes with the frame's answer to the
context's own reply, not with an answer to the `EVAL`. -/
theorem continuation_attached_to_reply_of_reply :
    ∃ s : Session Unit, Reachable 7 s ∧
      ∃ a ∈ s.attachments, a.packet.respondsTo ≠ some a.entry.header :=
  ⟨afterReplyChain, reachable_afterReplyChain, by decide⟩

end Lldebug.Net.Session
