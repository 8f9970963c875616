import Lldebug.Net.Session

/-!
# Command ids an engine allocates

`InitCommandHeader` with a zero `commandId` takes `m_commandIdCounter` and adds
two.  The counter starts at 1 (`StartContext`) or 2 (`StartFrame`) and is never
touched otherwise, so the `n`-th id an engine allocates is `seed + 2 n` modulo
`2^32`: odd for the context, even for the frame.  The sum wraps: the frame's
`2^31`-th id is 0, the value `WriteResponse` reads as "allocate", and from the
`2^31 + 1`-th on both engines repeat their ids.
-/

namespace Lldebug.Net.Session

variable {Callback : Type} {k : Word}

/-- The `n`-th id (from 0) an engine allocates after its `Start...` call. -/
def allocId (r : Role) (n : Nat) : Word :=
  r.seed + BitVec.ofNat 32 (2 * n)

/-- The ids engine `r` has allocated, in order: the `commandId`s of the
commands it wrote whose id `InitCommandHeader` took from the counter. -/
def allocatedIds (s : Session Callback) (r : Role) : List Word :=
  ((s.sent r).filter (·.allocated)).map (·.command.header.commandId)

theorem allocId_succ (r : Role) (n : Nat) : allocId r n + 2 = allocId r (n + 1) := by
  apply BitVec.eq_of_toNat_eq
  cases r <;> simp [allocId, Role.seed] <;> omega

theorem toNat_allocId (r : Role) (n : Nat) :
    (allocId r n).toNat = (r.seed.toNat + 2 * n) % 2 ^ 32 := by
  cases r <;> simp [allocId, Role.seed]

/-- The counter of each engine, and the ids it has allocated so far. -/
structure CounterInv (s : Session Callback) : Prop where
  unstarted : ∀ r, s.phase r = .idle → (s.engine r).hasSocket = false
  silent : ∀ r, (s.engine r).hasSocket = false → s.sent r = []
  counter : ∀ r, (s.engine r).hasSocket = true →
    (s.engine r).commandIdCounter = allocId r (s.allocatedIds r).length
  ids : ∀ r, s.allocatedIds r = (List.range (s.allocatedIds r).length).map (allocId r)

theorem counterInv_init : CounterInv (init : Session Callback) :=
  ⟨fun _ _ => rfl, fun _ _ => rfl, fun _ h => (by cases h), fun _ => rfl⟩

@[simp]
theorem allocatedIds_write (s : Session Callback) (r r' : Role)
    (e : RemoteEngine (Registration Callback)) (p : Packet Callback) :
    (s.write r e p).allocatedIds r' =
      if r' = r then s.allocatedIds r ++ (if p.allocated then [p.command.header.commandId] else [])
      else s.allocatedIds r' := by
  by_cases hr : r' = r
  · subst hr; cases hp : p.allocated <;> simp [allocatedIds, hp]
  · simp [allocatedIds, hr]

/-- Appending the next id keeps the list of allocated ids in the counter's
sequence. -/
theorem range_map_allocId_succ (r : Role) (n : Nat) :
    (List.range n).map (allocId r) ++ [allocId r n] = (List.range (n + 1)).map (allocId r) := by
  simp [List.range_succ]

theorem afterConnect_ne_idle (e : RemoteEngine (Registration Callback)) :
    afterConnect e ≠ .idle := by
  unfold afterConnect; split_ifs <;> simp

namespace CounterInv

variable {s : Session Callback} (h : CounterInv s)
include h

/-- An engine with a socket writes `p` and becomes `e`; the counter moved by
two exactly when `p`'s id was allocated, and an allocated id is the counter's. -/
theorem write {r : Role} {e : RemoteEngine (Registration Callback)} {p : Packet Callback}
    (hsock : (s.engine r).hasSocket = true) (he : e.hasSocket = true)
    (hcount : e.commandIdCounter = if p.allocated then (s.engine r).commandIdCounter + 2
      else (s.engine r).commandIdCounter)
    (hid : p.allocated = true → p.command.header.commandId = (s.engine r).commandIdCounter) :
    CounterInv (s.write r e p) := by
  have hc := h.counter r hsock
  refine ⟨fun r' hr' => ?_, fun r' hr' => ?_, fun r' hr' => ?_, fun r' => ?_⟩
  · by_cases hr : r' = r
    · subst hr; simp at hr'; simp [h.unstarted r' hr'] at hsock
    · simpa [hr] using h.unstarted r' hr'
  · by_cases hr : r' = r
    · subst hr; simp [he] at hr'
    · simpa [hr] using h.silent r' (by simpa [hr] using hr')
  · by_cases hr : r' = r
    · subst hr
      cases ha : p.allocated
      · simp [hcount, ha, hc]
      · simp only [Session.write_engine, Function.update_same, hcount, ha, hc, if_true,
          allocatedIds_write, List.length_append, List.length_singleton]
        exact allocId_succ _ _
    · simpa [hr] using h.counter r' (by simpa [hr] using hr')
  · by_cases hr : r' = r
    · subst hr
      cases ha : p.allocated
      · simpa [ha] using h.ids r'
      · rw [allocatedIds_write, if_pos rfl, if_pos ha, hid ha, hc, h.ids r']
        simp [range_map_allocId_succ]
    · simpa [hr] using h.ids r'

/-- Only the phases, the commands written and each engine's socket and counter
matter. -/
theorem of_eq {s' : Session Callback} (hphase : s'.phase = s.phase) (hsent : s'.sent = s.sent)
    (hsock : ∀ r, (s'.engine r).hasSocket = (s.engine r).hasSocket)
    (hcount : ∀ r, (s'.engine r).commandIdCounter = (s.engine r).commandIdCounter) :
    CounterInv s' := by
  have hids : ∀ r, s'.allocatedIds r = s.allocatedIds r := fun r => by
    simp only [allocatedIds, hsent]
  refine ⟨fun r hr => ?_, fun r hr => ?_, fun r hr => ?_, fun r => ?_⟩
  · rw [hsock]; exact h.unstarted r (hphase ▸ hr)
  · rw [hsent]; exact h.silent r (hsock r ▸ hr)
  · rw [hcount, hids]; exact h.counter r (hsock r ▸ hr)
  · rw [hids]; exact h.ids r

theorem setPhase {r : Role} {phase : StartPhase} (hphase : phase ≠ .idle) :
    CounterInv (s.setPhase r phase) := by
  refine ⟨fun r' hr' => ?_, h.silent, h.counter, h.ids⟩
  by_cases hr : r' = r
  · subst hr; simp [hphase] at hr'
  · exact h.unstarted r' (by simpa [hr] using hr')

theorem setEngine {r : Role} {e : RemoteEngine (Registration Callback)}
    (hsock : e.hasSocket = (s.engine r).hasSocket)
    (hcount : e.commandIdCounter = (s.engine r).commandIdCounter) :
    CounterInv (s.setEngine r e) :=
  h.of_eq rfl rfl (fun r' => by by_cases hr : r' = r <;> simp_all)
    (fun r' => by by_cases hr : r' = r <;> simp_all)

theorem startFrame (hidle : s.phase .frame = .idle) : CounterInv s.startFrame := by
  have hsent := h.silent .frame (h.unstarted .frame hidle)
  refine ⟨fun r hr => ?_, fun r hr => ?_, fun r hr => ?_, h.ids⟩ <;> cases r
  · simpa [Session.startFrame] using h.unstarted _ hr
  · exact absurd hr (afterConnect_ne_idle _)
  · simpa [Session.startFrame] using h.silent _ (by simpa [Session.startFrame] using hr)
  · simp [Session.startFrame] at hr
  · simpa [Session.startFrame] using h.counter _ (by simpa [Session.startFrame] using hr)
  · simp [Session.startFrame, allocatedIds, hsent, allocId, Role.seed]

theorem startContext (hidle : s.phase .context = .idle) (k : Word) :
    CounterInv (s.startContext k) := by
  have hsent := h.silent .context (h.unstarted .context hidle)
  have hids : (s.startContext k).allocatedIds .context = [1] := by
    simp [Session.startContext, allocatedIds, hsent, RemoteEngine.doStartConnection]
  refine ⟨fun r hr => ?_, fun r hr => ?_, fun r hr => ?_, fun r => ?_⟩ <;> cases r
  · exact absurd hr (afterConnect_ne_idle _)
  · simpa [Session.startContext] using h.unstarted _ hr
  · simp [Session.startContext, RemoteEngine.doStartConnection] at hr
  · simpa [Session.startContext] using h.silent _ (by simpa [Session.startContext] using hr)
  · rw [hids]
    simp [Session.startContext, RemoteEngine.doStartConnection, allocId, Role.seed]
  · simpa [Session.startContext] using h.counter _ (by simpa [Session.startContext] using hr)
  · rw [hids]; rfl
  · simpa [Session.startContext] using h.ids .frame

/-- Every event keeps the counters and the allocated ids in step. -/
theorem step {s' : Session Callback} {e : SessionEvent Callback}
    (hstep : s.step k e = some s') : CounterInv s' := by
  cases e <;> simp only [Session.step] at hstep
  case startContext connects =>
    split_ifs at hstep with hidle <;> cases hstep
    · exact h.startContext hidle k
    · exact h.setPhase (by simp)
  case startFrame connects =>
    split_ifs at hstep with hidle <;> cases hstep
    · exact h.startFrame hidle
    · exact h.setPhase (by simp)
  case wake r =>
    split_ifs at hstep
    cases hstep
    exact h.setPhase (by simp [waitResult])
  case writeCommand r type data =>
    split_ifs at hstep with hsock
    cases hstep
    exact h.write hsock (by simpa [RemoteEngine.writeCommand] using hsock)
      (by simp [RemoteEngine.writeCommand]) (by simp [RemoteEngine.writeCommand])
  case writeCommandWithResponse r type data response =>
    split_ifs at hstep with hsock
    cases hstep
    exact (h.write hsock (by simpa [RemoteEngine.writeCommandWithResponse] using hsock)
      (by simp [RemoteEngine.writeCommandWithResponse])
      (by simp [RemoteEngine.writeCommandWithResponse])).of_eq rfl rfl (fun _ => rfl) fun _ => rfl
  case writeResponse r i type data =>
    split at hstep
    · split_ifs at hstep with hsock
      cases hstep
      exact h.write hsock (by simpa [RemoteEngine.writeResponse] using hsock)
        (by split_ifs <;> simp_all [RemoteEngine.writeResponse])
        (by intro ha; simp_all [RemoteEngine.writeResponse])
    · cases hstep
  case handleReadCommand r =>
    split at hstep
    · cases hstep
      exact (h.setEngine (by simp) (by simp)).of_eq rfl rfl (fun _ => rfl) fun _ => rfl
    · cases hstep
  case popCommand r =>
    split at hstep <;> cases hstep
    exact (h.setEngine (r := r) (e := (s.engine r).popCommand) rfl rfl).of_eq rfl rfl
      (fun _ => rfl) fun _ => rfl

end CounterInv

theorem Reachable.counterInv {s : Session Callback} (hs : Reachable k s) : CounterInv s := by
  induction hs with
  | init => exact counterInv_init
  | step _ hstep ih => exact ih.step hstep

/-! ## What the 32-bit counter hands out -/

theorem allocId_parity (r : Role) (n : Nat) :
    (allocId r n).toNat % 2 = if r = .context then 1 else 0 := by
  cases r <;> simp [toNat_allocId, Role.seed] <;> omega

theorem allocId_eq_zero_iff (r : Role) (n : Nat) :
    allocId r n = 0 ↔ r = .frame ∧ n % 2 ^ 31 = 2 ^ 31 - 1 := by
  rw [BitVec.toNat_eq, toNat_allocId]
  cases r <;> simp [Role.seed] <;> omega

theorem allocId_eq_allocId_iff (r : Role) {m n : Nat} (hmn : m < n) :
    allocId r m = allocId r n ↔ 2 ^ 31 ∣ n - m := by
  rw [BitVec.toNat_eq, toNat_allocId, toNat_allocId]
  cases r <;> simp [Role.seed] <;> omega

/-- In every reachable session, the `i`-th id an engine has allocated is odd for
the context and even for the frame; it is 0 exactly when the engine is the frame
and `i ≡ 2^31 - 1 (mod 2^31)`; and it equals an earlier `j`-th exactly when
`2^31` divides `i - j`.  So ids are nonzero and fresh for the first `2^31 - 1`
allocations, and not after. -/
theorem allocatedIds_parity_zero_repeat {s : Session Callback} (hs : Reachable k s) (r : Role) :
    (∀ x ∈ s.allocatedIds r, x.toNat % 2 = if r = .context then 1 else 0) ∧
    (∀ i (hi : i < (s.allocatedIds r).length),
      (s.allocatedIds r)[i] = 0 ↔ r = .frame ∧ i % 2 ^ 31 = 2 ^ 31 - 1) ∧
    (∀ j i (hj : j < (s.allocatedIds r).length) (hi : i < (s.allocatedIds r).length), j < i →
      ((s.allocatedIds r)[j] = (s.allocatedIds r)[i] ↔ 2 ^ 31 ∣ i - j)) := by
  have hids := hs.counterInv.ids r
  have hget : ∀ i (hi : i < (s.allocatedIds r).length), (s.allocatedIds r)[i] = allocId r i :=
    fun i hi => by simp only [List.getElem_of_eq hids, List.getElem_map, List.getElem_range]
  refine ⟨fun x hx => ?_, fun i hi => ?_, fun j i hj hi hji => ?_⟩
  · rw [hids] at hx
    obtain ⟨n, -, rfl⟩ := List.mem_map.mp hx
    exact allocId_parity r n
  · rw [hget, allocId_eq_zero_iff]
  · rw [hget, hget, allocId_eq_allocId_iff r hji]

theorem allocatedIds_parity_zero_repeat_after_handshake :
    Reachable 7 afterHandshake ∧
    ((∀ x ∈ afterHandshake.allocatedIds .frame, x.toNat % 2 = if Role.frame = .context then 1 else 0) ∧
    (∀ i (hi : i < (afterHandshake.allocatedIds .frame).length),
      (afterHandshake.allocatedIds .frame)[i] = 0 ↔ Role.frame = .frame ∧ i % 2 ^ 31 = 2 ^ 31 - 1) ∧
    (∀ j i (hj : j < (afterHandshake.allocatedIds .frame).length)
      (hi : i < (afterHandshake.allocatedIds .frame).length), j < i →
      ((afterHandshake.allocatedIds .frame)[j] = (afterHandshake.allocatedIds .frame)[i] ↔
        2 ^ 31 ∣ i - j))) :=
  ⟨reachable_afterHandshake, allocatedIds_parity_zero_repeat reachable_afterHandshake .frame⟩

/-- Each `WriteCommand` of a started frame engine allocates one more id. -/
theorem exists_reachable_frame_allocations (n : Nat) :
    ∃ s : Session Unit, Reachable k s ∧ (s.engine .frame).hasSocket = true ∧
      (s.allocatedIds .frame).length = n := by
  induction n with
  | zero =>
    exact ⟨init.startFrame, Reachable.init.step (e := .startFrame true) rfl, rfl, rfl⟩
  | succ n ih =>
    obtain ⟨s, hs, hsock, hlen⟩ := ih
    let w := (s.engine .frame).writeCommand .changedState []
    refine ⟨s.write .frame w.1 ⟨w.2, none, true⟩,
      hs.step (e := .writeCommand .frame .changedState []) (by simp [Session.step, hsock, w]),
      by simpa [w, RemoteEngine.writeCommand] using hsock, by simp [hlen]⟩

/-- After `2^31` allocations the frame engine has handed out the id 0. -/
theorem frame_allocates_zero : ∃ s : Session Unit, Reachable 7 s ∧ 0 ∈ s.allocatedIds .frame := by
  obtain ⟨s, hs, -, hlen⟩ := exists_reachable_frame_allocations (k := 7) (2 ^ 31)
  have hids := hs.counterInv.ids .frame
  refine ⟨s, hs, ?_⟩
  rw [hids, hlen, List.mem_map]
  exact ⟨2 ^ 31 - 1, List.mem_range.mpr (by omega), (allocId_eq_zero_iff _ _).mpr ⟨rfl, by omega⟩⟩

end Lldebug.Net.Session
