import Lldebug.Net.Command

/-!
# `FrameSocket`: where each connect attempt goes

The constructor resolves the query into `m_endpointIterator`.  `Start` connects
to `*m_endpointIterator` and binds the iterator into `handleConnect`; after a
failed attempt `handleConnect` closes the socket and connects again to
`*endpointIterator`, binding the same iterator.  Nothing advances the iterator
(the test against the end iterator is commented out), so every attempt goes to
the first endpoint the resolver returned.

A resolver iterator is the list of endpoints from it to the end: the end
iterator is `[]`, and dereferencing is `head?`, `none` at the end iterator.
The wait loop of `Start` only runs completion handlers, so a run is `Start`
followed by the outcomes of the connects, in order.
-/

namespace Lldebug.Net

/-- `tcp::resolver::iterator`: the endpoints from the iterator to the end. -/
abbrev ResolverIterator (Endpoint : Type) := List Endpoint

structure FrameSocket (Endpoint : Type) where
  /-- `m_endpointIterator`. -/
  endpointIterator : ResolverIterator Endpoint
  /-- The outstanding `async_connect`: the iterator bound into its `handleConnect`. -/
  connecting : Option (ResolverIterator Endpoint)
  /-- `Connected()` has been called. -/
  connected : Bool
  /-- The endpoint of each `async_connect` issued, in order; `none` where the
  end iterator was dereferenced. -/
  attempts : List (Option Endpoint)
  deriving DecidableEq, Repr

namespace FrameSocket

variable {Endpoint : Type}

/-- The constructor, `resolver.resolve(query)` having returned `endpoints`. -/
def create (endpoints : List Endpoint) : FrameSocket Endpoint :=
  ⟨endpoints, none, false, []⟩

/-- `GetSocket().async_connect(endpoint, handleConnect(_, endpointIterator))`. -/
def asyncConnect (sock : FrameSocket Endpoint) (endpoint : Option Endpoint)
    (endpointIterator : ResolverIterator Endpoint) : FrameSocket Endpoint :=
  { sock with connecting := some endpointIterator, attempts := sock.attempts ++ [endpoint] }

/-- `Start(waitSeconds)`: connect to `*m_endpointIterator`. -/
def start (sock : FrameSocket Endpoint) : FrameSocket Endpoint :=
  let endpointIterator := sock.endpointIterator
  sock.asyncConnect endpointIterator.head? endpointIterator

/-- `handleConnect(error, endpointIterator)`: on success `Connected()`;
otherwise close the socket and connect to `*endpointIterator` again. -/
def handleConnect (sock : FrameSocket Endpoint) (error : Bool)
    (endpointIterator : ResolverIterator Endpoint) : FrameSocket Endpoint :=
  if !error then { sock with connected := true }
  else
    let endpoint := endpointIterator.head?
    sock.asyncConnect endpoint endpointIterator

/-- The outstanding connect completes, with an error or not, and its
`handleConnect` runs. -/
def complete (sock : FrameSocket Endpoint) (error : Bool) : FrameSocket Endpoint :=
  match sock.connecting with
  | some endpointIterator => ({ sock with connecting := none }).handleConnect error endpointIterator
  | none => sock

/-- The connects complete with the given errors, in turn. -/
def run (sock : FrameSocket Endpoint) : List Bool → FrameSocket Endpoint
  | [] => sock
  | error :: errors => (sock.complete error).run errors

/-- Attempts in round-robin order over the endpoints: `e0, e1, …, e(n-1), e0, …`. -/
def roundRobinAttempts (endpoints : List Endpoint) (count : Nat) : List (Option Endpoint) :=
  (List.range count).map fun i => endpoints[i % endpoints.length]?

theorem run_of_connecting_none {sock : FrameSocket Endpoint} (h : sock.connecting = none)
    (errors : List Bool) : sock.run errors = sock := by
  induction errors with
  | nil => rfl
  | cons error errors ih => simpa [run, complete, h] using ih

/-- Each failure before the first success issues one more connect, to the
endpoint of the same iterator. -/
theorem attempts_run {sock : FrameSocket Endpoint} {endpointIterator : ResolverIterator Endpoint}
    (h : sock.connecting = some endpointIterator) (errors : List Bool) :
    (sock.run errors).attempts =
      sock.attempts ++ List.replicate (errors.takeWhile id).length endpointIterator.head? := by
  induction errors generalizing sock with
  | nil => simp [run]
  | cons error errors ih =>
    cases error
    · rw [run, run_of_connecting_none (by simp [complete, h, handleConnect])]
      simp [complete, h, handleConnect]
    · rw [run, ih (by simp [complete, h, handleConnect, asyncConnect])]
      simp [complete, h, handleConnect, asyncConnect, List.replicate_succ]

/-- Every connect goes to the first endpoint the resolver returned: `Start`'s,
and one more for each failure before the first success. -/
theorem attempts_start_run (endpoints : List Endpoint) (errors : List Bool) :
    ((create endpoints).start.run errors).attempts =
      List.replicate ((errors.takeWhile id).length + 1) endpoints.head? := by
  rw [attempts_run rfl]
  simp [create, start, asyncConnect, List.replicate_succ]

/-- With at least one endpoint, no connect dereferences the end iterator. -/
theorem none_not_mem_attempts {endpoints : List Endpoint} (hne : endpoints ≠ [])
    (errors : List Bool) : none ∉ ((create endpoints).start.run errors).attempts := by
  obtain ⟨endpoint, rest, rfl⟩ := List.exists_cons_of_ne_nil hne
  rw [attempts_run rfl]
  simp [create, start, asyncConnect, List.mem_replicate]

/-- With two endpoints and one failure, the second connect goes to the first
endpoint again, where the round-robin order asks for the second. -/
theorem handleConnect_retries_first_endpoint :
    ((create [0, 1]).start.run [true]).attempts = [some 0, some 0] ∧
      roundRobinAttempts [0, 1] 2 = [some 0, some 1] :=
  ⟨rfl, rfl⟩

end FrameSocket

end Lldebug.Net
