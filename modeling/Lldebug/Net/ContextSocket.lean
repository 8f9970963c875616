import Lldebug.Net.Command

/-!
# `ContextSocket`: accepting the debugger's connection

The constructor opens `m_acceptor` on the port.  `Start` issues an
`async_accept` bound to `handleAccept`; a failed accept issues another on the
same acceptor, a successful one calls `Connected()`.  With a `waitSeconds` that
is not negative, `Start` then polls the io_service until `IsConnected()` or
the deadline and returns 0 or -1; with a negative `waitSeconds` it returns 0 at
once.

The wait loop only runs completion handlers, so a run of `Start` is the
outcomes of the accepts that complete before the deadline, in order.  The
session model takes `Start`'s result as the `connects` flag of its
`startContext` event; with a negative `waitSeconds` that result is 0 with no
connection made.
-/

namespace Lldebug.Net

structure ContextSocket where
  /-- An `async_accept` is outstanding on `m_acceptor`. -/
  accepting : Bool
  /-- `Connected()` has been called. -/
  connected : Bool
  /-- The `async_accept` calls issued. -/
  accepts : Nat
  deriving DecidableEq, Repr

namespace ContextSocket

/-- The constructor: the acceptor open, nothing outstanding. -/
def create : ContextSocket :=
  ⟨false, false, 0⟩

/-- `m_acceptor.async_accept(GetSocket(), handleAccept)`. -/
def asyncAccept (sock : ContextSocket) : ContextSocket :=
  { sock with accepting := true, accepts := sock.accepts + 1 }

/-- `handleAccept(error)`: on success `Connected()`; otherwise accept again. -/
def handleAccept (sock : ContextSocket) (error : Bool) : ContextSocket :=
  if !error then { sock with connected := true } else sock.asyncAccept

/-- The outstanding accept completes, with an error or not, and its
`handleAccept` runs. -/
def complete (sock : ContextSocket) (error : Bool) : ContextSocket :=
  if sock.accepting then ({ sock with accepting := false }).handleAccept error else sock

/-- The `while (!IsConnected())` loop of `Start`, given the outcomes of the
accepts that complete before the deadline. -/
def waitLoop (sock : ContextSocket) : List Bool → ContextSocket
  | [] => sock
  | error :: errors => if sock.connected then sock else (sock.complete error).waitLoop errors

/-- `Start(waitSeconds)`: the socket afterwards and the value returned. -/
def start (sock : ContextSocket) (waitSeconds : Int) (errors : List Bool) : ContextSocket × Int :=
  let sock := sock.asyncAccept
  if 0 ≤ waitSeconds then
    let sock := sock.waitLoop errors
    (sock, if sock.connected then 0 else -1)
  else (sock, 0)

end ContextSocket

end Lldebug.Net
