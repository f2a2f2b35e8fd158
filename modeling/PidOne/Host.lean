import PidOne.Kernel
import PidOne.Trace

/-!
# Acting on the kernel

A host is what a running thread works with: the kernel, the thread's last error number, the requests
it has made and the trace it has written. An `Act` changes a host and gives an answer. `Act.request`
is the C calling convention: it answers what the kernel returned, or -1 with the error number set,
and a rejected request leaves the kernel as it was.

A request may be refused for reasons that are not in the kernel's state, such as a filter, a limit
or a lack of memory, and with any number. Which requests are refused so is a parameter, `refusals`.
-/

namespace PidOne

structure Host where
  kernel : Kernel
  /-- The number that the last failed request left behind. -/
  errno : Int
  /-- All requests made so far, the first one first. -/
  requests : List Request
  trace : Trace
  /-- The number with which a request is refused whatever it asks for, by its place among all. -/
  refusals : Nat → Option Int

abbrev Act := StateM Host

namespace Host

/-- A host for a kernel, before anything has been done, that refuses nothing by itself. -/
def start (kernel : Kernel) : Host := ⟨kernel, 0, [], [], fun _ => none⟩

/-- The number with which the next request is refused, whatever it is. Closing is exempt, as it
frees its number even where it fails. -/
def refusal? (host : Host) : Request → Option Int
  | .close _ => none
  | _ => host.refusals host.requests.length

/-- What a request comes to: what it returns and the kernel after it, or the number it leaves. -/
def answer (host : Host) (request : Request) : Except Int (Nat × Kernel) :=
  match host.refusal? request with
  | some number => .error number
  | none => (host.kernel.serve request).mapError fun errno => errno.code

end Host

namespace Act

def signal (signal : Signal) : Act Unit :=
  modify fun host => { host with trace := host.trace ++ [signal] }

def event (event : Event) : Act Unit := signal (.event event)

def request (request : Request) : Act Int := fun host =>
  match host.answer request with
  | .ok (returned, kernel) =>
    (returned, { host with kernel, requests := host.requests ++ [request] })
  | .error number =>
    (-1, { host with errno := number, requests := host.requests ++ [request] })

def lastErrno : Act Int := do return (← get).errno

/-- Does something inside a span, which is left whether that succeeds or not. -/
def inSpan {α : Type} (span : Span) (body : Act α) : Act α := do
  signal (.enter span)
  let answer ← body
  signal (.leave span)
  return answer

end Act

end PidOne
