import FirewallOrder.Http.Message
/-!
# Scripted networks

A network that answers from a script: the first request that reaches it gets the first response, the
next one the next, and every request behind the last one is not found. Which hosts can be reached at
all is part of the network. All requests that reach it are written down.
-/

namespace FirewallOrder.Http

/-- What the network does with one request. -/
inductive Response
  | reply (reply : Reply)
  /-- The connection is closed without an answer. -/
  | drop
  /-- No answer comes. -/
  | stall
  deriving DecidableEq, Repr

/-- A network with a script. -/
structure Network where
  /-- The URLs whose host accepts a connection. -/
  reaches : Url → Bool
  responses : List Response
  requests : List Request

namespace Network

/-- The reply when the script is over. -/
def notFound : Reply := ⟨404, [], some ""⟩

/-- The answer to a request, and the network after it. -/
def answer (request : Request) (n : Network) : Answer × Network :=
  let url := request.url.text
  if n.reaches request.url then
    let n' := { n with requests := n.requests ++ [request], responses := n.responses.drop 1 }
    match n.responses.head? with
    | none => (.ok notFound, n')
    | some (.reply reply) => (.ok reply, n')
    | some .drop => (.error (.dropped url), n')
    | some .stall => (.error (.timeout url), n')
  else (.error (.unreachable url), n)

/-- The result of an exchange over the network, and the network after it. -/
def run {α : Type} (n : Network) (exchange : Exchange α) : α × Network :=
  exchange.interpret (m := StateM Network) answer n

end Network

end FirewallOrder.Http
