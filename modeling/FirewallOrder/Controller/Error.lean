import FirewallOrder.Url.Fault
/-!
# What can go wrong when speaking to a controller
-/

namespace FirewallOrder

/-- Why an exchange over the network brought no whole answer. -/
inductive TransportFault
  /-- No connection was made. -/
  | unreachable (url : String)
  /-- No answer came in time. -/
  | timeout (url : String)
  /-- The connection ended before an answer. -/
  | dropped (url : String)
  /-- No connection of this kind can be made. -/
  | unsupported (url : String)
  /-- The answer ended before its body was complete. -/
  | truncated
  deriving DecidableEq, Repr

namespace TransportFault

def message : TransportFault → String
  | unreachable url | timeout url | dropped url => "error sending request for url (" ++ url ++ ")"
  | unsupported url => "builder error for url (" ++ url ++ ")"
  | truncated => "error decoding response body"

/-- The same exchange may succeed another time. -/
def isTransient : TransportFault → Bool
  | unreachable _ | timeout _ => true
  | dropped _ | unsupported _ | truncated => false

end TransportFault

/-- Why a call to a controller failed. -/
inductive ControllerError
  | authentication (message : String)
  | transport (fault : TransportFault)
  | invalidUrl (fault : UrlFault)
  | invalidPath (message : String)
  | tls (message : String)
  /-- The controller itself refused. -/
  | refused (message : String)
  /-- The answer is not what it should be; its body is kept. -/
  | unreadable (message : String) (body : String)
  deriving DecidableEq, Repr

namespace ControllerError

def message : ControllerError → String
  | authentication m => "Authentication failed: " ++ m
  | transport fault => "HTTP transport error: " ++ fault.message
  | invalidUrl fault => "Invalid URL: " ++ fault.message
  | invalidPath m => "Invalid URL path: " ++ m
  | tls m => "TLS error: " ++ m
  | refused m => "Legacy API error: " ++ m
  | unreadable m _ => "Deserialization error: " ++ m

/-- The session is over, or was never begun. -/
def needsLogin : ControllerError → Bool
  | authentication _ => true
  | _ => false

/-- The same call may succeed another time. -/
def isTransient : ControllerError → Bool
  | transport fault => fault.isTransient
  | _ => false

/-- Another error lies beneath this one. -/
def hasCause : ControllerError → Bool
  | transport _ => true
  | _ => false

end ControllerError

end FirewallOrder
