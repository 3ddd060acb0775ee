import FirewallOrder.Machine.Basic
import FirewallOrder.Controller.Error
/-!
# How a provider reaches its controller
-/

namespace FirewallOrder

/-- Whose certificates are trusted. -/
inductive Trust
  /-- Those that the machine trusts. -/
  | system
  /-- Those of an authority whose certificate is in a file. -/
  | authority (path : String)
  /-- Anybody's. -/
  | anyone
  deriving DecidableEq, Repr

/-- The certificate of an authority is read and looked at before any connection is made. -/
def Trust.check (machine : Machine) (trust : Trust) : Except ControllerError Unit := do
  let authority ←
    match trust with
    | .authority path => some <$> certificate path
    | .system | .anyone => pure none
  match machine.tls.clientFault? authority (trust = .anyone) with
  | some fault => throw (.tls ("failed to build HTTP client: " ++ fault))
  | none => pure ()
where
  /-- The certificate in a file. -/
  certificate (path : String) : Except ControllerError ByteArray :=
    match machine.files.bytes path with
    | .error fault => .error (.tls ("failed to read CA cert: " ++ fault.message))
    | .ok bytes =>
      match machine.tls.certificateFault? bytes with
      | some fault => .error (.tls ("invalid CA cert: " ++ fault))
      | none => .ok bytes

/-- All that is needed to begin a session with a controller. -/
structure Access where
  url : Url
  username : String
  password : String
  /-- The site of a configuration that names none. -/
  site : String
  trust : Trust
  /-- How many seconds to wait for an answer. -/
  timeout : Nat
  deriving DecidableEq, Repr

end FirewallOrder
