import FirewallOrder.Json.Fault
import FirewallOrder.Ordering.Plan
import FirewallOrder.Settings.Load
/-!
# Failures of commands

Why a command failed, and what somebody at a terminal is told: a line that says what went wrong, a
code to search for, advice, and the code with which the program exits. These hang on the kind of the
failure only, and whatever the controller did that has no kind of its own is a failure of the
controller.
-/

namespace FirewallOrder

/-- Why a command failed. -/
inductive CommandFailure
  | operation (error : OrderingError)
  /-- The settings from this file and the environment are of no use. -/
  | settings (error : SettingsError) (path : String)
  /-- The file of an order cannot be read. -/
  | file (fault : FileFault)
  /-- The file of an order is no JSON. -/
  | json (fault : Json.Fault)
  deriving DecidableEq, Repr

/-- The kinds of failures that a person can tell apart. -/
inductive FailureKind
  | unreachable
  | tls
  | timeout
  | authentication
  | drift
  | stale
  | controller
  | invalid
  | badId
  | credentials
  | settings
  | file
  deriving DecidableEq, Repr

namespace FailureKind

/-- The code with which the program exits. -/
def exitCode : FailureKind → Nat
  | controller | settings | file => 1
  | invalid | badId => 2
  | authentication | credentials => 3
  | drift | stale => 6
  | unreachable | tls => 7
  | timeout => 8

/-- The code to search for. -/
def code : FailureKind → Option String
  | unreachable => some "tfunifi::connection_failed"
  | tls => some "tfunifi::tls_error"
  | timeout => some "tfunifi::timeout"
  | authentication => some "tfunifi::auth_failed"
  | drift => some "tfunifi::drift"
  | stale => some "tfunifi::stale"
  | controller => some "tfunifi::api_error"
  | invalid => some "tfunifi::validation"
  | badId => some "tfunifi::invalid_import_id"
  | credentials | settings => some "tfunifi::config"
  | file => none

end FailureKind

/-- The kind of failure that an error of the controller is. -/
def ControllerError.failureKind : ControllerError → FailureKind
  | authentication _ => .authentication
  | tls _ => .tls
  | transport (.timeout _) => .timeout
  | transport (.unreachable _) => .unreachable
  | _ => .controller

/-- What a person is told of an error of the controller. -/
def ControllerError.report : ControllerError → String
  | authentication m => "Authentication failed: " ++ m
  | tls m => "TLS setup failed: " ++ m
  | transport (.timeout _) => "Request timed out"
  | transport (.unreachable url) => "Could not connect to controller at " ++ url
  | other => "Controller error: " ++ other.message

/-- Settings that lack a credential are told apart from those that are wrong. -/
def SettingsError.failureKind : SettingsError → FailureKind
  | fault (.missing _) => .credentials
  | _ => .settings

namespace CommandFailure

def kind : CommandFailure → FailureKind
  | operation (.drift ..) => .drift
  | operation (.ruleMissing ..) => .stale
  | operation (.invalid _) => .invalid
  | operation (.badId ..) => .badId
  | operation (.controller error) => error.failureKind
  | settings error _ => error.failureKind
  | file _ => .file
  | json _ => .invalid

/-- The code with which the program exits. -/
def exitCode (f : CommandFailure) : Nat := f.kind.exitCode

/-- What is said of a value that somebody gave. -/
def invalidValue (field reason : String) : String :=
  "Invalid value for " ++ field ++ ": " ++ reason

/-- What went wrong. -/
def message : CommandFailure → String
  | operation (.invalid reason) => invalidValue "ruleset" reason
  | operation (.controller error) => error.report
  | operation error => error.message
  | settings error _ => error.message
  | file fault => fault.message
  | json fault => invalidValue "from-file" ("invalid JSON: " ++ fault.message)

/-- What may help. -/
def help (f : CommandFailure) : Option String :=
  match f, f.kind with
  | operation (.drift site ruleset _), _ =>
    some ("List every rule of the ruleset exactly once across --before and --after.\n" ++
      "Run: tfunifi ruleset show " ++ (RulesetId.mk site ruleset).display)
  | settings _ path, _ => some ("Expected configuration at: " ++ path)
  | _, .stale => some "The rules changed while the plan was computed. Run the command again."
  | _, .badId => some "Ruleset identifiers look like default:LAN_IN or default:wanv6_local."
  | _, .authentication =>
    some ("Verify username and password (UNIFI_USERNAME / UNIFI_PASSWORD).\n" ++
      "The account must be a local controller account, not a UI.com login.")
  | _, .tls =>
    some ("Use --insecure (-k) to accept a self-signed certificate, " ++
      "or set ca_cert in the config file.")
  | _, .timeout => some "Increase timeout with --timeout or check controller responsiveness."
  | _, .unreachable =>
    some ("Check that the controller is running and reachable.\n" ++
      "Try: tfunifi --insecure ruleset show default:LAN_IN")
  | _, _ => none

end CommandFailure

end FirewallOrder
