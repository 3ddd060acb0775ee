import FirewallOrder.Url.Basic
import FirewallOrder.Text.Blank
import FirewallOrder.Controller.Error
/-!
# Endpoints of a controller

A controller runs on one of two platforms, which differ in the paths below which its functions
stand. All paths stand below the path of the controller's own URL. A function that belongs to a site
has the site's name as one segment of its path, whatever characters that name holds.
-/

namespace FirewallOrder

/-- What a controller runs on. -/
inductive Platform
  /-- A device of its own, which passes requests on to the controller inside. -/
  | unifiOs
  /-- A controller that runs by itself. -/
  | classic
  deriving DecidableEq, Repr

namespace Platform

/-- The path below which the functions of sites stand. -/
def sitePrefix : Platform → List String
  | unifiOs => ["proxy", "network"]
  | classic => []

def loginPath : Platform → List String
  | unifiOs => ["api", "auth", "login"]
  | classic => ["api", "login"]

def logoutPath : Platform → List String
  | unifiOs => ["api", "auth", "logout"]
  | classic => ["api", "logout"]

end Platform

namespace Endpoint

/-- A path as it is written. -/
def pathText (segments : List String) : String := String.join (segments.map ("/" ++ ·))

/-- The path of the rules of a site. -/
def rulesPath : List String := ["rest", "firewallrule"]

/-- The path of the commands of a site. -/
def commandPath : List String := ["cmd", "firewall"]

/-- What is said of a URL that has no path of segments. -/
def noPath (base : Url) : ControllerError := .invalidPath (base.text ++ " cannot carry a path")

/-- The URL with these segments behind its path, of which a slash at the end does not count. -/
def below (base : Url) (segments : List String) : Except ControllerError Url :=
  match base.path with
  | .text _ => .error (noPath base)
  | .segments path =>
    .ok { base with
      path := .segments (Url.pushSegments base.isSpecial (Url.withoutSlash path) segments) }

/-- The text would not be a segment of its own. -/
def isNoSite (site : String) : Bool :=
  let trimmed := Text.trim site
  trimmed == "" || trimmed == "." || trimmed == ".."

/-- The URL of a function of a site. -/
def ofSite (base : Url) (platform : Platform) (site : String) (path : List String) :
    Except ControllerError Url :=
  if isNoSite site then .error (.invalidPath ("'" ++ site ++ "' is not a site name"))
  else below base (platform.sitePrefix ++ ["api", "s", site] ++ path)

end Endpoint

end FirewallOrder
