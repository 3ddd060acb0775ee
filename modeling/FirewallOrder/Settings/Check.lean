import FirewallOrder.Settings.Basic
import FirewallOrder.Provider.Access
import FirewallOrder.Ruleset
/-!
# Checking settings

Settings have to name a controller by a URL of the web, an account with its password, a site and a
time to wait. They are checked in this order, and the first that is wrong is reported.
-/

namespace FirewallOrder

/-- A setting that nothing stands in for. -/
inductive Credential
  | url
  | username
  | password
  deriving DecidableEq, Repr

/-- What a person calls it. -/
def Credential.label : Credential → String
  | .url => "controller URL"
  | .username => "username"
  | .password => "password"

/-- The end of the name of the variable that sets it. -/
def Credential.variable : Credential → String
  | .url => "API_URL"
  | .username => "USERNAME"
  | .password => "PASSWORD"

/-- Why settings cannot be used. -/
inductive SettingsFault
  | missing (credential : Credential)
  | badUrl (raw : String) (fault : UrlFault)
  | notWeb (raw : String)
  | site (fault : SiteFault)
  | noTime
  deriving DecidableEq, Repr

namespace SettingsFault

def credentialMessage (credential : Credential) : String :=
  "no " ++ credential.label ++ " configured (set it in the config file or UNIFI_" ++
    credential.variable ++ ")"

def message : SettingsFault → String
  | missing credential => credentialMessage credential
  | badUrl raw fault => "invalid api_url: '" ++ raw ++ "' is not a URL: " ++ fault.message
  | notWeb raw => "invalid api_url: expected an http(s) URL, got '" ++ raw ++ "'"
  | site fault => "invalid site: " ++ fault.message
  | noTime => "invalid timeout: must be at least one second"

end SettingsFault

namespace Settings

/-- The URL of the controller. -/
def url (urls : UrlReader) (s : Settings) : Except SettingsFault Url :=
  match s.apiUrl with
  | none => .error (.missing .url)
  | some raw =>
    match urls.read raw with
    | .error fault => .error (.badUrl raw fault)
    | .ok url => if url.isWeb then .ok url else .error (.notWeb raw)

/-- The account: an empty name is none. -/
def account (s : Settings) : Except SettingsFault String :=
  match s.username with
  | none => .error (.missing .username)
  | some name => if name == "" then .error (.missing .username) else .ok name

def passwordOf (s : Settings) : Except SettingsFault String :=
  match s.password with
  | none => .error (.missing .password)
  | some password => .ok password

/-- Who is trusted: skipping the check of certificates goes before the file of an authority. -/
def trust (s : Settings) : Trust :=
  if s.insecure then .anyone
  else
    match s.caCert with
    | some path => .authority path
    | none => .system

/-- How a provider with these settings reaches its controller. -/
def check (urls : UrlReader) (s : Settings) : Except SettingsFault Access := do
  let url ← s.url urls
  let username ← s.account
  let password ← s.passwordOf
  match Site.fault? s.site with
  | some fault => throw (.site fault)
  | none => pure ()
  if s.timeout = 0 then throw .noTime
  pure ⟨url, username, password, s.site, s.trust, s.timeout⟩

end Settings

end FirewallOrder
