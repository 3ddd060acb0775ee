import FirewallOrder.Json.Record
/-!
# Settings

The settings of a provider as a person writes them: nothing is checked but the kind of each value.
-/

namespace FirewallOrder

open Json

structure Settings where
  apiUrl : Option String
  username : Option String
  password : Option String
  site : String
  insecure : Bool
  caCert : Option String
  /-- Seconds. -/
  timeout : Nat
  deriving DecidableEq, Repr

namespace Settings

def defaultSite : String := "default"

def defaultTimeout : Nat := 30

/-- The settings when nothing is set. -/
def default : Settings :=
  ⟨none, none, none, defaultSite, false, none, defaultTimeout⟩

structure Draft where
  apiUrl : Option (Option String) := none
  username : Option (Option String) := none
  password : Option (Option String) := none
  site : Option String := none
  insecure : Option Bool := none
  caCert : Option (Option String) := none
  timeout : Option Nat := none

def record : Record Draft Settings where
  name := "ProviderSettings"
  start := {}
  fields := [
    .ofDecoder "api_url" false (.optional .text) (·.apiUrl) fun d v => { d with apiUrl := some v },
    .ofDecoder "username" false (.optional .text) (·.username) fun d v =>
      { d with username := some v },
    .ofDecoder "password" false (.optional .text) (·.password) fun d v =>
      { d with password := some v },
    .ofDecoder "site" true .text (·.site) fun d v => { d with site := some v },
    .ofDecoder "insecure" true .bool (·.insecure) fun d v => { d with insecure := some v },
    .ofDecoder "ca_cert" false (.optional (.textAs "path string")) (·.caCert) fun d v =>
      { d with caCert := some v },
    .ofDecoder "timeout" true (.nat 64) (·.timeout) fun d v => { d with timeout := some v }]
  surplus := .passedOver
  finish := fun d => .ok {
    apiUrl := d.apiUrl.getD none
    username := d.username.getD none
    password := d.password.getD none
    site := d.site.getD defaultSite
    insecure := d.insecure.getD false
    caCert := d.caCert.getD none
    timeout := d.timeout.getD defaultTimeout }

def decode : Decoder Settings := record.decode

/-- A text, or null for none. -/
def optionalText : Option String → Json
  | some s => .str s
  | none => .null

def encode (s : Settings) : Json :=
  .obj [("api_url", optionalText s.apiUrl),
    ("username", optionalText s.username),
    ("password", optionalText s.password),
    ("site", .str s.site),
    ("insecure", .bool s.insecure),
    ("ca_cert", optionalText s.caCert),
    ("timeout", .number (.int s.timeout))]

end Settings

end FirewallOrder
