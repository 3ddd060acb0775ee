import FirewallOrder.Http.Message
import FirewallOrder.Json.Record
import FirewallOrder.Text.Prefix
/-!
# Envelopes

A controller wraps what it answers into an envelope: an object that says in `meta` whether all is
well and holds the answer in `data`. A device in front of the controller may answer instead of it,
with an object that holds an `error`.

`Envelope.unwrap` takes the answer out of a reply. The status of the reply is looked at first, then
the device's error, then the envelope.
-/

namespace FirewallOrder

open Json

/-! ## Shapes -/

/-- The error of the device in front of the controller. -/
structure DeviceError where
  code : Nat
  message : Option String
  deriving DecidableEq, Repr

structure DeviceError.Draft where
  code : Option Nat := none
  message : Option (Option String) := none

def DeviceError.record : Record DeviceError.Draft DeviceError where
  name := "UnifiOsErrorInner"
  start := {}
  fields := [
    .ofDecoder "code" false (.nat 16) (·.code) fun d v => { d with code := some v },
    .ofDecoder "message" false (.optional .text) (·.message) fun d v =>
      { d with message := some v }]
  surplus := .passedOver
  finish := fun d => do
    let code ← require "code" d.code
    pure ⟨code, d.message.getD none⟩

/-- An object that may hold the error of the device. -/
def DeviceError.wrapper : Record (Option (Option DeviceError)) (Option DeviceError) where
  name := "UnifiOsError"
  start := none
  fields := [
    .ofDecoder "error" false (.optional DeviceError.record.decode) id fun _ v => some v]
  surplus := .passedOver
  finish := fun d => .ok (d.getD none)

/-- What a controller says about its answer. -/
structure Meta where
  rc : String
  msg : Option String
  deriving DecidableEq, Repr

structure Meta.Draft where
  rc : Option String := none
  msg : Option (Option String) := none

def Meta.record : Record Meta.Draft Meta where
  name := "Meta"
  start := {}
  fields := [
    .ofDecoder "rc" false .text (·.rc) fun d v => { d with rc := some v },
    .ofDecoder "msg" true (.optional .text) (·.msg) fun d v => { d with msg := some v }]
  surplus := .passedOver
  finish := fun d => do
    let rc ← require "rc" d.rc
    pure ⟨rc, d.msg.getD none⟩

/-- The answer of a controller with what it says about it. -/
structure Envelope (α : Type) where
  about : Meta
  data : List α
  deriving DecidableEq, Repr

namespace Envelope

structure Draft (α : Type) where
  about : Option Meta := none
  data : Option (List α) := none

def record {α : Type} (decode : Decoder α) : Record (Draft α) (Envelope α) where
  name := "LegacyResponse"
  start := {}
  fields := [
    .ofDecoder "meta" false Meta.record.decode (·.about) fun d v => { d with about := some v },
    .ofDecoder "data" true (.list decode) (·.data) fun d v => { d with data := some v }]
  surplus := .passedOver
  finish := fun d => do
    let about ← require "meta" d.about
    pure ⟨about, d.data.getD []⟩

/-! ## Taking the answer out -/

/-- The number of bytes of an unreadable answer that a message shows. -/
def shownBytes : Nat := 200

/-- The beginning of an answer. The cut always succeeds: nothing is ever put in its place. -/
def beginning (body : String) : String :=
  (Text.cut? shownBytes body).getD ""

/-- The error of the device in a body, if it holds one. -/
def deviceError? (body : String) : Option DeviceError :=
  ((decodeText DeviceError.wrapper.decode body).toOption).join

/-- The error of the device as an error of the call. -/
def ofDeviceError (e : DeviceError) : ControllerError :=
  let message := e.message.getD ""
  if e.code = 401 then .authentication message
  else .refused ("UniFi OS error " ++ toString e.code ++ ": " ++ message)

/-- The answer in the body of a reply that was granted. -/
def ofBody {α : Type} (decode : Decoder α) (body : String) : Except ControllerError (List α) :=
  match deviceError? body with
  | some e => .error (ofDeviceError e)
  | none =>
    match decodeText (record decode).decode body with
    | .error e =>
      .error (.unreadable
        (e.message ++ " (body preview: " ++ Text.quote (beginning body) ++ ")") body)
    | .ok envelope =>
      if envelope.about.rc == "ok" then .ok envelope.data
      else .error (.refused (envelope.about.msg.getD ("rc=" ++ envelope.about.rc)))

/-- The answer in a reply. -/
def unwrap {α : Type} (decode : Decoder α) (reply : Http.Reply) :
    Except ControllerError (List α) :=
  if reply.status = 401 then
    .error (.authentication "session expired or invalid credentials")
  else if reply.status = 403 then .error (.refused "insufficient permissions (HTTP 403)")
  else if reply.isSuccess then
    match reply.text with
    | .error fault => .error (.transport fault)
    | .ok body => ofBody decode body
  else
    let body := reply.body.getD ""
    .error (.refused ("HTTP " ++ Http.statusText reply.status ++ ": " ++ beginning body))

end Envelope

end FirewallOrder
