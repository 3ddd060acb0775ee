import FirewallOrder.Controller.Endpoint
import FirewallOrder.Controller.Envelope
import FirewallOrder.Http.Connection
import FirewallOrder.Json.Writer
import FirewallOrder.Ordering.Reconcile
/-!
# Clients of a controller

A client speaks to one controller over one connection. After it has logged in it may list and
reorder rules. A reply may carry a token, which every change has to show; the client keeps the last
one.
-/

namespace FirewallOrder

open Json Http

/-- A client of a controller whose platform is known. -/
structure Client where
  base : Url
  platform : Platform
  token : Option String
  connection : Connection
  deriving DecidableEq, Repr

namespace Client

/-! ## Tokens -/

/-- The token in the reply to a login. -/
def loginToken? (r : Reply) : Option String :=
  (r.header? "x-csrf-token").bind Reply.readable?

/-- The token in any other reply: a new one is told by a header of its own. -/
def replyToken? (r : Reply) : Option String :=
  ((r.header? "x-updated-csrf-token").or (r.header? "x-csrf-token")).bind Reply.readable?

/-- The client with a new token, if there is one. -/
def withToken (c : Client) (token : Option String) : Client :=
  { c with token := token.or c.token }

/-! ## Requests -/

/-- Sends a request over the client's connection. -/
def send (c : Client) (method : Method) (url : Url) (body token : Option String) :
    Exchange (Answer × Client) :=
  (c.connection.send method url body token).bind fun (answer, connection) =>
    .done (answer, { c with connection := connection })

/-- Sends a request and takes the answer out of its envelope. -/
def fetch {α : Type} (c : Client) (decode : Decoder α) (method : Method) (url : Url)
    (body token : Option String) : Exchange (Except ControllerError (List α) × Client) :=
  (c.send method url body token).bind fun (answer, c) =>
    match answer with
    | .error fault => .done (.error (.transport fault), c)
    | .ok reply => .done (Envelope.unwrap decode reply, c.withToken (replyToken? reply))

/-! ## Sessions -/

/-- The body of a login. -/
def loginBody (username password : String) : String :=
  compact (.obj [("password", .str password), ("username", .str username)])

/-- Begins a session. -/
def login (c : Client) (username password : String) :
    Exchange (Except ControllerError Unit × Client) :=
  match Endpoint.below c.base c.platform.loginPath with
  | .error e => .done (.error e, c)
  | .ok url =>
    (c.send .post url (some (loginBody username password)) none).bind fun (answer, c) =>
      match answer with
      | .error fault => .done (.error (.transport fault), c)
      | .ok reply =>
        if reply.isSuccess then .done (.ok (), c.withToken (loginToken? reply))
        else
          .done (.error (.authentication ("login failed (HTTP " ++ statusText reply.status ++
            "): " ++ reply.body.getD "")), c)

/-- Ends a session. -/
def logout (c : Client) : Exchange (Except ControllerError Unit × Client) :=
  match Endpoint.below c.base c.platform.logoutPath with
  | .error e => .done (.error e, c)
  | .ok url =>
    (c.send .post url none none).bind fun (answer, c) =>
      match answer with
      | .error fault => .done (.error (.transport fault), c)
      | .ok _ => .done (.ok (), c)

/-- Finds out the platform of a controller: its login answers on one of two paths. -/
def detect (connection : Connection) (base : Url) :
    Exchange (Except ControllerError Platform × Connection) :=
  let probeClassic (connection : Connection) :
      Exchange (Except ControllerError Platform × Connection) :=
    match Endpoint.below base Platform.classic.loginPath with
    | .error e => .done (.error e, connection)
    | .ok url =>
      (connection.send .get url none none).bind fun (answer, connection) =>
        match answer with
        | .error fault => .done (.error (.transport fault), connection)
        | .ok _ => .done (.ok .classic, connection)
  match Endpoint.below base Platform.unifiOs.loginPath with
  | .error e => .done (.error e, connection)
  | .ok url =>
    (connection.send .get url none none).bind fun (answer, connection) =>
      match answer with
      | .error _ => probeClassic connection
      | .ok reply =>
        if reply.status = 404 then probeClassic connection
        else .done (.ok .unifiOs, connection)

/-! ## Rules -/

/-- Lists all rules of a site. -/
def list (c : Client) (site : String) : Exchange (Except ControllerError (List Rule) × Client) :=
  match Endpoint.ofSite c.base c.platform site Endpoint.rulesPath with
  | .error e => .done (.error e, c)
  | .ok url => c.fetch Rule.decode .get url none none

/-- The body of a change of indices. -/
def reorderBody (ruleset : String) (updates : List IndexUpdate) : String :=
  compact (.obj [("cmd", .str "reorder"), ("ruleset", .str ruleset),
    ("rules", .arr (updates.map IndexUpdate.encode))])

/-- Gives rules of a ruleset new indices. -/
def reorder (c : Client) (site ruleset : String) (updates : List IndexUpdate) :
    Exchange (Except ControllerError Unit × Client) :=
  match Endpoint.ofSite c.base c.platform site Endpoint.commandPath with
  | .error e => .done (.error e, c)
  | .ok url =>
    (c.fetch Decoder.json .post url (some (reorderBody ruleset updates)) c.token).bind
      fun (result, c) => .done (result.map fun _ => (), c)

/-- The answer to a call. -/
def answer (call : Call) (c : Client) : Exchange (call.Answer × Client) :=
  match call with
  | .list site => c.list site
  | .reorder site ruleset updates => c.reorder site ruleset.spelling updates

/-- Carries out an operation with a client. -/
def perform {ε α : Type} (c : Client) (op : Operation ε α) : Exchange (Except ε α × Client) :=
  op.run.interpret (m := StateT Client (Dialogue Request fun _ => Answer)) answer c

end Client

end FirewallOrder
