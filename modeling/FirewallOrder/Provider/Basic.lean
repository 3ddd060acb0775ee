import FirewallOrder.Provider.Access
import FirewallOrder.Controller.Client
/-!
# Providers

A provider speaks to the controller of its configuration. The session begins with the first call:
the platform is found out and the client logs in. If that fails nothing is kept, and the next call
begins anew; once it has succeeded the session lasts until the provider is closed.
-/

namespace FirewallOrder

open Http

/-- A provider, with its session if one was begun. -/
structure Provider where
  config : Access
  machine : Machine
  session : Option Client

namespace Provider

/-- A provider that has not spoken to its controller yet. -/
def start (config : Access) (machine : Machine) : Provider := ⟨config, machine, none⟩

/-- Begins a session. -/
def connect (config : Access) (machine : Machine) : Exchange (Except ControllerError Client) :=
  match config.trust.check machine with
  | .error e => .done (.error e)
  | .ok () =>
    (Client.detect ⟨some .empty⟩ config.url).bind fun (platform, connection) =>
      match platform with
      | .error e => .done (.error e)
      | .ok platform =>
        ((Client.mk config.url platform none connection).login config.username
            config.password).bind fun (result, client) =>
          .done (result.map fun _ => client)

/-- The session, which is begun if there is none. -/
def client (p : Provider) : Exchange (Except ControllerError Client × Provider) :=
  match p.session with
  | some client => .done (.ok client, p)
  | none =>
    (connect p.config p.machine).bind fun result =>
      .done (result, { p with session := result.toOption })

/-- What a client does in the session. -/
def within {α : Type} (p : Provider)
    (act : Client → Exchange (Except ControllerError α × Client)) :
    Exchange (Except ControllerError α × Provider) :=
  p.client.bind fun (client, p) =>
    match client with
    | .error e => .done (.error e, p)
    | .ok client =>
      (act client).bind fun (result, client) => .done (result, { p with session := some client })

/-- The answer to a call. -/
def answer (call : Call) (p : Provider) : Exchange (call.Answer × Provider) :=
  p.within (Client.answer call)

/-- Carries out an operation. -/
def perform {ε α : Type} (p : Provider) (op : Operation ε α) : Exchange (Except ε α × Provider) :=
  op.run.interpret (m := StateT Provider (Dialogue Request fun _ => Answer)) answer p

/-- Ends the session, if there is one. What the controller says to that does not matter. -/
def close (p : Provider) : Exchange Provider :=
  match p.session with
  | none => .done p
  | some client => client.logout.bind fun (_, client) => .done { p with session := some client }

end Provider

end FirewallOrder
