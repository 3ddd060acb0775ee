import FirewallOrder.Proofs.Provider.Opening

/-!
# How a provider conducts itself

A provider is asked to connect, to make a call or to close, as often and in whatever order somebody
likes. What one act sends depends only on whether there is a session, and on which platform
(`Conduct`, `conduct_of_perform`). Without one, whoever closes sends nothing (`Conduct.of_close`),
and everybody else first sends a probe (`Conduct.starts`).
-/

namespace FirewallOrder

open Dialogue Http

namespace Provider

/-! ## Acts -/

/-- What a provider is asked to do. -/
inductive Act
  | connect
  | call (call : Call)
  | close
  deriving DecidableEq, Repr

namespace Act

def Result : Act → Type
  | connect => Client
  | call c => c.Result
  | close => Unit

abbrev Outcome (act : Act) : Type := Except ControllerError act.Result

def perform : (act : Act) → Provider → Exchange (act.Outcome × Provider)
  | connect, p => p.client
  | call c, p => p.answer c
  | close, p => p.close.bind fun p => .done (.ok (), p)

/-- What an act sends over a session on this platform. -/
def Asks (base : Url) (platform : Platform) : Act → List Exchanged → Prop
  | connect, turns => turns = []
  | call c, turns => c.errand.Asks base platform turns
  | close, turns =>
    ∃ request answer, turns = [⟨request, answer⟩] ∧ request.IsFor base platform .logout

end Act

/-- What an act sends and comes to, from the platform of the session before it, if there is one, to
that of the session after it. -/
inductive Conduct (config : Access) (machine : Machine) :
    Option Platform → (act : Act) → List Exchanged → act.Outcome → Option Platform → Prop
  /-- There is a session: nothing is sent to begin another one. -/
  | inside {platform : Platform} {act : Act} {turns : List Exchanged} {outcome : act.Outcome}
    (asks : act.Asks config.url platform turns) :
    Conduct config machine (some platform) act turns outcome (some platform)
  /-- There is no session to close. -/
  | idle {outcome : Act.close.Outcome} : Conduct config machine none .close [] outcome none
  /-- A session is begun, and then used. -/
  | opened {platform : Platform} {act : Act} {opening turns : List Exchanged}
    {outcome : act.Outcome} (open_ : act ≠ .close)
    (opens : Opens config machine opening (.ok platform))
    (asks : act.Asks config.url platform turns) :
    Conduct config machine none act (opening ++ turns) outcome (some platform)
  /-- No session can be begun: the reason is the outcome, and nothing more is sent. -/
  | unopened {act : Act} {opening : List Exchanged} {e : ControllerError} (open_ : act ≠ .close)
    (opens : Opens config machine opening (.error e)) :
    Conduct config machine none act opening (.error e) none

namespace Conduct

variable {config : Access} {machine : Machine} {act : Act} {turns : List Exchanged}
  {outcome : act.Outcome} {session : Option Platform}

theorem of_close (h : Conduct config machine none act turns outcome session)
    (close : act = .close) : turns = [] ∧ session = none := by
  cases h with
  | idle => exact ⟨rfl, rfl⟩
  | opened open_ | unopened open_ => exact absurd close open_

theorem of_some {platform : Platform}
    (h : Conduct config machine (some platform) act turns outcome session) :
    act.Asks config.url platform turns ∧ session = some platform := by
  cases h with
  | inside asks => exact ⟨asks, rfl⟩

theorem of_none (h : Conduct config machine none act turns outcome session) (open_ : act ≠ .close) :
    (∃ platform opening rest, turns = opening ++ rest ∧
      Opens config machine opening (.ok platform) ∧ act.Asks config.url platform rest ∧
      session = some platform) ∨ ∃ e, outcome = .error e ∧ Opens config machine turns (.error e) ∧
      session = none := by
  cases h with
  | idle => exact absurd rfl open_
  | opened _ opens asks => exact .inl ⟨_, _, _, rfl, opens, asks, rfl⟩
  | unopened _ opens => exact .inr ⟨_, rfl, opens, rfl⟩

/-- No call ends a session. -/
theorem not_logout {session' : Option Platform} {call : Call} {outcome : Act.Outcome (.call call)}
    (h : Conduct config machine session (.call call) turns outcome session') :
    ∀ t ∈ turns, ∀ platform, ¬ t.question.IsFor config.url platform .logout := by
  have opening {turns : List Exchanged} {result : Except ControllerError Platform}
      (opens : Opens config machine turns result) :
      ∀ t ∈ turns, ∀ platform, ¬ t.question.IsFor config.url platform .logout := by
    intro t ht platform logout
    obtain ⟨platform', errand, free, isFor⟩ := opens.isFor t ht
    exact logout.not_of_needsSession rfl free isFor
  have asked {platform' : Platform} {turns : List Exchanged}
      (asks : call.errand.Asks config.url platform' turns) :
      ∀ t ∈ turns, ∀ platform, ¬ t.question.IsFor config.url platform .logout := by
    intro t ht platform logout
    have words := (logout.kind_eq (asks.isFor t ht)).2
    cases call <;>
      exact absurd words (by simp [Call.errand, Errand.function, Endpoint.Function.word])
  cases h with
  | inside asks => exact asked asks
  | opened _ opens asks =>
    intro t ht
    exact (List.mem_append.1 ht).elim (opening opens t) (asked asks t)
  | unopened _ opens => exact opening opens

theorem starts {session' : Option Platform}
    (h : Conduct config machine session act turns outcome session')
    (check : config.trust.check machine = .ok ()) (open_ : act ≠ .close)
    (noSession : session = none) :
    ∃ t ∈ turns.head?, t.question.IsFor config.url .unifiOs .probe := by
  cases h with
  | inside => cases noSession
  | idle => exact absurd rfl open_
  | opened _ opens =>
    obtain ⟨t, ht, probe⟩ := opens.starts check
    exact ⟨t, by simp [Option.mem_def.1 ht], probe⟩
  | unopened _ opens => exact opens.starts check

end Conduct

/-- The platform of the session, if there is one. -/
def platform? (p : Provider) : Option Platform := p.session.map (·.platform)

/-- A provider with this configuration, and its session with the controller of the configuration. -/
structure Bound (config : Access) (machine : Machine) (p : Provider) : Prop where
  config_eq : p.config = config
  machine_eq : p.machine = machine
  base_eq : ∀ c, p.session = some c → c.base = config.url

variable {config : Access} {machine : Machine} {p q : Provider} {turns : List Exchanged}

theorem bound_start (config : Access) (machine : Machine) :
    Bound config machine (start config machine) :=
  ⟨rfl, rfl, fun _ h => nomatch h⟩

theorem run_client (onWeb : config.url.OnWeb) (bound : Bound config machine p)
    {result : Except ControllerError Client} (h : Run p.client turns (result, q)) :
    (∃ c, p.session = some c ∧ turns = [] ∧ result = .ok c ∧ q = p) ∨
      p.session = none ∧ Opens config machine turns (result.map (·.platform)) ∧
        Bound config machine q ∧ q.session = result.toOption := by
  rw [client] at h
  cases session : p.session with
  | some c =>
    simp only [session] at h
    obtain ⟨rfl, same⟩ := run_done_iff.1 h
    obtain ⟨rfl, rfl⟩ := Prod.mk.inj same
    exact .inl ⟨c, rfl, rfl, rfl, rfl⟩
  | none =>
    simp only [session, bound.config_eq, bound.machine_eq] at h
    obtain ⟨opening, _, result', rfl, hconnect, hdone⟩ := Dialogue.run_bind_iff.1 h
    obtain ⟨rfl, same⟩ := run_done_iff.1 hdone
    obtain ⟨rfl, rfl⟩ := Prod.mk.inj same
    obtain ⟨opens, base⟩ := opens_of_connect onWeb hconnect
    rw [List.append_nil]
    refine .inr ⟨rfl, opens, ⟨rfl, rfl, fun c hc => base c ?_⟩, rfl⟩
    cases result with
    | error e => cases hc
    | ok c' => exact congrArg Except.ok (Option.some.inj hc)

theorem run_answer {call : Call} {result : call.Answer}
    (h : Run (p.answer call) turns (result, q)) :
    ∃ opening rest client p', turns = opening ++ rest ∧ Run p.client opening (client, p') ∧
      match client with
      | .error e => rest = [] ∧ result = .error e ∧ q = p'
      | .ok c =>
        ∃ c', Run (Client.answer call c) rest (result, c') ∧
          q = { p' with session := some c' } := by
  rw [answer, within] at h
  obtain ⟨opening, rest, ⟨client, p'⟩, rfl, hclient, hrest⟩ := Dialogue.run_bind_iff.1 h
  refine ⟨opening, rest, client, p', rfl, hclient, ?_⟩
  cases client with
  | error e =>
    obtain ⟨rfl, same⟩ := run_done_iff.1 hrest
    obtain ⟨rfl, rfl⟩ := Prod.mk.inj same
    exact ⟨rfl, rfl, rfl⟩
  | ok c =>
    obtain ⟨_, _, ⟨result', c'⟩, rfl, hact, hdone⟩ := Dialogue.run_bind_iff.1 hrest
    obtain ⟨rfl, same⟩ := run_done_iff.1 hdone
    obtain ⟨rfl, rfl⟩ := Prod.mk.inj same
    rw [List.append_nil]
    exact ⟨c', hact, rfl⟩

theorem run_close_iff_of_none (session : p.session = none) :
    Run p.close turns q ↔ turns = [] ∧ q = p := by
  simp only [close, session]
  exact run_done_iff

/-- A session is ended by one logout, whatever is answered to it. -/
theorem exists_logout (onWeb : config.url.OnWeb) (bound : Bound config machine p) {c : Client}
    (session : p.session = some c) :
    ∃ request : Request, request.IsFor config.url c.platform .logout ∧
      ∀ turns q, Run p.close turns q ↔ ∃ answer, turns = [⟨request, answer⟩] ∧
        q = { p with session := some { c with connection := c.connection.heard answer } } := by
  have base := bound.base_eq c session
  obtain ⟨url, found, web⟩ :=
    Endpoint.Function.exists_url (base ▸ onWeb) c.platform (f := .logout) rfl
  refine ⟨c.connection.request .post url none none, base ▸ .of_url found rfl rfl, fun turns q => ?_⟩
  simp only [close, session]
  rw [Dialogue.run_bind_iff]
  constructor
  · rintro ⟨_, _, ⟨result, c'⟩, rfl, hlogout, hdone⟩
    obtain ⟨reply, rfl, same⟩ := (Client.run_logout_iff c found web).1 hlogout
    obtain ⟨rfl, rfl⟩ := Prod.mk.inj same
    obtain ⟨rfl, rfl⟩ := run_done_iff.1 hdone
    exact ⟨reply, rfl, rfl⟩
  · rintro ⟨answer, rfl, rfl⟩
    exact ⟨_, [], (_, _), rfl, (Client.run_logout_iff c found web).2 ⟨answer, rfl, rfl⟩, .done _⟩

/-- What a call sends and comes to, from the platform of the session before it to that of the
session after it. -/
inductive Serves (config : Access) (machine : Machine) :
    Option Platform → (call : Call) → List Exchanged → call.Answer → Option Platform → Prop
  | inside {platform : Platform} {call : Call} {turns : List Exchanged} {result : call.Answer}
    (serves : call.Serves config.url platform turns result) :
    Serves config machine (some platform) call turns result (some platform)
  | opened {platform : Platform} {call : Call} {opening turns : List Exchanged}
    {result : call.Answer} (opens : Opens config machine opening (.ok platform))
    (serves : call.Serves config.url platform turns result) :
    Serves config machine none call (opening ++ turns) result (some platform)
  | unopened {call : Call} {opening : List Exchanged} {e : ControllerError}
    (opens : Opens config machine opening (.error e)) :
    Serves config machine none call opening (.error e) none

theorem Serves.conduct {session session' : Option Platform} {call : Call} {result : call.Answer}
    (h : Serves config machine session call turns result session') :
    Conduct config machine session (.call call) turns result session' := by
  cases h with
  | inside serves => exact .inside serves.asks
  | opened opens serves => exact .opened nofun opens serves.asks
  | unopened opens => exact .unopened nofun opens

/-- **One call to a provider.** -/
theorem serves_of_answer (onWeb : config.url.OnWeb) (bound : Bound config machine p) {call : Call}
    {result : call.Answer} (h : Run (p.answer call) turns (result, q)) :
    Bound config machine q ∧ Serves config machine p.platform? call turns result q.platform? := by
  obtain ⟨opening, rest, client, p', rfl, hclient, hrest⟩ := run_answer h
  rcases run_client onWeb bound hclient with ⟨c, session, rfl, rfl, rfl⟩ |
    ⟨session, opens, bound', session'⟩
  · obtain ⟨c', hact, rfl⟩ := hrest
    have base := bound.base_eq c session
    obtain ⟨serves, hbase, hplatform⟩ := Client.serves_of_answer (base ▸ onWeb) hact
    simp only [platform?, session, Option.map_some, hplatform]
    refine ⟨⟨bound.config_eq, bound.machine_eq, ?_⟩, .inside (by rwa [base] at serves)⟩
    rintro _ ⟨⟩
    exact hbase.trans base
  · cases client with
    | error e =>
      obtain ⟨rfl, rfl, rfl⟩ := hrest
      simp only [platform?, session, session', List.append_nil]
      exact ⟨bound', .unopened opens⟩
    | ok c =>
      obtain ⟨c', hact, rfl⟩ := hrest
      have base := bound'.base_eq c session'
      obtain ⟨serves, hbase, hplatform⟩ := Client.serves_of_answer (base ▸ onWeb) hact
      simp only [platform?, session, Option.map_some, Option.map_none, hplatform]
      refine ⟨⟨bound'.config_eq, bound'.machine_eq, ?_⟩, .opened opens (by rwa [base] at serves)⟩
      rintro _ ⟨⟩
      exact hbase.trans base

/-- **One act of a provider.** -/
theorem conduct_of_perform (onWeb : config.url.OnWeb) (bound : Bound config machine p) {act : Act}
    {outcome : act.Outcome} (h : Run (act.perform p) turns (outcome, q)) :
    Bound config machine q ∧ Conduct config machine p.platform? act turns outcome q.platform? := by
  cases act with
  | connect =>
    rcases run_client onWeb bound h with ⟨c, session, rfl, rfl, rfl⟩ |
      ⟨session, opens, bound', session'⟩
    · simp only [platform?, session]
      exact ⟨bound, .inside rfl⟩
    · simp only [platform?, session, session', bound']
      refine ⟨trivial, ?_⟩
      cases outcome with
      | error e => exact .unopened nofun opens
      | ok c =>
        rw [← List.append_nil turns]
        exact .opened nofun opens rfl
  | call call =>
    obtain ⟨bound', serves⟩ := serves_of_answer onWeb bound h
    exact ⟨bound', serves.conduct⟩
  | close =>
    obtain ⟨_, _, p', rfl, hclose, hdone⟩ := Dialogue.run_bind_iff.1 h
    obtain ⟨rfl, same⟩ := run_done_iff.1 hdone
    obtain ⟨rfl, rfl⟩ := Prod.mk.inj same
    cases session : p.session with
    | none =>
      obtain ⟨rfl, rfl⟩ := (run_close_iff_of_none session).1 hclose
      simp only [platform?, session]
      exact ⟨bound, .idle⟩
    | some c =>
      obtain ⟨request, isFor, hrun⟩ := exists_logout onWeb bound session
      obtain ⟨reply, rfl, rfl⟩ := (hrun _ _).1 hclose
      simp only [platform?, session, Option.map_some]
      refine ⟨⟨bound.config_eq, bound.machine_eq, ?_⟩, .inside ⟨request, reply, rfl, isFor⟩⟩
      rintro _ ⟨⟩
      exact bound.base_eq c session

end Provider

end FirewallOrder
