import FirewallOrder.Proofs.Provider.Opening

/-!
# Acts of a client

What somebody may ask of a client: a call, or the beginning or the end of a session. Each fails at
once or sends one request, and then it is settled by the answer alone what it comes to and which
client is left (`Act.perform_cases`).
-/

namespace FirewallOrder.Client

open Dialogue Http

/-- What somebody asks of a client. -/
inductive Act
  | login (username password : String)
  | list (site : String)
  | reorder (site ruleset : String) (updates : List IndexUpdate)
  | logout
  deriving DecidableEq, Repr

namespace Act

def Result : Act → Type
  | list _ => List Rule
  | login .. | reorder .. | logout => Unit

abbrev Outcome (act : Act) : Type := Except ControllerError act.Result

def perform : (act : Act) → Client → Exchange (act.Outcome × Client)
  | login username password, c => c.login username password
  | list site, c => c.list site
  | reorder site ruleset updates, c => c.reorder site ruleset updates
  | logout, c => c.logout

/-- The rules are listed or changed. -/
def IsCall : Act → Prop
  | list _ | reorder .. => True
  | login .. | logout => False

/-- The token that a request for the act shows, when this one is kept: only a change shows it. -/
def shown : Act → Option String → Option String
  | reorder .., kept => kept
  | login .., _ | list _, _ | logout, _ => none

/-- What an act comes to, by the answer to its request. -/
def outcome : (act : Act) → Answer → act.Outcome
  | login .., answer => loginOutcome answer
  | list _, answer => fetchOutcome Rule.decode answer
  | reorder .., answer => (fetchOutcome Json.Decoder.json answer).map fun _ => ()
  | logout, answer => logoutOutcome answer

/-- The client that an answer leaves. -/
def after : Act → Answer → Client → Client
  | login .., answer, c => c.afterLogin answer
  | list _, answer, c | reorder .., answer, c => c.afterFetch answer
  | logout, _, c => c

theorem outcome_fault (act : Act) (fault : TransportFault) :
    act.outcome (.error fault) = .error (.transport fault) := by
  cases act <;> rfl

theorem after_fault (act : Act) (fault : TransportFault) (c : Client) :
    act.after (.error fault) c = c := by
  cases act <;> rfl

end Act

variable {c : Client} {act : Act}

theorem send_of_not_web {method : Method} {url : Url} {body token : Option String}
    (foreign : ¬ url.isWeb = true) :
    c.send method url body token =
      .done (.error (.unsupported url.withoutCredentials.text), c) := by
  have : ¬ url.withoutCredentials.isWeb = true := foreign
  simp only [send, Connection.send, if_neg this]
  rfl

namespace Act

theorem perform_eq (act : Act) (c : Client) :
    (∃ e, act.perform c = .done (.error e, c)) ∨
      ∃ method url body, (act.shown c.token ≠ none → method = .post) ∧ act.perform c =
        (c.send method url body (act.shown c.token)).bind fun r =>
          .done (act.outcome r.1, act.after r.1 r.2) := by
  cases act with
  | login username password =>
    cases found : Endpoint.below c.base c.platform.loginPath with
    | error e =>
      refine .inl ⟨e, ?_⟩
      simp only [perform, Client.login, found]
      rfl
    | ok url =>
      exact .inr ⟨_, url, _, fun shown => absurd rfl shown, c.login_eq found username password⟩
  | list site =>
    cases found : Endpoint.ofSite c.base c.platform site Endpoint.rulesPath with
    | error e =>
      refine .inl ⟨e, ?_⟩
      simp only [perform, Client.list, found]
      rfl
    | ok url =>
      refine .inr ⟨.get, url, none, fun shown => absurd rfl shown, ?_⟩
      simp only [perform, Client.list, found]
      exact c.fetch_eq ..
  | reorder site ruleset updates =>
    cases found : Endpoint.ofSite c.base c.platform site Endpoint.commandPath with
    | error e =>
      refine .inl ⟨e, ?_⟩
      simp only [perform, Client.reorder, found]
      rfl
    | ok url =>
      refine .inr ⟨.post, url, some (reorderBody ruleset updates), fun _ => rfl, ?_⟩
      simp only [perform, Client.reorder, found, fetch_eq, bind_assoc]
      rfl
  | logout =>
    cases found : Endpoint.below c.base c.platform.logoutPath with
    | error e =>
      refine .inl ⟨e, ?_⟩
      simp only [perform, Client.logout, found]
      rfl
    | ok url => exact .inr ⟨_, url, _, fun shown => absurd rfl shown, c.logout_eq found⟩

/-- **One act of a client.** -/
theorem perform_cases (act : Act) (c : Client) :
    (∃ e, act.perform c = .done (.error e, c)) ∨
      ∃ request : Request, request.token = act.shown c.token ∧
      (request.token ≠ none → request.method = .post) ∧
        ∀ turns outcome, Run (act.perform c) turns outcome ↔ ∃ answer, turns = [⟨request, answer⟩] ∧
          outcome =
            (act.outcome answer,
              act.after answer { c with connection := c.connection.heard answer }) := by
  rcases act.perform_eq c with failed | ⟨method, url, body, posts, sends⟩
  · exact .inl failed
  · by_cases web : url.isWeb = true
    · refine .inr ⟨c.connection.request method url body (act.shown c.token), rfl, posts,
        fun turns outcome => ?_⟩
      rw [sends]
      exact run_send_iff c web fun answer c => (act.outcome answer, act.after answer c)
    -- A URL that is none of the web fails the act like a fault of the network, but nothing was
    -- sent.
    · rw [send_of_not_web web, done_bind, outcome_fault, after_fault] at sends
      exact .inl ⟨_, sends⟩

/-- Whatever is answered to an act that sends its request settles what it comes to. -/
theorem run_iff_of_sent {request : Request} {answer : Answer} {first : act.Outcome × Client}
    (sent : Run (act.perform c) [⟨request, answer⟩] first) (answer' : Answer)
    (last : act.Outcome × Client) :
    Run (act.perform c) [⟨request, answer'⟩] last ↔
      last = (act.outcome answer',
        act.after answer' { c with connection := c.connection.heard answer' }) := by
  rcases act.perform_cases c with ⟨e, failed⟩ | ⟨request', -, -, runs⟩
  · rw [failed] at sent
    cases (run_done_iff.1 sent).1
  · obtain ⟨_, same, -⟩ := (runs _ _).1 sent
    cases same
    rw [runs]
    constructor
    · rintro ⟨_, same, rfl⟩
      cases same
      rfl
    · rintro rfl
      exact ⟨answer', rfl, rfl⟩

end Act

end FirewallOrder.Client
