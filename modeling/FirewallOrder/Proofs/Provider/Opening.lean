import FirewallOrder.Provider.Basic
import FirewallOrder.Proofs.Provider.Errand

/-!
# How a session begins

A provider without a session finds out the platform of its controller by one probe or two
(`Detects`) and then logs in with one request (`Opens`). These relations say what is sent, and what
becomes of it whatever the controller answers: `Provider.opens_of_connect`. Over a session that was
begun, a client sends one request for each call at most (`Client.serves_of_answer`), and one to end
it (`Client.run_logout_iff`).
-/

namespace FirewallOrder

open Dialogue Http Json

/-! ## Requests -/

namespace Http.Connection

/-- The request as it is sent over the connection. -/
def request (c : Connection) (method : Method) (url : Url) (body token : Option String) : Request :=
  ⟨method, url.withoutCredentials, body, token, c.jar.bind (·.header?)⟩

/-- The connection after an answer. -/
def heard (c : Connection) : Answer → Connection
  | .ok reply => c.after reply
  | .error _ => c

theorem run_send_iff {c c' : Connection} {method : Method} {url : Url} {body token : Option String}
    (web : url.isWeb = true) {turns : List Exchanged} {answer : Answer} :
    Run (c.send method url body token) turns (answer, c') ↔
      turns = [⟨c.request method url body token, answer⟩] ∧ c' = c.heard answer := by
  have sent : c.send method url body token =
      .ask (c.request method url body token) fun answer => .done (answer, c.heard answer) := by
    have : url.withoutCredentials.isWeb = true := web
    simp only [send, this, if_true]
    rfl
  rw [sent, run_ask_iff]
  constructor
  · rintro ⟨reply, rest, rfl, hdone⟩
    obtain ⟨rfl, h⟩ := run_done_iff.1 hdone
    cases h
    exact ⟨rfl, rfl⟩
  · rintro ⟨rfl, rfl⟩
    exact ⟨answer, [], rfl, .done _⟩

end Http.Connection

variable {turns : List Exchanged}

namespace Client

section Answers

variable {α : Type} (c : Client)

/-- What a client makes of the answer to its request, when it asks for nothing more. -/
theorem run_send_iff {method : Method} {url : Url} {body token : Option String}
    (web : url.isWeb = true) (use : Answer → Client → α) {a : α} :
    Run ((c.send method url body token).bind fun r => .done (use r.1 r.2)) turns a ↔
      ∃ answer, turns = [⟨c.connection.request method url body token, answer⟩] ∧
        a = use answer { c with connection := c.connection.heard answer } := by
  rw [send, bind_assoc, Dialogue.run_bind_iff]
  constructor
  · rintro ⟨_, _, ⟨answer, connection⟩, rfl, hsend, hdone⟩
    obtain ⟨rfl, rfl⟩ := (Connection.run_send_iff web).1 hsend
    obtain ⟨rfl, rfl⟩ := run_done_iff.1 hdone
    exact ⟨answer, rfl, rfl⟩
  · rintro ⟨answer, rfl, rfl⟩
    exact ⟨_, [], (answer, _), rfl, (Connection.run_send_iff web).2 ⟨rfl, rfl⟩, .done _⟩

/-! ## Logging in and out -/

/-- What a login comes to. -/
def loginOutcome : Answer → Except ControllerError Unit
  | .error fault => .error (.transport fault)
  | .ok reply =>
    if reply.isSuccess then .ok ()
    else .error
      (.authentication
        ("login failed (HTTP " ++ statusText reply.status ++ "): " ++ reply.body.getD ""))

/-- The client after a login: a token comes only with a login that is granted. -/
def afterLogin : Answer → Client
  | .ok reply => if reply.isSuccess then c.withToken (loginToken? reply) else c
  | .error _ => c

/-- What a logout comes to: every reply is good enough. -/
def logoutOutcome : Answer → Except ControllerError Unit
  | .error fault => .error (.transport fault)
  | .ok _ => .ok ()

theorem loginOutcome_eq_ok_iff {answer : Answer} :
    loginOutcome answer = .ok () ↔ ∃ reply, answer = .ok reply ∧ reply.isSuccess = true := by
  cases answer with
  | error fault => simp [loginOutcome]
  | ok reply => by_cases granted : reply.isSuccess = true <;> simp [loginOutcome, granted]

theorem afterLogin_base (answer : Answer) : (c.afterLogin answer).base = c.base := by
  unfold afterLogin
  repeat' split
  all_goals rfl

theorem afterLogin_platform (answer : Answer) : (c.afterLogin answer).platform = c.platform := by
  unfold afterLogin
  repeat' split
  all_goals rfl

theorem login_eq {url : Url} (found : Endpoint.below c.base c.platform.loginPath = .ok url)
    (username password : String) : c.login username password =
      (c.send .post url (some (loginBody username password)) none).bind fun r =>
        .done (loginOutcome r.1, r.2.afterLogin r.1) := by
  simp only [login, found]
  refine congrArg _ (funext fun r => ?_)
  obtain ⟨_ | reply, client⟩ := r
  · rfl
  · by_cases granted : reply.isSuccess = true <;> simp [loginOutcome, afterLogin, granted]

theorem run_login_iff {url : Url} (found : Endpoint.below c.base c.platform.loginPath = .ok url)
    (web : url.isWeb = true) {username password : String}
    {outcome : Except ControllerError Unit × Client} :
    Run (c.login username password) turns outcome ↔
      ∃ answer,
        turns =
          [⟨c.connection.request .post url (some (loginBody username password)) none, answer⟩] ∧
        outcome = (loginOutcome answer,
          { c with connection := c.connection.heard answer }.afterLogin answer) := by
  rw [c.login_eq found]
  exact run_send_iff c web fun answer c => (loginOutcome answer, c.afterLogin answer)

theorem logout_eq {url : Url} (found : Endpoint.below c.base c.platform.logoutPath = .ok url) :
    c.logout = (c.send .post url none none).bind fun r => .done (logoutOutcome r.1, r.2) := by
  simp only [logout, found]
  refine congrArg _ (funext fun r => ?_)
  obtain ⟨_ | reply, client⟩ := r <;> rfl

theorem run_logout_iff {url : Url} (found : Endpoint.below c.base c.platform.logoutPath = .ok url)
    (web : url.isWeb = true) {outcome : Except ControllerError Unit × Client} :
    Run c.logout turns outcome ↔
      ∃ answer, turns = [⟨c.connection.request .post url none none, answer⟩] ∧
        outcome = (logoutOutcome answer, { c with connection := c.connection.heard answer }) := by
  rw [c.logout_eq found]
  exact run_send_iff c web fun answer c => (logoutOutcome answer, c)

/-! ## Listing and reordering -/

/-- What is taken out of the answer to a call. -/
def fetchOutcome (decode : Decoder α) : Answer → Except ControllerError (List α)
  | .error fault => .error (.transport fault)
  | .ok reply => Envelope.unwrap decode reply

/-- The client after the answer to a call, whose reply may bring a token whatever its status. -/
def afterFetch : Answer → Client
  | .ok reply => c.withToken (replyToken? reply)
  | .error _ => c

theorem fetch_eq (decode : Decoder α) (method : Method) (url : Url) (body token : Option String) :
    c.fetch decode method url body token =
      (c.send method url body token).bind fun r =>
        .done (fetchOutcome decode r.1, r.2.afterFetch r.1) := by
  rw [fetch]
  refine congrArg _ (funext fun r => ?_)
  obtain ⟨_ | reply, client⟩ := r <;> rfl

theorem run_fetch_iff (decode : Decoder α) {method : Method} {url : Url}
    {body token : Option String} (web : url.isWeb = true)
    {outcome : Except ControllerError (List α) × Client} :
    Run (c.fetch decode method url body token) turns outcome ↔
      ∃ answer, turns = [⟨c.connection.request method url body token, answer⟩] ∧
        outcome = (fetchOutcome decode answer,
          { c with connection := c.connection.heard answer }.afterFetch answer) := by
  rw [c.fetch_eq]
  exact run_send_iff c web fun answer c => (fetchOutcome decode answer, c.afterFetch answer)

end Answers

end Client

/-- The errand of a call. -/
def Call.errand : Call → Errand
  | list site => .list site
  | reorder site _ _ => .reorder site

/-- What is sent for an errand: one request, or nothing if there is no URL for it. -/
def Errand.Asks (errand : Errand) (base : Url) (platform : Platform) (turns : List Exchanged) :
    Prop :=
  match errand.function.url base platform with
  | .error _ => turns = []
  | .ok _ => ∃ request answer, turns = [⟨request, answer⟩] ∧ request.IsFor base platform errand

theorem Errand.Asks.isFor {errand : Errand} {base : Url} {platform : Platform}
    (h : errand.Asks base platform turns) : ∀ t ∈ turns, t.question.IsFor base platform errand := by
  intro t ht
  rw [Asks] at h
  split at h
  · subst h
    cases ht
  · obtain ⟨request, answer, rfl, isFor⟩ := h
    obtain rfl := List.mem_singleton.1 ht
    exact isFor

namespace Call

/-- The body of the request for a call. -/
def body? : Call → Option String
  | list _ => none
  | reorder _ ruleset updates => some (Client.reorderBody ruleset.spelling updates)

/-- What a call comes to, by the answer to its request. -/
def outcome : (call : Call) → Http.Answer → call.Answer
  | list _, answer => Client.fetchOutcome Rule.decode answer
  | reorder .., answer => (Client.fetchOutcome Decoder.json answer).map fun _ => ()

/-- What a call sends and comes to over a session: without a URL for it nothing is sent, and it
fails. -/
def Serves (base : Url) (platform : Platform) (call : Call) (turns : List Exchanged)
    (result : call.Answer) : Prop :=
  match call.errand.function.url base platform with
  | .error e => turns = [] ∧ result = .error e
  | .ok _ =>
    ∃ request answer, turns = [⟨request, answer⟩] ∧ request.IsFor base platform call.errand ∧
      request.body = call.body? ∧ result = call.outcome answer

variable {base : Url} {platform : Platform} {call : Call} {result : call.Answer}

theorem Serves.asks (h : call.Serves base platform turns result) :
    call.errand.Asks base platform turns := by
  rw [Serves] at h
  rw [Errand.Asks]
  split at h
  · exact h.1
  · obtain ⟨request, answer, rfl, isFor, -⟩ := h
    exact ⟨request, answer, rfl, isFor⟩

/-- A call that succeeds has sent one request, and was answered. -/
theorem Serves.exists_reply {found : call.Result}
    (h : call.Serves base platform turns (.ok found)) :
    ∃ request reply, turns = [⟨request, .ok reply⟩] ∧ request.IsFor base platform call.errand ∧
      request.body = call.body? ∧ call.outcome (.ok reply) = .ok found := by
  rw [Serves] at h
  split at h
  · cases h.2
  · obtain ⟨request, answer, rfl, isFor, body, outcome⟩ := h
    cases answer with
    | ok reply => exact ⟨request, reply, rfl, isFor, body, outcome.symm⟩
    | error fault => cases call <;> cases outcome

end Call

namespace Client

variable {c c' : Client}

/-- A client goes on to speak to the controller that it spoke to. -/
def Same (c c' : Client) : Prop := c'.base = c.base ∧ c'.platform = c.platform

theorem same_afterFetch (c : Client) (connection : Connection) (answer : Answer) :
    c.Same ({ c with connection := connection }.afterFetch answer) := by
  cases answer <;> exact ⟨rfl, rfl⟩

theorem serves_of_answer (onWeb : c.base.OnWeb) {call : Call} {result : call.Answer}
    (h : Run (answer call c) turns (result, c')) :
    call.Serves c.base c.platform turns result ∧ c.Same c' := by
  rw [Call.Serves]
  cases found : call.errand.function.url c.base c.platform with
  | error e =>
    cases call with
    | list site =>
      have noUrl : Endpoint.ofSite c.base c.platform site Endpoint.rulesPath = .error e := found
      simp only [answer, list, noUrl] at h
      obtain ⟨rfl, same⟩ := run_done_iff.1 h
      cases same
      exact ⟨⟨rfl, rfl⟩, rfl, rfl⟩
    | reorder site ruleset updates =>
      have noUrl : Endpoint.ofSite c.base c.platform site Endpoint.commandPath = .error e := found
      simp only [answer, reorder, noUrl] at h
      obtain ⟨rfl, same⟩ := run_done_iff.1 h
      cases same
      exact ⟨⟨rfl, rfl⟩, rfl, rfl⟩
  | ok url =>
    have web := Endpoint.Function.url_isWeb onWeb found
    cases call with
    | list site =>
      have hurl : Endpoint.ofSite c.base c.platform site Endpoint.rulesPath = .ok url := found
      simp only [answer, list, hurl] at h
      obtain ⟨reply, rfl, same⟩ := (run_fetch_iff c Rule.decode web).1 h
      cases same
      exact ⟨⟨_, reply, rfl, .of_url found rfl rfl, rfl, rfl⟩, same_afterFetch c _ reply⟩
    | reorder site ruleset updates =>
      have hurl : Endpoint.ofSite c.base c.platform site Endpoint.commandPath = .ok url := found
      simp only [answer, reorder, hurl] at h
      obtain ⟨_, _, outcome, rfl, hfetch, hdone⟩ := Dialogue.run_bind_iff.1 h
      obtain ⟨reply, rfl, rfl⟩ := (run_fetch_iff c Decoder.json web).1 hfetch
      obtain ⟨rfl, same⟩ := run_done_iff.1 hdone
      cases same
      exact ⟨⟨_, reply, rfl, .of_url found rfl rfl, rfl, rfl⟩, same_afterFetch c _ reply⟩

end Client

/-! ## Finding out the platform -/

/-- Nothing is to be found where the request went. -/
def Missed : Answer → Prop
  | .ok reply => reply.status = 404
  | .error _ => True

instance (answer : Answer) : Decidable (Missed answer) :=
  match answer with
  | .ok reply => inferInstanceAs (Decidable (reply.status = 404))
  | .error _ => inferInstanceAs (Decidable True)

/-- How the platform of a controller is found out: what answers the first probe with anything but
`not found` is a device, and what answers the second probe at all is a controller by itself. -/
inductive Detects (base : Url) : List Exchanged → Except ControllerError Platform → Prop
  | device {request : Request} {answer : Answer} (first : request.IsFor base .unifiOs .probe)
    (found : ¬ Missed answer) : Detects base [⟨request, answer⟩] (.ok .unifiOs)
  | alone {request request' : Request} {answer : Answer} {reply : Reply}
    (first : request.IsFor base .unifiOs .probe) (missed : Missed answer)
    (second : request'.IsFor base .classic .probe) :
    Detects base [⟨request, answer⟩, ⟨request', .ok reply⟩] (.ok .classic)
  | nowhere {request request' : Request} {answer : Answer} {fault : TransportFault}
    (first : request.IsFor base .unifiOs .probe) (missed : Missed answer)
    (second : request'.IsFor base .classic .probe) :
    Detects base [⟨request, answer⟩, ⟨request', .error fault⟩] (.error (.transport fault))

theorem Detects.isFor {base : Url} {result : Except ControllerError Platform}
    (h : Detects base turns result) :
    ∀ t ∈ turns, ∃ platform, t.question.IsFor base platform .probe := by
  cases h with
  | device first => simpa using ⟨_, first⟩
  | alone first _ second => simpa using ⟨⟨_, first⟩, ⟨_, second⟩⟩
  | nowhere first _ second => simpa using ⟨⟨_, first⟩, ⟨_, second⟩⟩

/-- Whoever reads along knows when the platform is found out, and which it is. -/
theorem Detects.unique {base : Url} {probes probes' rest rest' : List Exchanged}
    {result result' : Except ControllerError Platform} (h : Detects base probes result)
    (h' : Detects base probes' result') (same : probes ++ rest = probes' ++ rest') :
    probes = probes' ∧ result = result' := by
  obtain ⟨head, tail⟩ : probes.head? = probes'.head? ∧
    (probes ++ rest).tail = (probes' ++ rest').tail := by
    refine ⟨?_, congrArg List.tail same⟩
    have heads := congrArg List.head? same
    cases h <;> cases h' <;> exact heads
  cases h with
  | device _ found =>
    cases h' with
    | device =>
      cases head
      exact ⟨rfl, rfl⟩
    | alone _ missed | nowhere _ missed =>
      cases head
      exact absurd missed found
  | alone _ missed | nowhere _ missed =>
    cases h' with
    | device _ found =>
      cases head
      exact absurd missed found
    | alone | nowhere =>
      obtain ⟨second, -⟩ := List.cons.inj tail
      cases head
      cases second <;> exact ⟨rfl, rfl⟩

/-- What the second probe comes to. -/
def secondProbe : Answer → Except ControllerError Platform
  | .error fault => .error (.transport fault)
  | .ok _ => .ok .classic

theorem detect_eq {base url url' : Url} (c : Connection)
    (found : Endpoint.below base Platform.unifiOs.loginPath = .ok url)
    (found' : Endpoint.below base Platform.classic.loginPath = .ok url') :
    Client.detect c base = (c.send .get url none none).bind fun r =>
      if Missed r.1 then (r.2.send .get url' none none).bind fun r => .done (secondProbe r.1, r.2)
      else .done (.ok .unifiOs, r.2) := by
  -- The second probe is written out once for a fault and once for `not found`; both are the same.
  have second (c : Connection)
      (d : Answer × Connection → Exchange (Except ControllerError Platform × Connection))
      (hd : ∀ r, d r = .done (secondProbe r.1, r.2)) : (c.send .get url' none none).bind d =
        (c.send .get url' none none).bind fun r => .done (secondProbe r.1, r.2) :=
          congrArg _ (funext hd)
  simp only [Client.detect, found, found']
  refine congrArg _ (funext fun r => ?_)
  obtain ⟨_ | reply, c⟩ := r
  · exact second c _ fun r => by obtain ⟨_ | _, _⟩ := r <;> rfl
  · by_cases missed : reply.status = 404
    · rw [if_pos (show Missed (.ok reply) from missed)]
      simp only [missed, if_true]
      exact second c _ fun r => by obtain ⟨_ | _, _⟩ := r <;> rfl
    · rw [if_neg (show ¬ Missed (.ok reply) from missed)]
      simp only [missed, if_false]

theorem detects_of_detect {base : Url} (onWeb : base.OnWeb) {c c' : Connection}
    {result : Except ControllerError Platform} (h : Run (Client.detect c base) turns (result, c')) :
    Detects base turns result := by
  obtain ⟨url, found, web⟩ := Endpoint.Function.exists_url onWeb .unifiOs (f := .login) rfl
  obtain ⟨url', found', web'⟩ := Endpoint.Function.exists_url onWeb .classic (f := .login) rfl
  rw [detect_eq c found found'] at h
  obtain ⟨_, rest, ⟨answer, _⟩, rfl, hfirst, hrest⟩ := Dialogue.run_bind_iff.1 h
  obtain ⟨rfl, rfl⟩ := (Connection.run_send_iff web).1 hfirst
  have first : (c.request .get url none none).IsFor base .unifiOs .probe := .of_url found rfl rfl
  by_cases missed : Missed answer
  · rw [if_pos missed] at hrest
    obtain ⟨_, _, ⟨answer', _⟩, rfl, hsecond, hdone⟩ := Dialogue.run_bind_iff.1 hrest
    obtain ⟨rfl, rfl⟩ := (Connection.run_send_iff web').1 hsecond
    obtain ⟨rfl, same⟩ := run_done_iff.1 hdone
    cases same
    have second : ((c.heard answer).request .get url' none none).IsFor base .classic .probe :=
      .of_url found' rfl rfl
    cases answer' with
    | error fault => exact .nowhere first missed second
    | ok reply => exact .alone first missed second
  · rw [if_neg missed] at hrest
    obtain ⟨rfl, same⟩ := run_done_iff.1 hrest
    cases same
    exact .device first missed

/-! ## Beginning a session -/

/-- How a session is begun, on which platform, or why it is not: the platform is found out, and one
login is sent to it. -/
inductive Opens (config : Access) (machine : Machine) :
    List Exchanged → Except ControllerError Platform → Prop
  | untrusted {e : ControllerError} (check : config.trust.check machine = .error e) :
    Opens config machine [] (.error e)
  | unfound {probes : List Exchanged} {e : ControllerError}
    (check : config.trust.check machine = .ok ()) (detects : Detects config.url probes (.error e)) :
    Opens config machine probes (.error e)
  | refused {probes : List Exchanged} {platform : Platform} {request : Request} {answer : Answer}
    {e : ControllerError} (check : config.trust.check machine = .ok ())
    (detects : Detects config.url probes (.ok platform))
    (login : request.IsFor config.url platform .login)
    (body : request.body = some (Client.loginBody config.username config.password))
    (outcome : Client.loginOutcome answer = .error e) :
    Opens config machine (probes ++ [⟨request, answer⟩]) (.error e)
  | granted {probes : List Exchanged} {platform : Platform} {request : Request} {reply : Reply}
    (check : config.trust.check machine = .ok ())
    (detects : Detects config.url probes (.ok platform))
    (login : request.IsFor config.url platform .login)
    (body : request.body = some (Client.loginBody config.username config.password))
    (success : reply.isSuccess = true) :
    Opens config machine (probes ++ [⟨request, .ok reply⟩]) (.ok platform)

theorem Opens.isFor {config : Access} {machine : Machine} {result : Except ControllerError Platform}
    (h : Opens config machine turns result) :
    ∀ t ∈ turns, ∃ platform errand, errand.needsSession = false ∧
    t.question.IsFor config.url platform errand := by
  have probes {turns : List Exchanged} {result : Except ControllerError Platform}
      (h : Detects config.url turns result) : ∀ t ∈ turns, ∃ platform errand,
        errand.needsSession = false ∧ t.question.IsFor config.url platform errand := by
    intro t ht
    obtain ⟨platform, probe⟩ := h.isFor t ht
    exact ⟨platform, .probe, rfl, probe⟩
  cases h with
  | untrusted => exact fun _ ht => nomatch ht
  | unfound _ detects => exact probes detects
  | refused _ detects login | granted _ detects login =>
    intro t ht
    rcases List.mem_append.1 ht with ht | ht
    · exact probes detects t ht
    · obtain rfl := List.mem_singleton.1 ht
      exact ⟨_, .login, rfl, login⟩

/-- The first thing that is sent is a probe. -/
theorem Opens.starts {config : Access} {machine : Machine}
    {result : Except ControllerError Platform} (h : Opens config machine turns result)
    (check : config.trust.check machine = .ok ()) :
    ∃ t ∈ turns.head?, t.question.IsFor config.url .unifiOs .probe := by
  have first {turns : List Exchanged} {result : Except ControllerError Platform}
      (h : Detects config.url turns result) :
      ∃ t ∈ turns.head?, t.question.IsFor config.url .unifiOs .probe := by
    cases h with
    | device first | alone first | nowhere first => exact ⟨_, rfl, first⟩
  cases h with
  | untrusted untrusted => cases untrusted.symm.trans check
  | unfound _ detects => exact first detects
  | refused _ detects | granted _ detects =>
    obtain ⟨t, ht, probe⟩ := first detects
    exact ⟨t, by simp [Option.mem_def.1 ht], probe⟩

namespace Opens

variable {config : Access} {machine : Machine} {first first' rest rest' : List Exchanged}
  {result result' : Except ControllerError Platform}

theorem eq_of_untrusted {e : ControllerError} (h : Opens config machine first result)
    (untrusted : config.trust.check machine = .error e) : first = [] ∧ result = .error e := by
  cases h with
  | untrusted check =>
    cases check.symm.trans untrusted
    exact ⟨rfl, rfl⟩
  | unfound check | refused check | granted check => cases check.symm.trans untrusted

/-- If nothing is amiss with what is trusted, there is one login behind the probes that found the
platform out. -/
theorem cases_of_trusted (h : Opens config machine first result)
    (trusted : config.trust.check machine = .ok ()) :
    (∃ e, result = .error e ∧ Detects config.url first (.error e)) ∨
      ∃ probes platform login, first = probes ++ [login] ∧
      Detects config.url probes (.ok platform) ∧
        result = (Client.loginOutcome login.answer).map fun _ => platform := by
  cases h with
  | untrusted check => cases check.symm.trans trusted
  | unfound _ detects => exact .inl ⟨_, rfl, detects⟩
  | refused _ detects _ _ outcome =>
    refine .inr ⟨_, _, _, rfl, detects, ?_⟩
    rw [outcome]
    rfl
  | granted _ detects _ _ success =>
    refine .inr ⟨_, _, _, rfl, detects, ?_⟩
    rw [Client.loginOutcome_eq_ok_iff.2 ⟨_, rfl, success⟩]
    rfl

/-- Whoever reads along knows when the attempt is over, and what came of it. -/
theorem unique (h : Opens config machine first result) (h' : Opens config machine first' result')
    (same : first ++ rest = first' ++ rest') : first = first' ∧ result = result' := by
  cases check : config.trust.check machine with
  | error e =>
    obtain ⟨rfl, rfl⟩ := h.eq_of_untrusted check
    obtain ⟨rfl, rfl⟩ := h'.eq_of_untrusted check
    exact ⟨rfl, rfl⟩
  | ok _ =>
    rcases h.cases_of_trusted check with ⟨e, rfl, probed⟩ |
      ⟨probes, platform, login, rfl, probed, rfl⟩ <;>
      rcases h'.cases_of_trusted check with ⟨e', rfl, probed'⟩ |
        ⟨probes', platform', login', rfl, probed', rfl⟩
    · exact probed.unique probed' same
    · rw [List.append_assoc] at same
      cases (probed.unique probed' same).2
    · rw [List.append_assoc] at same
      cases (probed.unique probed' same).2
    · simp only [List.append_assoc] at same
      obtain ⟨rfl, found⟩ := probed.unique probed' same
      cases found
      cases (List.cons.inj (List.append_cancel_left same)).1
      exact ⟨rfl, rfl⟩

end Opens

theorem Provider.opens_of_connect {config : Access} {machine : Machine} (onWeb : config.url.OnWeb)
    {result : Except ControllerError Client} (h : Run (connect config machine) turns result) :
    Opens config machine turns (result.map (·.platform)) ∧ ∀ c, result = .ok c →
    c.base = config.url := by
  rw [connect] at h
  cases check : config.trust.check machine with
  | error e =>
    simp only [check] at h
    obtain ⟨rfl, rfl⟩ := run_done_iff.1 h
    exact ⟨.untrusted check, by simp⟩
  | ok _ =>
    simp only [check] at h
    obtain ⟨probes, rest, ⟨found, connection⟩, rfl, hdetect, hrest⟩ := Dialogue.run_bind_iff.1 h
    have detects := detects_of_detect onWeb hdetect
    cases found with
    | error e =>
      obtain ⟨rfl, rfl⟩ := run_done_iff.1 hrest
      rw [List.append_nil]
      exact ⟨.unfound check detects, by simp⟩
    | ok platform =>
      obtain ⟨_, _, ⟨outcome, client⟩, rfl, hlogin, hdone⟩ := Dialogue.run_bind_iff.1 hrest
      obtain ⟨url, found, web⟩ := Endpoint.Function.exists_url onWeb platform (f := .login) rfl
      obtain ⟨answer, rfl, same⟩ :=
        (Client.run_login_iff ⟨config.url, platform, none, connection⟩ found web).1 hlogin
      obtain ⟨rfl, rfl⟩ := Prod.mk.inj same
      obtain ⟨rfl, rfl⟩ := run_done_iff.1 hdone
      have login :
          (connection.request .post url (some (Client.loginBody config.username config.password))
          none).IsFor config.url platform .login := .of_url found rfl rfl
      rw [List.append_nil]
      cases outcome : Client.loginOutcome answer with
      | error e => exact ⟨.refused check detects login rfl outcome, fun c hc => nomatch hc⟩
      | ok _ =>
        obtain ⟨reply, rfl, success⟩ := Client.loginOutcome_eq_ok_iff.1 outcome
        refine ⟨?_, ?_⟩
        · have kept := Client.afterLogin_platform
            ⟨config.url, platform, none, connection.heard (.ok reply)⟩ (.ok reply)
          simp only [Except.map, kept]
          exact .granted check detects login rfl success
        · intro c hc
          cases hc
          exact Client.afterLogin_base _ _

end FirewallOrder
