import FirewallOrder.Http.Script
import FirewallOrder.Proofs.Provider.Conduct

/-!
# The history of a provider

A provider performs one act after the other (`conducts_of_history`), and its requests come in one
order: probes and logins that are refused, then one login that is granted, and from there on only
what needs a session, all on the platform of that login (`Standing`). So the session can be read off
what was sent (`grants_of_standing`), and `history_orderly` says of every act how it follows from
what was sent before it.
-/

namespace FirewallOrder.Provider

open Dialogue Http

/-- An act, with all that was sent for it and what it came to. -/
structure Entry where
  act : Act
  turns : List Exchanged
  outcome : act.Outcome

/-- The acts of a provider one after the other, each with whatever answers the controller gave. -/
def History : Provider → List Entry → Provider → Prop
  | p, [], q => q = p
  | p, e :: log, q => ∃ next, Run (e.act.perform p) e.turns (e.outcome, next) ∧ History next log q

/-- All that was sent, in order. -/
def sent (log : List Entry) : List Exchanged := log.flatMap Entry.turns

variable {config : Access} {machine : Machine} {base : Url} {platform : Platform} {p q : Provider}
  {log : List Entry} {past turns : List Exchanged}

@[simp] theorem sent_nil : sent [] = [] := rfl

@[simp] theorem sent_cons (e : Entry) (log : List Entry) :
    sent (e :: log) = e.turns ++ sent log := rfl

/-- The acts of a provider over a network with a script, and the provider after them. -/
def play (n : Network) (p : Provider) : List Act → List Entry × Provider
  | [] => ([], p)
  | act :: acts =>
    let after := n.run (act.perform p)
    let rest := play after.2 after.1.2 acts
    (⟨act, (act.perform p).turnsWith Network.answer n, after.1.1⟩ :: rest.1, rest.2)

theorem history_play (n : Network) (p : Provider) (acts : List Act) :
    History p (play n p acts).1 (play n p acts).2 := by
  induction acts generalizing n p with
  | nil => rfl
  | cons act acts ih => exact ⟨_, run_interpret _ _ n, ih _ _⟩

theorem history_append_iff {before after : List Entry} :
    History p (before ++ after) q ↔ ∃ next, History p before next ∧ History next after q := by
  induction before generalizing p with
  | nil => simp [History]
  | cons e before ih =>
    simp only [List.cons_append, History, ih]
    constructor
    · rintro ⟨r, hrun, next, hbefore, hafter⟩
      exact ⟨next, ⟨r, hrun, hbefore⟩, hafter⟩
    · rintro ⟨next, ⟨r, hrun, hbefore⟩, hafter⟩
      exact ⟨r, hrun, next, hbefore, hafter⟩

/-- Acts one after the other, each conducted as the session before it calls for. -/
inductive Conducts (config : Access) (machine : Machine) :
    Option Platform → List Entry → Option Platform → Prop
  | nil (session : Option Platform) : Conducts config machine session [] session
  | cons {session next last : Option Platform} {e : Entry} {log : List Entry}
    (conduct : Conduct config machine session e.act e.turns e.outcome next)
    (rest : Conducts config machine next log last) : Conducts config machine session (e :: log) last

/-- **All acts of a provider.** -/
theorem conducts_of_history (onWeb : config.url.OnWeb) (bound : Bound config machine p)
    (history : History p log q) :
    Bound config machine q ∧ Conducts config machine p.platform? log q.platform? := by
  induction log generalizing p with
  | nil =>
    obtain rfl : q = p := history
    exact ⟨bound, .nil _⟩
  | cons e log ih =>
    obtain ⟨next, hrun, hrest⟩ := history
    obtain ⟨bound', conduct⟩ := conduct_of_perform onWeb bound hrun
    obtain ⟨bound'', rest⟩ := ih bound' hrest
    exact ⟨bound'', .cons conduct rest⟩

/-! ## What was sent -/

/-- A probe, or a login that is not granted. -/
def Outside (base : Url) (t : Exchanged) : Prop :=
  ((∃ platform, t.question.IsFor base platform .probe) ∨ t.question.IsLogin base) ∧
  grant? base t = none

/-- Something that needs a session, on this platform. -/
def Inside (base : Url) (platform : Platform) (t : Exchanged) : Prop :=
  ∃ errand : Errand, errand.needsSession = true ∧ t.question.IsFor base platform errand

/-- The order of all that was sent, by the platform of the session that there is now. -/
def Standing (base : Url) (past : List Exchanged) : Option Platform → Prop
  | none => ∀ t ∈ past, Outside base t
  | some platform =>
    ∃ before login after, past = before ++ login :: after ∧ (∀ t ∈ before, Outside base t) ∧
      grant? base login = some platform ∧ ∀ t ∈ after, Inside base platform t

theorem outside_of_refused {request : Request} {answer : Answer} {e : ControllerError}
    (login : request.IsFor base platform .login) (refused : Client.loginOutcome answer = .error e) :
    Outside base ⟨request, answer⟩ := by
  refine ⟨.inr (Request.isLogin_iff.2 ⟨platform, login⟩), ?_⟩
  rw [Option.eq_none_iff_forall_ne_some]
  intro platform' granted
  have success := Client.loginOutcome_eq_ok_iff.2 (grant?_eq_some_iff.1 granted).2
  exact nomatch refused.symm.trans success

theorem outside_of_probe {t : Exchanged} (h : t.question.IsFor base platform .probe) :
    Outside base t := by
  refine ⟨.inl ⟨platform, h⟩, grant?_eq_none_of_not_isLogin fun login => ?_⟩
  obtain ⟨platform', h'⟩ := Request.isLogin_iff.1 login
  have := (h.kind_eq h').1
  cases this

theorem Inside.not_isFor {t : Exchanged} (h : Inside base platform t) {platform' : Platform}
    {errand : Errand} (free : errand.needsSession = false) :
    ¬ t.question.IsFor base platform' errand := by
  obtain ⟨errand', needs, isFor⟩ := h
  exact isFor.not_of_needsSession needs free

theorem Inside.not_isLogin {t : Exchanged} (h : Inside base platform t) :
    ¬ t.question.IsLogin base := by
  rw [Request.isLogin_iff]
  rintro ⟨platform', isFor⟩
  exact h.not_isFor rfl isFor

theorem Act.inside_of_asks {act : Act} (h : act.Asks base platform turns) :
    ∀ t ∈ turns, Inside base platform t := by
  intro t ht
  cases act with
  | connect =>
    obtain rfl : turns = [] := h
    cases ht
  | call call =>
    refine ⟨call.errand, ?_, h.isFor t ht⟩
    cases call <;> rfl
  | close =>
    obtain ⟨request, answer, rfl, isFor⟩ := h
    obtain rfl := List.mem_singleton.1 ht
    exact ⟨.logout, rfl, isFor⟩

theorem grants_of_outside (h : ∀ t ∈ past, Outside base t) : grants base past = [] :=
  List.filterMap_eq_nil_iff.2 fun t ht => (h t ht).2

theorem grants_of_inside (h : ∀ t ∈ past, Inside base platform t) : grants base past = [] :=
  List.filterMap_eq_nil_iff.2 fun t ht => grant?_eq_none_of_not_isLogin (h t ht).not_isLogin

/-- **The session is that of the one login that was granted.** -/
theorem grants_of_standing {session : Option Platform} (h : Standing base past session) :
    grants base past = session.toList := by
  cases session with
  | none => exact grants_of_outside h
  | some platform =>
    obtain ⟨before, login, after, rfl, outside, granted, inside⟩ := h
    rw [grants, List.filterMap_append, List.filterMap_cons_some granted]
    exact congrArg₂ (· ++ platform :: ·) (grants_of_outside outside) (grants_of_inside inside)

/-! ## One act after the other -/

namespace Standing

theorem append_inside (h : Standing base past (some platform))
    (inside : ∀ t ∈ turns, Inside base platform t) :
    Standing base (past ++ turns) (some platform) := by
  obtain ⟨before, login, after, rfl, outside, granted, inside'⟩ := h
  refine ⟨before, login, after ++ turns, by simp, outside, granted, fun t ht => ?_⟩
  exact (List.mem_append.1 ht).elim (inside' t) (inside t)

theorem outside_append (outside : ∀ t ∈ past, Outside base t) {session : Option Platform}
    (h : Standing base turns session) : Standing base (past ++ turns) session := by
  cases session with
  | none => exact fun t ht => (List.mem_append.1 ht).elim (outside t) (h t)
  | some platform =>
    obtain ⟨before, login, after, rfl, outside', granted, inside⟩ := h
    refine ⟨past ++ before, login, after, by simp, fun t ht => ?_, granted, inside⟩
    exact (List.mem_append.1 ht).elim (outside t) (outside' t)

theorem of_opens {result : Except ControllerError Platform}
    (h : Opens config machine turns result) : Standing config.url turns result.toOption := by
  have probes {turns : List Exchanged} {result : Except ControllerError Platform}
      (h : Detects config.url turns result) : ∀ t ∈ turns, Outside config.url t :=
    fun t ht => outside_of_probe (h.isFor t ht).choose_spec
  cases h with
  | untrusted _ => exact fun _ ht => nomatch ht
  | unfound _ detects => exact probes detects
  | refused _ detects login _ refused =>
    intro t ht
    rcases List.mem_append.1 ht with ht | ht
    · exact probes detects t ht
    · obtain rfl := List.mem_singleton.1 ht
      exact outside_of_refused login refused
  | @granted _ _ request reply _ detects login _ success =>
    have granted := grant?_eq_some_iff (t := ⟨request, .ok reply⟩).2 ⟨login, reply, rfl, success⟩
    exact ⟨_, _, [], rfl, probes detects, granted, fun _ ht => nomatch ht⟩

/-- One act keeps the order. -/
theorem conduct {session session' : Option Platform}
    (h : Standing config.url past session) {act : Act} {outcome : act.Outcome}
    (conduct : Conduct config machine session act turns outcome session') :
    Standing config.url (past ++ turns) session' := by
  cases conduct with
  | inside asks => exact h.append_inside (Act.inside_of_asks asks)
  | idle => rwa [List.append_nil]
  | opened _ opens asks =>
    rw [← List.append_assoc]
    exact (outside_append h (of_opens opens)).append_inside (Act.inside_of_asks asks)
  | unopened _ opens => exact outside_append h (of_opens opens)

theorem conducts {session last : Option Platform} (h : Standing config.url past session)
    (run : Conducts config machine session log last) :
    Standing config.url (past ++ sent log) last := by
  induction run generalizing past with
  | nil => rwa [sent_nil, List.append_nil]
  | cons conduct _ ih =>
    have := ih (h.conduct conduct)
    rwa [List.append_assoc] at this

/-- What was sent before a request, and behind it. -/
theorem split {session : Option Platform} (h : Standing base past session)
    {earlier later : List Exchanged} {t : Exchanged} (hpast : past = earlier ++ t :: later) :
    Outside base t ∨
    ∃ platform, (grant? base t = some platform ∧ ∀ u ∈ later, Inside base platform u) ∨
      Inside base platform t ∧ (∀ u ∈ later, Inside base platform u) ∧
      Standing base earlier (some platform) := by
  cases session with
  | none => exact .inl (h t (by simp [hpast]))
  | some platform =>
    obtain ⟨before, login, after, hlogin, outside, granted, inside⟩ := h
    -- The request stands behind the login that was granted, or is this login, or stands before it.
    rcases List.append_eq_append_iff.1 (hlogin.symm.trans hpast) with ⟨mid, hearlier, htail⟩ |
      ⟨mid, hbefore, htail⟩
    · cases mid with
      | nil =>
        obtain ⟨rfl, rfl⟩ := List.cons.inj htail
        exact .inr ⟨platform, .inl ⟨granted, inside⟩⟩
      | cons m mid =>
        obtain ⟨rfl, rfl⟩ := List.cons.inj htail
        refine .inr ⟨platform, .inr ⟨inside t (by simp), fun u hu => inside u (by simp [hu]), ?_⟩⟩
        exact ⟨before, _, mid, hearlier, outside, granted, fun u hu => inside u (by simp [hu])⟩
    · cases mid with
      | nil =>
        obtain ⟨rfl, rfl⟩ := List.cons.inj htail
        exact .inr ⟨platform, .inl ⟨granted, inside⟩⟩
      | cons m mid =>
        obtain ⟨rfl, -⟩ := List.cons.inj htail
        exact .inl (outside t (by simp [hbefore]))

end Standing

/-! ## Histories -/

namespace Conducts

variable {session last : Option Platform}

/-- Whoever only closes sends nothing. -/
theorem sent_of_closed (run : Conducts config machine session log last) (noSession : session = none)
    (closed : ∀ e ∈ log, e.act = .close) : sent log = [] := by
  induction run with
  | nil => rfl
  | cons conduct _ ih =>
    subst noSession
    obtain ⟨nothing, noSession'⟩ := conduct.of_close (closed _ (by simp))
    rw [sent_cons, nothing, ih noSession' fun e he => closed e (by simp [he])]
    rfl

theorem inside (run : Conducts config machine session log last) (begun : session = some platform) :
    ∀ t ∈ sent log, Inside config.url platform t := by
  induction run with
  | nil => exact fun _ ht => nomatch ht
  | cons conduct _ ih =>
    subst begun
    obtain ⟨asks, begun'⟩ := conduct.of_some
    intro t ht
    rw [sent_cons] at ht
    exact (List.mem_append.1 ht).elim (Act.inside_of_asks asks t) (ih begun' t)

end Conducts

theorem standing_of_start (onWeb : config.url.OnWeb)
    (history : History (start config machine) log q) :
    Bound config machine q ∧ Standing config.url (sent log) q.platform? := by
  obtain ⟨bound, run⟩ := conducts_of_history onWeb (bound_start config machine) history
  have nothing : Standing config.url [] (start config machine).platform? := fun _ ht => nomatch ht
  exact ⟨bound, nothing.conducts run⟩

/-- **The requests of a provider come in order.** In every history of a provider whose controller
has a URL of the web, and where nothing is amiss with what it trusts, whatever the controller
answers:

* nothing is sent as long as nothing was asked for but to close;
* each act follows from what was sent before it (`Conduct`): without a login that was granted, a
  session is begun anew, by a probe first, or the reason why it cannot be is the outcome and nothing
  else is sent; with one, nothing is sent to begin a session, and to close sends one logout;
* after a login that was granted there is no probe and no login, and all goes to the platform of
  that login;
* whatever needs a session comes after exactly one login that was granted. -/
theorem history_orderly {reader : UrlReader} {text : String}
    (parsed : reader.read text = .ok config.url) (web : config.url.isWeb = true)
    (check : config.trust.check machine = .ok ()) (history : History (start config machine) log q) :
    (∀ before after, log = before ++ after → (∀ e ∈ before, e.act = .close) → sent before = []) ∧
      (∀ before e after, log = before ++ e :: after →
        Conduct config machine (grants config.url (sent before)).head? e.act e.turns e.outcome
            (grants config.url (sent before ++ e.turns)).head? ∧
          (e.act ≠ .close → grants config.url (sent before) = [] →
            ∃ t ∈ e.turns.head?, t.question.IsFor config.url .unifiOs .probe)) ∧
      ∀ earlier t later, sent log = earlier ++ t :: later →
        (∀ platform, grant? config.url t = some platform → ∀ u ∈ later,
          (∃ errand : Errand, errand.needsSession = true ∧
            u.question.IsFor config.url platform errand) ∧
            ∀ platform', ¬ u.question.IsFor config.url platform' .probe ∧
              ¬ u.question.IsFor config.url platform' .login) ∧
        ∀ platform (errand : Errand), errand.needsSession = true →
        t.question.IsFor config.url platform errand →
          ∃ platform', grants config.url earlier = [platform'] := by
  have onWeb := reader.onWeb parsed web
  refine ⟨?_, ?_, ?_⟩
  · rintro before after rfl closed
    obtain ⟨p, hbefore, -⟩ := history_append_iff.1 history
    obtain ⟨-, run⟩ := conducts_of_history onWeb (bound_start config machine) hbefore
    exact run.sent_of_closed rfl closed
  · rintro before e after rfl
    obtain ⟨p, hbefore, next, hrun, -⟩ := history_append_iff.1 history
    obtain ⟨bound, standing⟩ := standing_of_start onWeb hbefore
    obtain ⟨-, conduct⟩ := conduct_of_perform onWeb bound hrun
    have before_eq := grants_of_standing standing
    have after_eq := grants_of_standing (standing.conduct conduct)
    rw [before_eq, after_eq, Option.head?_toList, Option.head?_toList]
    refine ⟨conduct, fun open_ none_ => conduct.starts check open_ ?_⟩
    simpa using none_
  · intro earlier t later hsent
    obtain ⟨-, standing⟩ := standing_of_start onWeb history
    rcases standing.split hsent with ⟨free, ungranted⟩ |
      ⟨platform', ⟨granted, inside⟩ | ⟨tInside, inside, before⟩⟩
    · constructor
      · intro platform granted
        cases ungranted.symm.trans granted
      · intro platform errand needs isFor
        rcases free with ⟨platform', probe⟩ | login
        · exact absurd probe (isFor.not_of_needsSession needs rfl)
        · obtain ⟨platform', login⟩ := Request.isLogin_iff.1 login
          exact absurd login (isFor.not_of_needsSession needs rfl)
    · refine ⟨fun platform granted' u hu => ?_, ?_⟩
      · obtain rfl := Option.some.inj (granted.symm.trans granted')
        exact ⟨inside u hu, fun _ => ⟨(inside u hu).not_isFor rfl, (inside u hu).not_isFor rfl⟩⟩
      · intro platform errand needs isFor
        exact absurd (grant?_eq_some_iff.1 granted).1 (isFor.not_of_needsSession needs rfl)
    · refine ⟨fun platform granted => ?_, fun _ _ _ _ => ⟨platform', grants_of_standing before⟩⟩
      exact absurd (isLogin_of_grant? granted) tInside.not_isLogin

/-- A classic controller refuses a login, closes the connection on the next probe, and then lets the
account in. -/
def wavering : Network :=
  ⟨fun _ => true, [.reply ⟨404, [], some ""⟩, .reply ⟨200, [], some ""⟩, .reply ⟨401, [], some ""⟩,
    .drop, .reply ⟨200, [], some ""⟩, .reply ⟨200, [], some ""⟩], []⟩

/-- An account at a device, whose certificate nobody looks at. -/
def admin : Access := ⟨Endpoint.ofDevice [""], "admin", "secret", "default", .anyone, 30⟩

/-- Somebody closes too early, lists twice, and closes. -/
def trial : List Entry × Provider :=
  play wavering (start admin (.fileless (.ofNames .plain) []))
    [.close, .call (.list "default"), .call (.list "default"), .close]

theorem history_orderly_trial :
    (sent trial.1).map (grant? admin.url) =
      [none, none, none, none, none, some .classic, none, none] ∧ ∃ _ : 2 < trial.1.length,
      trial.1[2].act = .call (.list "default") ∧
        ∃ t ∈ trial.1[2].turns.head?, t.question.IsFor admin.url .unifiOs .probe := by
  have long : 2 < trial.1.length := by decide +kernel
  have parsed : (UrlReader.ofNames .plain).read "http://10.0.0.1" = .ok admin.url := by rfl
  have ungranted : grants admin.url (sent (trial.1.take 2)) = [] := by decide +kernel
  have split : trial.1 = trial.1.take 2 ++ trial.1[2] :: trial.1.drop 3 := by
    rw [← List.drop_eq_getElem_cons long, List.take_append_drop]
  have trusted : admin.trust.check (.fileless (.ofNames .plain) []) = .ok () := by rfl
  obtain ⟨-, conduct, -⟩ := history_orderly parsed rfl trusted (history_play wavering _ _)
  have probe := (conduct _ _ _ split).2 (fun h => nomatch h) ungranted
  exact ⟨by decide +kernel, long, rfl, probe⟩

end FirewallOrder.Provider
