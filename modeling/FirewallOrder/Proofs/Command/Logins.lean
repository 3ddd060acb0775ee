import FirewallOrder.Proofs.Command.Session
import FirewallOrder.Proofs.Managed.Preview

/-!
# How often a command logs in

One attempt to begin a session shows the account to the controller once at most (`Opens.logins_le`).
Nothing is kept of an attempt that failed, so the next call makes another one. Only a command that
brings an order about makes a call after one that failed: it lists the rules once more, to see what
is left behind. If it is refused its first login and the controller is found again, it shows the
account a second time (`OrderCommand.logins_of_run`).
-/

namespace FirewallOrder

open Dialogue Http Provider

/-- How many logins were sent. -/
def logins (base : Url) (turns : List Exchanged) :
    Nat := turns.countP fun t => t.question.IsLogin base

variable {config : Access} {machine : Machine} {base : Url} {platform : Platform}
  {turns : List Exchanged}

theorem logins_append (base : Url) (first second : List Exchanged) :
    logins base (first ++ second) = logins base first + logins base second := List.countP_append

theorem logins_of_inside (h : ∀ t ∈ turns, Inside base platform t) : logins base turns = 0 := by
  rw [logins, List.countP_eq_zero]
  intro t ht
  simpa using (h t ht).not_isLogin

theorem Detects.logins_eq {result : Except ControllerError Platform}
    (h : Detects base turns result) : logins base turns = 0 := by
  rw [logins, List.countP_eq_zero]
  intro t ht login
  obtain ⟨platform, probe⟩ := h.isFor t ht
  obtain ⟨platform', isFor⟩ := Request.isLogin_iff.1 (of_decide_eq_true login)
  exact absurd (probe.kind_eq isFor).1 (by decide)

namespace Opens

/-- One login is sent, if the platform was found out. -/
theorem logins_of_login {probes : List Exchanged} {result : Except ControllerError Platform}
    {request : Request} {answer : Answer} (detects : Detects base probes result)
    (login : request.IsFor base platform .login) :
    logins base (probes ++ [⟨request, answer⟩]) = 1 := by
  have one : logins base [⟨request, answer⟩] = 1 :=
    List.countP_singleton.trans (if_pos (decide_eq_true (Request.isLogin_iff.2 ⟨platform, login⟩)))
  rw [logins_append, detects.logins_eq, one]

theorem logins_of_ok (h : Opens config machine turns (.ok platform)) :
    logins config.url turns = 1 := by
  cases h with
  | granted _ detects login => exact logins_of_login detects login

theorem logins_le {result : Except ControllerError Platform}
    (h : Opens config machine turns result) : logins config.url turns ≤ 1 := by
  cases h with
  | untrusted => exact Nat.zero_le 1
  | unfound _ detects =>
    rw [detects.logins_eq]
    exact Nat.zero_le 1
  | refused _ detects login | granted _ detects login => exact (logins_of_login detects login).le

end Opens

/-! ## The first call -/

namespace Provider.Conducts

variable {log : List Entry} {session last : Option Platform}

/-- The first call begins a session, in which all the rest is sent, or it fails, and there is still
none. -/
theorem begins_or_fails {call : Call} {answer : call.Answer}
    (run : Conducts config machine none (⟨.call call, turns, answer⟩ :: log) last) :
    (∃ platform first rest, turns = first ++ rest ∧ Opens config machine first (.ok platform) ∧
      logins config.url (turns ++ sent log) = 1) ∨
      ∃ e, answer = .error e ∧ Opens config machine turns (.error e) ∧
      Conducts config machine none log last := by
  cases run with
  | cons conduct later =>
    rcases conduct.of_none nofun with ⟨platform, first, rest, rfl, opens, asks, begun⟩ |
      ⟨e, failed, opens, rfl⟩
    · have inSession := logins_of_inside (Act.inside_of_asks asks)
      have last := logins_of_inside (later.inside begun)
      refine .inl ⟨platform, first, rest, rfl, opens, ?_⟩
      rw [logins_append, logins_append, opens.logins_of_ok, inSession, last]
    · exact .inr ⟨e, failed, opens, later⟩

/-- To close sends nothing without a session. -/
theorem sent_of_unbegun {outcome : Act.close.Outcome}
    (run : Conducts config machine none [⟨.close, turns, outcome⟩] last) :
    sent [⟨.close, turns, outcome⟩] = [] :=
  run.sent_of_closed rfl fun _ he => by rw [List.mem_singleton.1 he]

/-- One call tries to begin one session. -/
theorem opens_of_one_call {s : Served} {ending : List Exchanged} {outcome : Act.close.Outcome}
    (run : Conducts config machine none [s.entry, ⟨.close, ending, outcome⟩] last) :
    ∃ first rest opened, sent [s.entry, ⟨.close, ending, outcome⟩] = first ++ rest ∧
      Opens config machine first opened ∧
      logins config.url (sent [s.entry, ⟨.close, ending, outcome⟩]) = logins config.url first := by
  rw [sent_cons]
  rcases run.begins_or_fails with ⟨platform, first, rest, hturns, opens, once⟩ |
    ⟨e, -, opens, later⟩
  · refine ⟨first, rest ++ sent [⟨.close, ending, outcome⟩], .ok platform, ?_, opens, ?_⟩
    · rw [← List.append_assoc]
      exact congrArg (· ++ _) hturns
    · exact once.trans opens.logins_of_ok.symm
  · refine ⟨s.turns, [], .error e, ?_, opens, ?_⟩ <;> rw [later.sent_of_unbegun, List.append_nil]
    · exact (List.append_nil _).symm
    · rfl

end Provider.Conducts

/-! ## The calls of a task -/

theorem Dialogue.run_map_iff {Q : Type} {A : Q → Type} {α β : Type} {d : Dialogue Q A α} {f : α → β}
    {turns : List (Turn Q A)} {b : β} : Run (f <$> d) turns b ↔ ∃ a, Run d turns a ∧ b = f a := by
  rw [map_eq_pure_bind, bind_eq, Dialogue.run_bind_iff]
  constructor
  · rintro ⟨_, _, a, rfl, hd, hdone⟩
    obtain ⟨rfl, rfl⟩ := run_done_iff.1 hdone
    exact ⟨a, by rwa [List.append_nil], rfl⟩
  · rintro ⟨a, hd, rfl⟩
    exact ⟨turns, [], a, (List.append_nil _).symm, hd, .done _⟩

namespace Operation

variable {calls : List Called} {defaultSite : String} {config : RulesetConfig}

theorem length_of_importId {raw : String} {result : Except OrderingError RulesetState}
    (h : Run (importId raw).run calls result) : calls.length ≤ 1 := by
  rw [importId] at h
  cases read : RulesetId.ofText raw with
  | error fault =>
    simp only [read] at h
    obtain ⟨rfl, -⟩ := run_ofExcept_iff.1 h
    exact Nat.zero_le 1
  | ok id =>
    simp only [read] at h
    obtain ⟨reply, rfl, -⟩ := run_readState_iff.1 h
    exact Nat.le_refl 1

theorem length_of_plan {result : Except OrderingError PlannedChange}
    (h : Run (plan defaultSite config).run calls result) : calls.length ≤ 1 := by
  cases result with
  | ok planned =>
    obtain ⟨rules, rfl, -⟩ := run_plan_ok_iff.1 h
    exact Nat.le_refl 1
  | error error =>
    obtain ⟨reply, rfl, -⟩ := run_plan_error_iff.1 h
    exact Nat.le_refl 1

/-- If the first listing fails, there is one more, and its failure is the one that is reported. -/
theorem first_of_create {result : Except ApplyFailure AppliedChange}
    (h : Run (create defaultSite config).run calls result) :
    let site := (config.target defaultSite).site
    ∃ reply rest, calls = .listed site reply :: rest ∧ ∀ e, reply = .error e →
      (∃ reply', rest = [.listed site reply']) ∧
      result.mapError ApplyFailure.error = .error (.controller e) := by
  cases result with
  | ok change =>
    obtain ⟨first, last, rfl, -⟩ := run_create_ok_iff.1 h
    exact ⟨.ok first, _, rfl, nofun⟩
  | error failure =>
    obtain ⟨attempt, reply', rfl, breaks, -⟩ := run_create_error_iff.1 h
    obtain ⟨error, refreshed⟩ := failure
    cases breaks with
    | unlisted e =>
      refine ⟨.error e, _, rfl, ?_⟩
      rintro _ ⟨⟩
      exact ⟨⟨reply', rfl⟩, rfl⟩
    | unplanned | unsent | unread => exact ⟨.ok _, _, rfl, nofun⟩

end Operation

namespace OrderTask

variable {task : OrderTask} {site : String} {calls : List Called}
  {outcome : Except OrderingError CommandResult}

theorem run_apply_iff {config : RulesetConfig} :
    Run ((apply config).operation site).run calls outcome ↔
      ∃ result, Run (Operation.create site config).run calls result ∧
        outcome = (result.mapError ApplyFailure.error).map CommandResult.applied := by
  simp only [operation, ExceptT.run_map]
  constructor
  · intro h
    obtain ⟨_, hadapt, rfl⟩ := Dialogue.run_map_iff.1 h
    obtain ⟨result, hcreate, rfl⟩ := Dialogue.run_map_iff.1 hadapt
    exact ⟨result, hcreate, rfl⟩
  · rintro ⟨result, hcreate, rfl⟩
    exact Dialogue.run_map_iff.2 ⟨_, Dialogue.run_map_iff.2 ⟨result, hcreate, rfl⟩, rfl⟩

/-- Only to bring an order about another call is made after one that failed. -/
theorem calls_of_operation (h : Run (task.operation site).run calls outcome) :
    ((∀ config, task ≠ .apply config) ∧ calls.length ≤ 1) ∨
      ∃ config, task = .apply config ∧ ∃ reply rest, calls =
        .listed (config.target site).site reply :: rest ∧ ∀ e, reply = .error e →
          (∃ reply', rest = [.listed (config.target site).site reply']) ∧
          outcome = .error (.controller e) := by
  cases task with
  | inspect id =>
    simp only [operation, ExceptT.run_map] at h
    obtain ⟨result, himport, -⟩ := Dialogue.run_map_iff.1 h
    exact .inl ⟨nofun, Operation.length_of_importId himport⟩
  | plan config =>
    simp only [operation, ExceptT.run_map] at h
    obtain ⟨result, hplan, -⟩ := Dialogue.run_map_iff.1 h
    exact .inl ⟨nofun, Operation.length_of_plan hplan⟩
  | apply config =>
    obtain ⟨result, hcreate, rfl⟩ := run_apply_iff.1 h
    obtain ⟨reply, rest, rfl, failed⟩ := Operation.first_of_create hcreate
    refine .inr ⟨config, rfl, reply, rest, rfl, fun e he => ?_⟩
    obtain ⟨again, reported⟩ := failed e he
    exact ⟨again, congrArg (Except.map CommandResult.applied) reported⟩

/-- The history of a task: the calls of its operation, and the end of the session. -/
theorem exists_history {config : Access} (h : Run (task.run config machine) turns outcome) :
    ∃ (served : List Served) (ending : List Exchanged) (q : Provider),
      Run (task.operation config.site).run (served.map Served.called) outcome ∧
      History (Provider.start config machine)
        (served.map Served.entry ++ [⟨.close, ending, .ok ()⟩]) q ∧
      turns = sent (served.map Served.entry ++ [⟨.close, ending, .ok ()⟩]) := by
  obtain ⟨main, ending, p, q, rfl, hmain, hclose⟩ := OrderTask.run_iff.1 h
  obtain ⟨served, hop, history, rfl⟩ := run_perform_iff.1 hmain
  have closed : Run (Act.close.perform p) ending (.ok (), q) :=
    Dialogue.run_bind_iff.2 ⟨ending, [], q, (List.append_nil _).symm, hclose, .done _⟩
  refine ⟨served, ending, q, hop, history_append_iff.2 ⟨p, history, q, closed, rfl⟩, ?_⟩
  simp [sent]

/-- How often a task logs in, and, if it is to bring an order about, how its sessions begin. -/
theorem attempts_of_run {config : Access} (onWeb : config.url.OnWeb)
    (h : Run (task.run config machine) turns outcome) :
    ((∀ wanted, task ≠ .apply wanted) ∧ logins config.url turns ≤ 1) ∨
      (∃ wanted, task = .apply wanted) ∧
        ((∃ platform first rest, turns = first ++ rest ∧ Opens config machine first (.ok platform) ∧
          logins config.url turns = 1) ∨
        ∃ first second rest e opened, turns = first ++ second ++ rest ∧
          Opens config machine first (.error e) ∧ Opens config machine second opened ∧
          logins config.url turns = logins config.url first + logins config.url second ∧
          outcome = .error (.controller e)) := by
  obtain ⟨served, ending, q, hop, history, rfl⟩ := exists_history h
  obtain ⟨-, run⟩ := conducts_of_history onWeb (bound_start config machine) history
  rcases calls_of_operation hop with ⟨unchanging, short⟩ |
    ⟨wanted, rfl, reply, rest, hcalls, failed⟩
  · refine .inl ⟨unchanging, ?_⟩
    cases served with
    | nil =>
      rw [List.map_nil, List.nil_append, run.sent_of_unbegun]
      exact Nat.zero_le 1
    | cons s served =>
      rw [List.length_map, List.length_cons] at short
      obtain rfl := List.length_eq_zero_iff.1 (Nat.le_zero.1 (Nat.le_of_succ_le_succ short))
      obtain ⟨first, _, _, -, opens, hlogins⟩ := run.opens_of_one_call
      exact hlogins.trans_le opens.logins_le
  · refine .inr ⟨⟨wanted, rfl⟩, ?_⟩
    obtain ⟨⟨_, first, _⟩, served, rfl, hs, hrest⟩ := List.map_eq_cons_iff.1 hcalls
    cases hs
    rw [List.map_cons, List.cons_append, sent_cons]
    rcases run.begins_or_fails with ⟨platform, opening, after, rfl, opens, once⟩ |
      ⟨e, hanswer, opens, later⟩
    · exact .inl ⟨platform, opening, _, List.append_assoc .., opens, once⟩
    -- Nothing was kept of the failed attempt, so the one call that is left is once more a first
    -- one.
    · obtain ⟨⟨reply', rfl⟩, rfl⟩ := failed e hanswer
      obtain ⟨s, rfl, -⟩ := List.map_eq_singleton_iff.1 hrest
      obtain ⟨second, after, opened, hsent, opens', hlogins⟩ := later.opens_of_one_call
      refine .inr ⟨first, second, after, e, opened, ?_, opens, opens', ?_, rfl⟩
      · rw [List.append_assoc, ← hsent]
        rfl
      · rw [logins_append, ← hlogins]
        rfl

/-- The task is to bring an order about if and only if the command is. -/
theorem apply_iff_of_ofCommand {files : Files} {command : OrderCommand}
    (decoded : ofCommand files command = .ok task) :
    (∃ wanted, task = .apply wanted) ↔ ∃ source, command = .apply source := by
  cases command with
  | inspect raw =>
    cases read : RulesetId.ofText raw <;> simp only [ofCommand, read] at decoded <;> cases decoded
    simp
  | plan source | apply source =>
    cases read : source.config files <;> simp only [ofCommand, read, Except.map] at decoded <;>
      cases decoded
    simp

end OrderTask

namespace OrderCommand

variable {options : GlobalOptions} {command : OrderCommand}
  {result : Except CommandFailure String}

/-- **Logins of a command.** Without settings that are of use nothing is sent. Otherwise, whatever
the controller answers, the account is shown to it twice at most, and by a command that brings no
order about only once. A command that does begins one session, or is refused one, tries to begin a
second one, and reports the first refusal: it logs in as often as these two attempts do, each of
them once at most. -/
theorem logins_of_run (run : Run (command.run machine options) turns result) :
    (∀ error, options.configure machine = .error error → turns = []) ∧
      ∀ config, options.configure machine = .ok config →
        logins config.url turns ≤ 2 ∧
        ((∀ source, command ≠ .apply source) → logins config.url turns ≤ 1) ∧
        ∀ source task, command = .apply source →
        OrderTask.ofCommand machine.files command = .ok task →
          (∃ platform first rest, turns = first ++ rest ∧
            Opens config machine first (.ok platform) ∧ logins config.url turns = 1) ∨
          ∃ first second rest e opened, turns = first ++ second ++ rest ∧
            Opens config machine first (.error e) ∧ Opens config machine second opened ∧
            logins config.url turns = logins config.url first + logins config.url second ∧
            result = .error (.operation (.controller e)) := by
  cases decoded : OrderTask.ofCommand machine.files command with
  | error failure =>
    rw [run_of_undecoded decoded] at run
    obtain ⟨rfl, -⟩ := run_done_iff.1 run
    exact ⟨fun _ _ => rfl,
      fun _ _ => ⟨Nat.zero_le 2, fun _ => Nat.zero_le 1, fun _ _ _ h => nomatch h⟩⟩
  | ok task =>
    constructor
    · intro error unusable
      rw [run_of_unconfigured decoded unusable] at run
      exact (run_done_iff.1 run).1
    · intro config configured
      obtain ⟨outcome, rfl, htask⟩ := (run_iff decoded configured).1 run
      have isApply := OrderTask.apply_iff_of_ofCommand decoded
      rcases OrderTask.attempts_of_run (GlobalOptions.onWeb_of_configure configured) htask with
        ⟨unchanging, once⟩ | ⟨changing, attempts⟩
      · refine ⟨once.trans (Nat.le_succ 1), fun _ => once, fun source _ hcommand _ => ?_⟩
        obtain ⟨wanted, htask⟩ := isApply.2 ⟨source, hcommand⟩
        exact absurd htask (unchanging wanted)
      · obtain ⟨source, hcommand⟩ := isApply.1 changing
        refine ⟨?_, fun other => absurd hcommand (other source), fun _ _ _ _ => ?_⟩
        · rcases attempts with ⟨_, _, _, -, -, once⟩ | ⟨_, _, _, _, _, -, opens, opens', hlogins, -⟩
          · omega
          · have := opens.logins_le
            have := opens'.logins_le
            omega
        · rcases attempts with begun |
            ⟨first, second, rest, e, opened, hturns, opens, opens', hlogins, rfl⟩
          · exact .inl begun
          · exact .inr ⟨first, second, rest, e, opened, hturns, opens, opens', hlogins, rfl⟩

/-- A device that lets nobody in. -/
def refusing : Network :=
  ⟨fun _ => true, [.reply ⟨200, [], some ""⟩, .reply ⟨401, [], some ""⟩, .reply ⟨200, [], some ""⟩,
    .reply ⟨401, [], some ""⟩], []⟩

/-- The order `a` of a ruleset, brought about on that device. -/
def refusedApply : Except OrderingError CommandResult × List Exchanged :=
  let task := OrderTask.run admin Machine.bare (.apply ⟨none, ⟨.lan, .v4, .inbound⟩, ⟨["a"], []⟩⟩)
  ((refusing.run task).1, task.turnsWith Network.answer refusing)

theorem run_refusedApply :
    Run (OrderCommand.run .bare .ofDevice (.apply (.options "lan_in" ["a"] [])))
    refusedApply.2 (shown .ofDevice refusedApply.1) :=
  (run_iff (by rfl) GlobalOptions.configure_ofDevice).2
    ⟨_, rfl, run_interpret Network.answer _ refusing⟩

theorem logins_of_run_refused :
    ∃ first second rest e opened, refusedApply.2 = first ++ second ++ rest ∧
      Opens admin Machine.bare first (.error e) ∧ Opens admin Machine.bare second opened ∧
      logins admin.url first = 1 ∧ logins admin.url second = 1 := by
  have twice : logins admin.url refusedApply.2 = 2 := by decide +kernel
  obtain ⟨-, configured⟩ := logins_of_run run_refusedApply
  obtain ⟨-, -, attempts⟩ := configured _ GlobalOptions.configure_ofDevice
  rcases attempts _ (.apply ⟨none, ⟨.lan, .v4, .inbound⟩, ⟨["a"], []⟩⟩) rfl (by rfl) with
    ⟨_, _, _, -, -, once⟩ | ⟨first, second, rest, e, opened, hturns, opens, opens', hlogins, -⟩
  · rw [once] at twice
    cases twice
  · have := opens.logins_le
    have := opens'.logins_le
    exact ⟨first, second, rest, e, opened, hturns, opens, opens', by omega, by omega⟩

/-- The refused account is shown to the controller a second time. -/
theorem refused_account_shown_twice :
    Run (OrderCommand.run .bare .ofDevice (.apply (.options "lan_in" ["a"] []))) refusedApply.2
        (.error
          (.operation (.controller (.authentication "login failed (HTTP 401 Unauthorized): ")))) ∧
      (refusedApply.2.filter fun t => t.question.IsLogin admin.url).map (·.question.body) =
        [some (Client.loginBody "admin" "secret"), some (Client.loginBody "admin" "secret")] := by
  have refused : refusedApply.1 =
      .error (.controller (.authentication "login failed (HTTP 401 Unauthorized): ")) := by rfl
  refine ⟨?_, by decide +kernel⟩
  have run := run_refusedApply
  rw [refused] at run
  exact run

end OrderCommand

end FirewallOrder
