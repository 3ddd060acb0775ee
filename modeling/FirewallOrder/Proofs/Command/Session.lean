import FirewallOrder.Proofs.Command.Source
import FirewallOrder.Proofs.Ordering.Plan
import FirewallOrder.Proofs.Provider.Service
import FirewallOrder.Proofs.Settings.Check
import FirewallOrder.Proofs.Settings.Environment

/-!
# The session of a command

A command first decodes what somebody wrote, then reads the settings, and only then sends anything:
the provider carries out one operation and is closed (`OrderCommand.run_run_iff`). So what is
written wrong is reported before anything is sent, a session that was begun is ended by one logout,
the last request of all, and what the controller answers to that makes no difference
(`OrderCommand.run_releases`).
-/

namespace FirewallOrder

open Dialogue Http Provider

variable {machine : Machine} {turns : List Exchanged} {options : GlobalOptions}

/-! ## Settings -/

theorem GlobalOptions.exists_check_of_configure {config : Access}
    (h : options.configure machine = .ok config) :
    ∃ settings : Settings, settings.check machine.urls = .ok config := by
  obtain ⟨settings, -, h⟩ := bind_eq_ok_iff.1 h
  cases checked : (options.override settings).check machine.urls with
  | error fault =>
    simp only [checked] at h
    cases h
  | ok config' =>
    simp only [checked] at h
    cases h
    exact ⟨_, checked⟩

theorem GlobalOptions.onWeb_of_configure {config : Access}
    (h : options.configure machine = .ok config) : config.url.OnWeb := by
  obtain ⟨settings, checked⟩ := exists_check_of_configure h
  obtain ⟨raw, -, parsed, web⟩ := Settings.exists_parse_of_check checked
  exact machine.urls.onWeb parsed web

/-! ## Runs -/

variable {command : OrderCommand} {task : OrderTask} {config : Access}
  {result : Except CommandFailure String}

theorem OrderTask.run_iff {outcome : Except OrderingError CommandResult} :
    Run (task.run config machine) turns outcome ↔ ∃ main ending p q, turns = main ++ ending ∧
      Run ((Provider.start config machine).perform (task.operation config.site)) main (outcome, p) ∧
        Run p.close ending q := by
  rw [OrderTask.run, Dialogue.run_bind_iff]
  constructor
  · rintro ⟨main, _, ⟨outcome', p⟩, rfl, hmain, hrest⟩
    obtain ⟨ending, _, q, rfl, hclose, hdone⟩ := Dialogue.run_bind_iff.1 hrest
    obtain ⟨rfl, rfl⟩ := run_done_iff.1 hdone
    exact ⟨main, ending, p, q, by rw [List.append_nil], hmain, hclose⟩
  · rintro ⟨main, ending, p, q, rfl, hmain, hclose⟩
    refine ⟨main, ending, (outcome, p), rfl, hmain, ?_⟩
    exact Dialogue.run_bind_iff.2 ⟨ending, [], q, (List.append_nil _).symm, hclose, .done _⟩

namespace OrderCommand

/-- What is printed of an outcome, or the failure that is reported. -/
def shown (options : GlobalOptions) (outcome : Except OrderingError CommandResult) :
    Except CommandFailure String :=
  (outcome.map (·.printed options)).mapError .operation

theorem run_iff (decoded : OrderTask.ofCommand machine.files command = .ok task)
    (configured : options.configure machine = .ok config) :
    Run (command.run machine options) turns result ↔
      ∃ outcome, result = shown options outcome ∧ Run (task.run config machine) turns outcome := by
  simp only [OrderCommand.run, decoded, configured]
  rw [Dialogue.run_bind_iff]
  constructor
  · rintro ⟨_, _, outcome, rfl, htask, hdone⟩
    obtain ⟨rfl, rfl⟩ := run_done_iff.1 hdone
    exact ⟨outcome, rfl, by rwa [List.append_nil]⟩
  · rintro ⟨outcome, rfl, htask⟩
    exact ⟨turns, [], outcome, (List.append_nil _).symm, htask, .done _⟩

theorem run_of_undecoded {failure : CommandFailure}
    (h : OrderTask.ofCommand machine.files command = .error failure) :
    command.run machine options = .done (.error failure) := by
  simp only [OrderCommand.run, h]

theorem run_of_unconfigured {error : SettingsError}
    (decoded : OrderTask.ofCommand machine.files command = .ok task)
    (h : options.configure machine = .error error) :
    command.run machine options =
      .done (.error (.settings error (options.settingsFile machine.env))) := by
  simp only [OrderCommand.run, decoded, h]

/-! ## The end of the session -/

section Release

variable {main : List Exchanged} {p : Provider} {ε α : Type} {op : Operation ε α}
  {outcome : Except ε α}

/-- Nothing that an operation sends ends the session. -/
theorem not_logout_of_perform (onWeb : config.url.OnWeb)
    (h : Run ((Provider.start config machine).perform op) main (outcome, p)) :
    ∀ t ∈ main, ∀ platform, ¬ t.question.IsFor config.url platform .logout := by
  obtain ⟨served, -, history, rfl⟩ := run_perform_iff.1 h
  exact (conducts_of_history onWeb (bound_start config machine) history).2.not_logout

/-- What is sent to close a provider, after an operation, hangs on the logins that were granted. -/
theorem closing_of_perform (onWeb : config.url.OnWeb)
    (h : Run ((Provider.start config machine).perform op) main (outcome, p))
    {ending : List Exchanged} {q : Provider} (hclose : Run p.close ending q) :
    (grants config.url (main ++ ending) = [] ∧ ending = []) ∨
      ∃ platform request answer, grants config.url (main ++ ending) = [platform] ∧
        ending = [⟨request, answer⟩] ∧ request.IsFor config.url platform .logout ∧
        ∀ answer', ∃ q', Run p.close [⟨request, answer'⟩] q' := by
  obtain ⟨served, -, history, rfl⟩ := run_perform_iff.1 h
  obtain ⟨bound, standing⟩ := standing_of_start onWeb history
  cases session : p.session with
  | none =>
    obtain ⟨rfl, rfl⟩ := (run_close_iff_of_none session).1 hclose
    rw [platform?, session] at standing
    rw [List.append_nil]
    exact .inl ⟨grants_of_standing standing, rfl⟩
  | some c =>
    obtain ⟨request, isFor, hrun⟩ := exists_logout onWeb bound session
    obtain ⟨answer, rfl, -⟩ := (hrun ending q).1 hclose
    rw [platform?, session] at standing
    have inside : ∀ t ∈ [(⟨request, answer⟩ : Exchanged)], Inside config.url c.platform t := by
      intro t ht
      obtain rfl := List.mem_singleton.1 ht
      exact ⟨.logout, rfl, isFor⟩
    refine .inr ⟨c.platform, request, answer, grants_of_standing (standing.append_inside inside),
      rfl, isFor, ?_⟩
    exact fun answer' => ⟨_, (hrun _ _).2 ⟨answer', rfl, rfl⟩⟩

end Release

end OrderCommand

/-- **A command ends the session that it began.**

* An identifier that is none is reported whatever the machine and the options are, and nothing is
  sent. So is an order that cannot be decoded, whatever the settings are. Settings that are of no
  use are reported next.
* If no login was granted, no logout is sent.
* If a login was granted, one logout is sent, on the same platform, and it is the last request. Had
  it been answered in any other way, the result would be the same.
* The result is what is printed of the operation's own result, or its failure. -/
theorem OrderCommand.run_releases (machine : Machine) (options : GlobalOptions)
    (command : OrderCommand) :
    (∀ raw fault, command = .inspect raw → RulesetId.ofText raw = .error fault →
      ∀ machine' options',
      command.run machine' options' = .done (.error (.operation (.badId raw fault.message)))) ∧
    (∀ source failure, command = .plan source ∨ command = .apply source →
      source.config machine.files = .error failure → ∀ machine' options',
        (∀ path, source = .file path → machine'.files.read path = machine.files.read path) →
          command.run machine' options' = .done (.error failure)) ∧
    ∀ task, OrderTask.ofCommand machine.files command = .ok task →
      (∀ error, options.configure machine = .error error →
        command.run machine options =
          .done (.error (.settings error (options.settingsFile machine.env)))) ∧
      ∀ config, options.configure machine = .ok config →
        ∀ turns result, Run (command.run machine options) turns result →
          (grants config.url turns = [] →
            ∀ t ∈ turns, ∀ platform, ¬ t.question.IsFor config.url platform .logout) ∧
          (∀ platform ∈ grants config.url turns, ∃ main request answer,
            turns = main ++ [⟨request, answer⟩] ∧ request.IsFor config.url platform .logout ∧
            (∀ t ∈ main, ∀ platform', ¬ t.question.IsFor config.url platform' .logout) ∧
            ∀ answer', Run (command.run machine options) (main ++ [⟨request, answer'⟩]) result) ∧
          ∃ main ending outcome p, turns = main ++ ending ∧
            Run ((Provider.start config machine).perform (task.operation config.site)) main
              (outcome, p) ∧
            match outcome with
            | .ok found => result = .ok (found.printed options)
            | .error e => result = .error (.operation e) := by
  refine ⟨?_, ?_, ?_⟩
  -- What is written wrong is found before the options and the machine are looked at.
  · rintro raw fault rfl wrong machine' options'
    exact run_of_undecoded (by simp only [OrderTask.ofCommand, wrong])
  · intro source failure hcommand wrong machine' options' same
    rw [← OrderSource.config_congr same] at wrong
    rcases hcommand with rfl | rfl <;>
      exact run_of_undecoded (by simp only [OrderTask.ofCommand, wrong, Except.map])
  · intro task decoded
    refine ⟨fun error unusable => run_of_unconfigured decoded unusable, ?_⟩
    intro config configured turns result run
    have onWeb := GlobalOptions.onWeb_of_configure configured
    obtain ⟨outcome, rfl, htask⟩ := (run_iff decoded configured).1 run
    obtain ⟨main, ending, p, q, rfl, hmain, hclose⟩ := OrderTask.run_iff.1 htask
    have noLogout := not_logout_of_perform onWeb hmain
    -- The session that is closed is the one that the operation left, so its logins decide what is
    -- sent at the end.
    refine ⟨?_, ?_, main, ending, outcome, p, rfl, hmain, by cases outcome <;> rfl⟩
    · intro ungranted
      rcases closing_of_perform onWeb hmain hclose with ⟨-, rfl⟩ | ⟨_, _, _, granted, -⟩
      · rwa [List.append_nil]
      · cases ungranted.symm.trans granted
    · intro platform hplatform
      rcases closing_of_perform onWeb hmain hclose with
        ⟨ungranted, -⟩ | ⟨platform', request, answer, granted, rfl, isFor, again⟩
      · rw [ungranted] at hplatform
        cases hplatform
      · rw [granted] at hplatform
        obtain rfl : platform = platform' := List.mem_singleton.1 hplatform
        refine ⟨main, request, answer, rfl, isFor, noLogout, fun answer' => ?_⟩
        obtain ⟨q', hclose'⟩ := again answer'
        have htask' := OrderTask.run_iff.2 ⟨main, _, p, q', rfl, hmain, hclose'⟩
        exact (run_iff decoded configured).2 ⟨outcome, rfl, htask'⟩

/-- A machine without files, on which the environment names an account. -/
def Machine.bare : Machine :=
  .fileless (.ofNames .plain) [("UNIFI_PASSWORD", "secret"), ("UNIFI_USERNAME", "admin")]

/-- Options that name a device, whatever its certificate is. -/
def GlobalOptions.ofDevice : GlobalOptions :=
  ⟨none, some "http://10.0.0.1", none, true, none, .plain, 0, false, false⟩

theorem GlobalOptions.configure_ofDevice :
    GlobalOptions.ofDevice.configure Machine.bare = .ok admin := by
  have layer : Environment.settings Machine.bare.env =
      [("username", .text "admin"), ("password", .text "secret")] := by
    decide +kernel
  have loaded :
      Settings.load Machine.bare.searched Machine.bare.env
        (ofDevice.settingsFile Machine.bare.env) =
      Settings.ofLayers [[("username", .text "admin"), ("password", .text "secret")]] := by
    rw [← layer]
    rfl
  rw [configure, loaded]
  rfl

/-- An identifier without a site is reported at once. With one the rules cannot be listed, and the
session ends. -/
theorem OrderCommand.run_releases_failed :
    OrderCommand.run .bare .ofDevice (.inspect "LAN_IN") =
        .done (.error (.operation (.badId "LAN_IN" IdFault.noSeparator.message))) ∧
      ∃ turns result, Run (OrderCommand.run .bare .ofDevice (.inspect "default:LAN_IN"))
        turns result ∧ turns.length = 4 ∧ ∃ main request answer,
        turns = main ++ [⟨request, answer⟩] ∧
          request.IsFor admin.url .unifiOs .logout ∧
          ∀ answer', Run (OrderCommand.run .bare .ofDevice (.inspect "default:LAN_IN"))
            (main ++ [⟨request, answer'⟩]) result := by
  let network : Network :=
    ⟨fun _ => true, [.reply ⟨200, [], some ""⟩, .reply ⟨200, [], some ""⟩, .drop], []⟩
  have decoded : OrderTask.ofCommand Machine.bare.files (.inspect "default:LAN_IN") =
      .ok (.inspect ⟨"default", .lan, .v4, .inbound⟩) := by rfl
  have run := (run_iff decoded GlobalOptions.configure_ofDevice).2
    ⟨_, rfl, run_interpret Network.answer _ network⟩
  obtain ⟨-, -, session⟩ := run_releases .bare .ofDevice (.inspect "default:LAN_IN")
  obtain ⟨-, released, -⟩ := (session _ decoded).2 _ GlobalOptions.configure_ofDevice _ _ run
  obtain ⟨main, request, answer, hturns, isFor, -, again⟩ := released .unifiOs (by decide +kernel)
  obtain ⟨undecoded, -⟩ := run_releases .bare .ofDevice (.inspect "LAN_IN")
  refine ⟨undecoded _ .noSeparator rfl (by rfl) .bare .ofDevice, ?_⟩
  exact ⟨_, _, run, by decide +kernel, main, request, answer, hturns, isFor, again⟩

end FirewallOrder
