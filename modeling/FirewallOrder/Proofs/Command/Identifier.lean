import FirewallOrder.Proofs.Command.ExitCode
import FirewallOrder.Proofs.Ruleset.Identifier

/-!
# Identifiers that commands give away

A command writes an identifier in two places: one that shows a ruleset hands on the identifier that
it was given, in the form in which identifiers are written, and one that meets a conflict tells
which ruleset to look at. Both are about rulesets of sites whose names were checked, so what is
written there is read back as the same ruleset (`OrderCommand.identifiers_resolve`).
-/

namespace FirewallOrder

open Dialogue Http Provider

/-! ## Sites that were checked -/

/-- The site that an order is for has the name of a site: its own, or that of the settings. -/
theorem OrderSource.isName_of_target {machine : Machine} {options : GlobalOptions}
    {source : OrderSource} {wanted : RulesetConfig} {config : Access}
    (written : source.config machine.files = .ok wanted)
    (configured : options.configure machine = .ok config) :
    Site.IsName (wanted.target config.site).site := by
  cases given : wanted.site with
  | some site =>
    obtain ⟨value, decoded⟩ := OrderSource.exists_decode_of_config written
    have named := RulesetConfig.isName_of_decode decoded site given
    simpa only [RulesetConfig.target, given, Option.getD_some] using named
  | none =>
    obtain ⟨settings, checked⟩ := GlobalOptions.exists_check_of_configure configured
    simpa only [RulesetConfig.target, given, Option.getD_none] using
      Settings.isName_of_check checked

/-! ## Conflicts and the rulesets that they are about -/

theorem Snapshot.id_eq_of_plan {s : Snapshot} {id : RulesetId} {order : RuleOrder} {site : String}
    {ruleset : Ruleset} {report : Drift}
    (h : s.plan id order = .error (.drift site ruleset report)) : id = ⟨site, ruleset⟩ := by
  rcases s.plan_cases id order with ⟨-, updates, planned⟩ | ⟨-, planned⟩ | ⟨-, message, planned⟩
  · cases h.symm.trans planned
  · cases h.symm.trans planned
    rfl
  · cases h.symm.trans planned

/-- What is looked up by an identifier is in conflict with nothing. -/
theorem Operation.no_drift_of_importId {raw site : String} {ruleset : Ruleset} {report : Drift}
    {calls : List Called} (h : Run (importId raw).run calls (.error (.drift site ruleset report))) :
    False := by
  rw [importId] at h
  cases read : RulesetId.ofText raw with
  | error fault =>
    simp only [read] at h
    obtain ⟨-, failed⟩ := run_ofExcept_iff.1 h
    cases failed
  | ok id =>
    simp only [read] at h
    obtain ⟨reply, -, failed⟩ := run_readState_iff.1 h
    cases reply <;> cases failed

namespace OrderTask

variable {task : OrderTask} {defaultSite site : String} {ruleset : Ruleset} {report : Drift}
  {calls : List Called}

/-- The order that a task is about. -/
def wanted? : OrderTask → Option RulesetConfig
  | .inspect _ => none
  | .plan config | .apply config => some config

/-- A conflict is reported of the ruleset that the order is for. -/
theorem target_of_drift
    (h : Run (task.operation defaultSite).run calls (.error (.drift site ruleset report))) :
    ∃ wanted, task.wanted? = some wanted ∧ wanted.target defaultSite = ⟨site, ruleset⟩ := by
  cases task with
  | inspect id =>
    simp only [operation, ExceptT.run_map] at h
    obtain ⟨result, himport, failed⟩ := Dialogue.run_map_iff.1 h
    cases result <;> cases failed
    exact (Operation.no_drift_of_importId himport).elim
  | plan config =>
    simp only [operation, ExceptT.run_map] at h
    obtain ⟨result, hplan, failed⟩ := Dialogue.run_map_iff.1 h
    cases result <;> cases failed
    obtain ⟨reply, -, unplanned⟩ := Operation.run_plan_error_iff.1 hplan
    cases reply with
    | error e => cases unplanned
    | ok rules => exact ⟨config, rfl, Snapshot.id_eq_of_plan unplanned⟩
  | apply config =>
    obtain ⟨result, hcreate, failed⟩ := run_apply_iff.1 h
    cases result with
    | ok change => cases failed
    | error failure =>
      obtain ⟨error, refreshed⟩ := failure
      cases failed
      obtain ⟨attempt, reply, -, breaks, -⟩ := Operation.run_create_error_iff.1 hcreate
      cases breaks with
      | unplanned unplanned => exact ⟨config, rfl, Snapshot.id_eq_of_plan unplanned⟩

end OrderTask

/-! ## What commands write -/

namespace OrderCommand

variable {machine : Machine} {options : GlobalOptions}

/-- The order that a command reads. -/
def source? : OrderCommand → Option OrderSource
  | .inspect _ => none
  | .plan source | .apply source => some source

/-- The command is to bring about an order of this ruleset, or to plan it. -/
def IsFor (machine : Machine) (options : GlobalOptions) (command : OrderCommand) (id : RulesetId) :
    Prop :=
  ∃ source wanted config, command.source? = some source ∧ source.config machine.files = .ok wanted ∧
    options.configure machine = .ok config ∧ wanted.target config.site = id

/-- What a command that meets a conflict advises to do about it. -/
def driftAdvice (id : RulesetId) : String :=
  "List every rule of the ruleset exactly once across --before and --after.\n" ++
    "Run: tfunifi ruleset show " ++ id.display

theorem source_of_wanted {command : OrderCommand} {task : OrderTask} {wanted : RulesetConfig}
    (decoded : OrderTask.ofCommand machine.files command = .ok task)
    (h : task.wanted? = some wanted) :
    ∃ source, command.source? = some source ∧ source.config machine.files = .ok wanted := by
  cases command with
  | inspect raw =>
    simp only [OrderTask.ofCommand] at decoded
    cases read : RulesetId.ofText raw <;> rw [read] at decoded <;> cases decoded
    cases h
  | plan source | apply source =>
    obtain ⟨config, written, rfl⟩ := map_eq_ok_iff.1 decoded
    cases h
    exact ⟨source, rfl, written⟩

theorem exists_drift_of_kind {e : OrderingError}
    (drift : (CommandFailure.operation e).kind = .drift) :
    ∃ site ruleset report, e = .drift site ruleset report := by
  cases e with
  | drift site ruleset report => exact ⟨site, ruleset, report, rfl⟩
  | controller e =>
    obtain ⟨-, -, noConflict⟩ := e.exitCode_failureKind
    exact absurd (congrArg FailureKind.exitCode drift) noConflict
  | _ => cases drift

/-- What is written wrong is no conflict. -/
theorem kind_of_undecoded {command : OrderCommand} {failure : CommandFailure}
    (h : OrderTask.ofCommand machine.files command = .error failure) : failure.kind ≠ .drift := by
  intro drift
  have conflict : failure.exitCode = 6 := congrArg FailureKind.exitCode drift
  cases command with
  | inspect raw =>
    simp only [OrderTask.ofCommand] at h
    cases read : RulesetId.ofText raw <;> rw [read] at h <;> cases h
    cases drift
  | plan source | apply source =>
    cases written : source.config machine.files with
    | ok wanted =>
      simp only [OrderTask.ofCommand, written, Except.map] at h
      cases h
    | error failure' =>
      simp only [OrderTask.ofCommand, written, Except.map] at h
      cases h
      exact (OrderSource.exitCode_of_config_error written).2 conflict

/-- **The failure of a command that meets a conflict** tells the ruleset that the command is for. -/
theorem exists_drift_of_run {command : OrderCommand} {turns : List Exchanged}
    {failure : CommandFailure} (run : Run (command.run machine options) turns (.error failure))
    (drift : failure.kind = .drift) :
    ∃ id, command.IsFor machine options id ∧ Site.IsName id.site ∧
    failure.help = some (driftAdvice id) := by
  cases decoded : OrderTask.ofCommand machine.files command with
  | error failure' =>
    rw [run_of_undecoded decoded] at run
    obtain ⟨-, same⟩ := run_done_iff.1 run
    cases same
    exact absurd drift (kind_of_undecoded decoded)
  | ok task =>
    cases configured : options.configure machine with
    | error error =>
      rw [run_of_unconfigured decoded configured] at run
      obtain ⟨-, same⟩ := run_done_iff.1 run
      cases same
      obtain ⟨-, -, noConflict⟩ := error.exitCode_failureKind
      exact absurd (congrArg FailureKind.exitCode drift) noConflict
    | ok config =>
      obtain ⟨outcome, same, htask⟩ := (run_iff decoded configured).1 run
      cases outcome with
      | ok result => cases same
      | error e =>
        cases same
        obtain ⟨site, ruleset, report, rfl⟩ := exists_drift_of_kind drift
        obtain ⟨served, -, -, hop, -⟩ :=
          OrderTask.exists_served (GlobalOptions.onWeb_of_configure configured) htask
        obtain ⟨wanted, about, target⟩ := OrderTask.target_of_drift hop
        obtain ⟨source, reads, written⟩ := source_of_wanted decoded about
        have named := OrderSource.isName_of_target written configured
        rw [target] at named
        exact ⟨⟨site, ruleset⟩, ⟨source, wanted, config, reads, written, configured, target⟩, named,
          rfl⟩

/-- **Identifiers are read back as what they were written for.**

* A text is an identifier exactly if it is the name of a site, without a colon, then a colon, then a
  name of a ruleset, blanks around that and ASCII case aside. The identifier holds that site as it
  is, and that ruleset.
* What is written for an identifier is read back as the same identifier exactly if its site has the
  name of a site.
* So whatever was read as an identifier is read again from what is written for it.
* A command that shows a ruleset looks up the identifier that is written for the one that it read,
  and reads the state of that ruleset.
* A command that meets a conflict advises to show a ruleset. The identifier in this advice is read
  back as the ruleset that the command is for. -/
theorem identifiers_resolve :
    (∀ raw id, RulesetId.ofText raw = .ok id ↔
      ∃ name, raw = id.site ++ ":" ++ name ∧ ':' ∉ id.site.toList ∧ Site.IsName id.site ∧
      id.ruleset.IsCalled name) ∧
    (∀ id, RulesetId.ofText id.display = .ok id ↔ Site.IsName id.site) ∧
    (∀ raw id, RulesetId.ofText raw = .ok id → RulesetId.ofText id.display = .ok id) ∧
    (∀ files raw task, OrderTask.ofCommand files (.inspect raw) = .ok task →
      ∃ id, RulesetId.ofText raw = .ok id ∧
      ∀ defaultSite, task.operation defaultSite = .state <$> Operation.importId id.display ∧
        Operation.importId id.display = Operation.readState id) ∧
    (∀ machine options (command : OrderCommand) turns failure,
      Run (command.run machine options) turns (.error failure) → failure.kind = .drift →
        ∃ id, command.IsFor machine options id ∧ failure.help = some (driftAdvice id) ∧
          RulesetId.ofText id.display = .ok id) := by
  have again : ∀ raw id, RulesetId.ofText raw = .ok id → RulesetId.ofText id.display = .ok id := by
    intro raw id read
    exact (RulesetId.ofText_display_iff id).2 (RulesetId.isName_of_ofText read)
  refine ⟨fun raw id => RulesetId.ofText_eq_ok_iff, RulesetId.ofText_display_iff, again, ?_, ?_⟩
  · intro files raw task decoded
    simp only [OrderTask.ofCommand] at decoded
    cases read : RulesetId.ofText raw with
    | error fault =>
      rw [read] at decoded
      cases decoded
    | ok id =>
      rw [read] at decoded
      cases decoded
      refine ⟨id, rfl, fun defaultSite => ⟨rfl, ?_⟩⟩
      rw [Operation.importId, again raw id read]
  · intro machine options command turns failure run drift
    obtain ⟨id, isFor, named, advice⟩ := exists_drift_of_run run drift
    exact ⟨id, isFor, advice, (RulesetId.ofText_display_iff id).2 named⟩

theorem identifiers_resolve_accented :
    RulesetId.ofText "Büro: wanV6_in\t" = .ok ⟨"Büro", ⟨.wan, .v6, .inbound⟩⟩ ∧
      RulesetId.ofText (RulesetId.mk "lan_in:lan_in" ⟨.lan, .v4, .inbound⟩).display ≠
        .ok ⟨"lan_in:lan_in", ⟨.lan, .v4, .inbound⟩⟩ ∧
      ∃ failure, shown .ofDevice (applied (listing "b")).1 = .error failure ∧
        failure.help = some (driftAdvice ⟨"default", ⟨.lan, .v4, .inbound⟩⟩) := by
  obtain ⟨reads, back, -, -, conflicts⟩ := identifiers_resolve
  refine ⟨(reads _ _).2 ⟨" wanV6_in\t", by decide, by decide, by decide, by decide⟩, ?_, ?_⟩
  · intro h
    exact absurd ((back _).1 h) (by decide)
  · have conflict : (shown .ofDevice (applied (listing "b")).1).mapError CommandFailure.kind =
      .error .drift := by
      decide +kernel
    have run := run_applied (listing "b")
    cases result : shown .ofDevice (applied (listing "b")).1 with
    | ok text =>
      rw [result] at conflict
      cases conflict
    | error failure =>
      rw [result] at conflict run
      obtain ⟨id, ⟨source, wanted, config, reads, written, configured, target⟩, advice, -⟩ :=
        conflicts _ _ _ _ _ run (Except.error.inj conflict)
      cases reads
      have written' : OrderSource.config Machine.bare.files (.options "lan_in" ["a"] []) =
          .ok ⟨none, ⟨.lan, .v4, .inbound⟩, ⟨["a"], []⟩⟩ := by rfl
      cases written'.symm.trans written
      cases GlobalOptions.configure_ofDevice.symm.trans configured
      cases target
      exact ⟨failure, rfl, advice⟩

end OrderCommand

end FirewallOrder
