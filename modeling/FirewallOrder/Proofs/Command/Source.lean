import FirewallOrder.Command.Run
import FirewallOrder.Proofs.Managed.Decode

/-!
# Where orders come from

An order is written in a file or as options, and either way it is decoded as a value. What is wrong
with the value is always reported as an order that is invalid
(`RulesetConfig.configurations_checked`).
-/

namespace FirewallOrder

open Json Text

namespace OrderSource

variable {files : Files} {source : OrderSource}

/-- The object that a source describes. -/
def value (files : Files) : OrderSource → Except CommandFailure Json
  | .file path =>
    match files.read path with
    | .error fault => .error (.file fault)
    | .ok text => (Json.parse text).mapError .json
  | .options ruleset before after =>
    .ok (.obj (("ruleset", .str ruleset) :: (RuleOrder.mk before after).members))

theorem config_eq (files : Files) (source : OrderSource) :
    source.config files = source.value files >>= fun value =>
      (RulesetConfig.decode value).mapError fun fault =>
        CommandFailure.operation (.invalid fault.message) := by
  cases source with
  | options ruleset before after =>
    simp only [config, value, Bind.bind, Pure.pure, Except.bind, Except.pure]
    cases RulesetConfig.decode
      (.obj (("ruleset", .str ruleset) :: (RuleOrder.mk before after).members)) <;> rfl
  | file path =>
    cases found : files.read path with
    | error fault =>
      simp only [config, value, found]
      rfl
    | ok text =>
      cases parsed : Json.parse text with
      | error fault =>
        simp only [config, value, found, parsed]
        rfl
      | ok value' =>
        simp only [config, value, found, parsed, Bind.bind, Pure.pure, Except.bind, Except.pure,
          Except.mapError]
        cases RulesetConfig.decode value' <;> rfl

/-- Of all files only that of the order is read to decode it. -/
theorem config_congr {files' : Files}
    (same : ∀ path, source = .file path → files'.read path = files.read path) :
    source.config files' = source.config files := by
  cases source with
  | file path => simp only [config, same path rfl]
  | options ruleset before after => rfl

/-- An order that is not decoded cannot be read, or is wrong. -/
theorem exitCode_of_config_error {failure : CommandFailure}
    (h : source.config files = .error failure) : failure.exitCode ≠ 0 ∧ failure.exitCode ≠ 6 := by
  rw [config_eq] at h
  rcases bind_eq_error_iff.1 h with unread | ⟨value, -, undecoded⟩
  · cases source with
    | options ruleset before after => cases unread
    | file path =>
      rw [OrderSource.value] at unread
      cases found : files.read path with
      | error fault =>
        simp only [found] at unread
        cases unread
        simp [CommandFailure.exitCode, CommandFailure.kind, FailureKind.exitCode]
      | ok text =>
        simp only [found] at unread
        cases parsed : Json.parse text <;> rw [parsed] at unread <;> cases unread
        simp [CommandFailure.exitCode, CommandFailure.kind, FailureKind.exitCode]
  · cases decoded : RulesetConfig.decode value <;> rw [decoded] at undecoded <;> cases undecoded
    simp [CommandFailure.exitCode, CommandFailure.kind, FailureKind.exitCode]

theorem exists_decode_of_config {wanted : RulesetConfig} (h : source.config files = .ok wanted) :
    ∃ value, RulesetConfig.decode value = .ok wanted := by
  rw [config_eq] at h
  obtain ⟨value, -, h⟩ := bind_eq_ok_iff.1 h
  cases decoded : RulesetConfig.decode value <;> rw [decoded] at h <;> cases h
  exact ⟨value, decoded⟩

end OrderSource

namespace RulesetConfig

/-- **Which values are configurations.**

* A value is decoded if it has the shape of a configuration and everything is right that is checked
  of it. The result holds the site and the lists as they were written, and the ruleset that the name
  means.
* What a value describes is determined, and one that describes nothing has the wrong shape.
* Otherwise the first thing is reported that is wrong, in the order of the checks.
* Whatever is wrong, the order is invalid. -/
theorem configurations_checked (value : Json) :
    (∀ config, decode value = .ok config ↔
      ∃ raw, Describes value raw ∧ (∀ aspect, raw.Fits aspect) ∧ config.site = raw.site ∧
      config.ruleset.IsCalled raw.ruleset ∧ config.order = ⟨raw.before, raw.after⟩) ∧
    (∀ raw raw', Describes value raw → Describes value raw' → raw = raw') ∧
    ((∃ error, decode value = .error (.shape error)) ↔ ∀ raw, ¬ Describes value raw) ∧
    (∀ raw fault, Describes value raw → (decode value = .error fault ↔
      ∃ aspect, FirstUnmet raw.Fits Aspect.order aspect ∧ raw.Reports aspect fault)) ∧
    ∀ (files : Files) (source : OrderSource) fault, source.value files = .ok value →
    decode value = .error fault →
      source.config files = .error (.operation (.invalid fault.message)) := by
  refine ⟨fun config => decode_eq_ok_iff, fun raw raw' h h' => h.unique h',
    exists_shape_iff, ?_, ?_⟩
  · intro raw fault describes
    rw [decode_of_describes describes]
    exact ofRaw_eq_error_iff
  · intro files source fault given wrong
    rw [source.config_eq, given]
    exact congrArg (Except.mapError _) wrong

/-- An array is decoded, and of options with a blank identity it is told where the blank is. -/
theorem configurations_checked_blank :
    let array : Json := .arr [.null, .str " lan_in ", .arr [.str "b"], .arr [.str "a", .str "b"]]
    let files : Files := ⟨fun _ => .error .missing⟩
    let source : OrderSource := .options "LAN_IN" ["a", " "] ["c"]
    let raw : Raw := ⟨none, "LAN_IN", ["a", " "], ["c"]⟩
    decode array = .ok ⟨none, ⟨.lan, .v4, .inbound⟩, ⟨["b"], ["a", "b"]⟩⟩ ∧
      ∃ value, source.value files = .ok value ∧ Describes value raw ∧
      decode value = .error (.blankId .before 1) ∧
        source.config files =
          .error (.operation (.invalid (ConfigFault.blankId .before 1).message)) := by
  intro array files source raw
  obtain ⟨decoded, -⟩ := configurations_checked array
  have shape : Describes array ⟨none, " lan_in ", ["b"], ["a", "b"]⟩ :=
    decodeValue_eq_ok_iff.1 (by rfl)
  have fits : ∀ aspect, Raw.Fits ⟨none, " lan_in ", ["b"], ["a", "b"]⟩ aspect :=
    passed_iff.1 (by rfl)
  refine ⟨(decoded _).2 ⟨_, shape, fits, rfl, by decide, rfl⟩, _, rfl, ?_⟩
  obtain ⟨-, -, -, failed, invalid⟩ :=
    configurations_checked
      (.obj (("ruleset", .str "LAN_IN") :: (RuleOrder.mk ["a", " "] ["c"]).members))
  have describes := decodeValue_eq_ok_iff.1 (show decodeValue Raw.record.decode
    (.obj (("ruleset", .str "LAN_IN") :: (RuleOrder.mk ["a", " "] ["c"]).members)) = .ok raw by rfl)
  have first : FirstUnmet raw.Fits Aspect.order (.blanks .before) :=
    ⟨[.site, .ruleset, .size .before], [.size .after, .blanks .after], rfl, by decide, by decide⟩
  have reports : raw.Reports (.blanks .before) (.blankId .before 1) := by
    refine .blanks (show 1 < 2 by decide) (show trim " " = "" by decide) fun i hi => ?_
    obtain rfl : i = 0 := by omega
    exact show trim "a" ≠ "" by decide
  have wrong := (failed raw _ describes).2 ⟨_, first, reports⟩
  exact ⟨describes, wrong, invalid files source _ rfl wrong⟩

end RulesetConfig

end FirewallOrder
