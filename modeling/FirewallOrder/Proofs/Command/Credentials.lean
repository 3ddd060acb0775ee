import FirewallOrder.Proofs.Command.Layers
import FirewallOrder.Proofs.Settings.Value
import Mathlib.Data.List.Nodup

/-!
# Credentials in the environment

What a variable gives for the account, its password or the site is a text by the grammar of
variables. So these are what the variable holds exactly if that is literal
(`credential_from_environment`): a password of digits only is none.
-/

namespace FirewallOrder

open Settings Environment

/-- A setting that is a text, and the variable that gives it. -/
structure TextSetting where
  variableName : String
  setting : Sigma Setting
  text : Settings → Option String

namespace TextSetting

def password : TextSetting := ⟨"UNIFI_PASSWORD", ⟨_, Setting.password⟩, (·.password)⟩

def username : TextSetting := ⟨"UNIFI_USERNAME", ⟨_, Setting.username⟩, (·.username)⟩

def site : TextSetting := ⟨"UNIFI_SITE", ⟨_, Setting.site⟩, fun settings => some settings.site⟩

def all : List TextSetting := [password, username, site]

theorem forall_all {p : TextSetting → Prop} :
    (∀ c ∈ all, p c) ↔ p password ∧ p username ∧ p site := by
  simp only [all, List.forall_mem_cons, List.not_mem_nil, false_implies, implies_true, and_true]

theorem setting_mem : ∀ c ∈ all, c.setting ∈ Setting.all := by
  refine forall_all.2 ⟨?_, ?_, ?_⟩ <;> simp [password, username, site, Setting.all]

theorem setting?_variableName :
    ∀ c ∈ all, setting? c.variableName = some (c.setting.2.key, false) := by
  refine forall_all.2 ⟨?_, ?_, ?_⟩ <;> decide +kernel

theorem read_eq_ok_iff : ∀ c ∈ all, ∀ (value : SettingValue) (settings : Settings),
    c.setting.2.read value = .ok (c.setting.2.get settings) ↔
      ∃ t, value = .text t ∧ c.text settings = some t := by
  refine forall_all.2 ⟨?_, ?_, ?_⟩
  all_goals
    intro value settings
    cases value <;>
      simp [password, username, site, Setting.password, Setting.username, Setting.site,
        Setting.optionalText, SettingValue.toText, Except.map, eq_comm]

theorem read_eq_error_iff : ∀ c ∈ all, ∀ (value : SettingValue) (fault : ValueFault),
    c.setting.2.read value = .error fault ↔
      (∀ t, value ≠ .text t) ∧ fault = .kind value "a string" := by
  refine forall_all.2 ⟨?_, ?_, ?_⟩
  all_goals
    intro value fault
    cases value <;>
      simp [password, username, site, Setting.password, Setting.username, Setting.site,
        Setting.optionalText, SettingValue.toText, Except.map, eq_comm]

end TextSetting

theorem Setting.eq_of_key {s s' : Sigma Setting} (hs : s ∈ Setting.all) (hs' : s' ∈ Setting.all)
    (same : s.2.key = s'.2.key) : s = s' := by
  have distinct : (Setting.all.map fun s => s.2.key).Nodup := by decide
  exact List.inj_on_of_nodup_map distinct hs hs' same

section Given

variable {files : Files} {env : Variables} {path v : String} {file : Layer} {c : TextSetting}
  {settings : Settings}

/-- The environment gives the setting what the variable holds, if no other variable names it. -/
theorem sets_of_variable (hc : c ∈ TextSetting.all) (given : (c.variableName, v) ∈ env)
    (alone : ∀ other ∈ env, Names c.setting.2.key other.1 → other = (c.variableName, v)) :
    Sets env c.setting.2.key (readValue v) := by
  have named := TextSetting.setting?_variableName c hc
  obtain ⟨value, sets⟩ := exists_sets given ⟨false, named⟩
  obtain ⟨before, name, text, after, below, rfl, named', -, rfl⟩ := id sets
  cases alone (name, text) (by simp) ⟨below, named'⟩
  cases named.symm.trans named'
  exact sets

/-- Everything but this setting is of the right kind. -/
def OthersValid (env : Variables) (file : Layer) (c : TextSetting) : Prop :=
  ∀ s ∈ Setting.all, s.2.key ≠ c.setting.2.key → ∀ value, Merged env file s.2.key value →
  ∃ a, s.2.read value = .ok a

theorem merged_eq {value value' : SettingValue} {key : String} (sets : Sets env key value)
    (merged : Merged env file key value') : value' = value := by
  cases merged with
  | env sets' => exact sets'.unique sets
  | file silent => exact absurd sets (silent value)

variable {value : SettingValue}

/-- If the others are right, what is reported is this setting. -/
theorem fault_of_load (reads : FileLayer files path file) (hc : c ∈ TextSetting.all)
    (sets : Sets env c.setting.2.key value) (valid : OthersValid env file c) {e : SettingsError}
    (h : load files env path = .error e) :
    (∀ t, value ≠ .text t) ∧ e = .value c.setting.2.key (.kind value "a string") := by
  obtain ⟨s, hs, value', fault, merged, wrong, rfl⟩ := exists_of_load_eq_error reads h
  by_cases same : s.2.key = c.setting.2.key
  · obtain rfl := Setting.eq_of_key hs (TextSetting.setting_mem c hc) same
    obtain rfl := merged_eq sets merged
    obtain ⟨noText, rfl⟩ := (TextSetting.read_eq_error_iff c hc _ _).1 wrong
    exact ⟨noText, rfl⟩
  · obtain ⟨a, right⟩ := valid s hs same value' merged
    cases wrong.symm.trans right

theorem text_of_load (reads : FileLayer files path file) (hc : c ∈ TextSetting.all)
    (sets : Sets env c.setting.2.key value) (h : load files env path = .ok settings) :
    ∃ t, value = .text t ∧ c.text settings = some t := by
  have loaded := (value_of_load reads).1 h c.setting (TextSetting.setting_mem c hc)
  rcases Setting.value_eq_ok_iff.1 loaded with ⟨missing, -⟩ | ⟨value', found, read⟩
  · cases missing.symm.trans (lookup_eq_some_iff.2 (.env sets))
  · obtain rfl := merged_eq sets (lookup_eq_some_iff.1 found)
    exact (TextSetting.read_eq_ok_iff c hc _ _).1 read

theorem load_of_text (reads : FileLayer files path file) (hc : c ∈ TextSetting.all) {t : String}
    (sets : Sets env c.setting.2.key (.text t)) (valid : OthersValid env file c) :
    ∃ settings, load files env path = .ok settings ∧ c.text settings = some t := by
  cases h : load files env path with
  | error e => exact absurd rfl ((fault_of_load reads hc sets valid h).1 t)
  | ok settings =>
    obtain ⟨_, ⟨⟩, held⟩ := text_of_load reads hc sets h
    exact ⟨settings, rfl, held⟩

theorem load_of_not_text (reads : FileLayer files path file) (hc : c ∈ TextSetting.all)
    (sets : Sets env c.setting.2.key value) (noText : ∀ t, value ≠ .text t)
    (valid : OthersValid env file c) :
    load files env path = .error (.value c.setting.2.key (.kind value "a string")) := by
  cases h : load files env path with
  | error e => rw [(fault_of_load reads hc sets valid h).2]
  | ok settings =>
    obtain ⟨t, text, -⟩ := text_of_load reads hc sets h
    exact absurd text (noText t)

/-- **A credential in the environment is what its variable holds exactly if that is literal.** What
the variable spells otherwise takes its place if it is a text, and is reported if it is none. -/
theorem credential_from_environment (reads : FileLayer files path file) (hc : c ∈ TextSetting.all)
    (given : (c.variableName, v) ∈ env)
    (alone : ∀ other ∈ env, Names c.setting.2.key other.1 → other = (c.variableName, v))
    (valid : OthersValid env file c) :
    ((∃ settings, load files env path = .ok settings ∧ c.text settings = some v) ↔ IsLiteral v) ∧
    (∀ t, Spells v (.text t) → ∃ settings, load files env path = .ok settings ∧
      c.text settings = some t) ∧
    ∀ value, Spells v value → (∀ t, value ≠ .text t) →
      load files env path = .error (.value c.setting.2.key (.kind value "a string")) := by
  have sets := sets_of_variable hc given alone
  refine ⟨?_, fun t spelt => ?_, fun value spelt noText => ?_⟩
  · rw [← readValue_eq_text_self_iff]
    constructor
    · rintro ⟨settings, loaded, held⟩
      obtain ⟨t, text, held'⟩ := text_of_load reads hc sets loaded
      cases held.symm.trans held'
      exact text
    · intro literal
      exact load_of_text reads hc (literal ▸ sets) valid
  · exact load_of_text reads hc (readValue_of_spells spelt ▸ sets) valid
  · exact load_of_not_text reads hc (readValue_of_spells spelt ▸ sets) noText valid

end Given

/-- A password of digits only. -/
def withDigits : Variables := [("UNIFI_PASSWORD", "12345")]

theorem othersValid_withDigits : OthersValid withDigits [] .password := by
  intro s _ other value merged
  cases merged with
  | env sets =>
    obtain ⟨before, name, text, after, below, same, named, -⟩ := sets
    have only : (name, text) ∈ withDigits := by simp [same]
    cases List.mem_singleton.1 only
    have own := TextSetting.setting?_variableName .password (by simp [TextSetting.all])
    exact absurd (congrArg Prod.fst (Option.some.inj (own.symm.trans named))).symm other
  | file _ given => cases given

/-- A password of digits only is refused, although everything else is right. -/
theorem digits_refused : OthersValid withDigits [] .password ∧
    load noFile withDigits "a" = .error (.value "password" (.kind (.natural 12345) "a string")) ∧
    ¬ ∃ settings, load noFile withDigits "a" = .ok settings ∧ settings.password = some "12345" := by
  have layer : Environment.settings withDigits = [("password", .natural 12345)] := by
    decide +kernel
  have refused : load noFile withDigits "a" =
      .error (.value "password" (.kind (.natural 12345) "a string")) := by
    rw [load_of_fileLayer (.missing rfl), layer]
    rfl
  refine ⟨othersValid_withDigits, refused, ?_⟩
  rintro ⟨settings, loaded, -⟩
  cases refused.symm.trans loaded

theorem credential_from_environment_digits : ¬ IsLiteral "12345" ∧
    load noFile withDigits "a" =
      .error (.value "password" (.kind (.natural 12345) "a string")) := by
  have spelt : Spells "12345" (.natural 12345) := takeValue_eq_some_iff.1 (by decide +kernel)
  have alone : ∀ other ∈ withDigits, Names "password" other.1 →
      other = ("UNIFI_PASSWORD", "12345") :=
    fun other hother _ => List.mem_singleton.1 hother
  have reads : FileLayer noFile "a" [] := .missing rfl
  obtain ⟨iff, -, refused⟩ :=
    credential_from_environment reads (c := .password) (by simp [TextSetting.all])
    List.mem_cons_self alone othersValid_withDigits
  have failed := refused _ spelt nofun
  refine ⟨fun literal => ?_, failed⟩
  obtain ⟨settings, loaded, -⟩ := iff.2 literal
  cases failed.symm.trans loaded

end FirewallOrder
