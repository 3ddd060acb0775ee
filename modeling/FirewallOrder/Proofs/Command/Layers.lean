import FirewallOrder.Command.Configure
import FirewallOrder.Proofs.Result
import FirewallOrder.Proofs.Settings.Environment
import FirewallOrder.Url.Reader

/-!
# The layers of settings

There are seven settings (`Setting.all`). Each is taken from the highest layer that gives it,
whatever the layers say of the others (`Setting.Takes`): the options of the command line, the
environment, the file, and what stands for none. Its kind is looked at between the first two of
these: settings are loaded if what environment and file give together is of the right kinds, and
only then come the options.
-/

namespace FirewallOrder

open Settings

/-! ## Settings one by one -/

/-- A setting: its name, the kind of its values, what stands for none, where it is found, and the
option that gives it. -/
structure Setting (α : Type) where
  key : String
  read : SettingValue → Except ValueFault α
  fallback : α
  get : Settings → α
  option : GlobalOptions → Option α

namespace Setting

/-- A text that may be missing. -/
def optionalText (key wanted : String) (get : Settings → Option String)
    (option : GlobalOptions → Option String) : Setting (Option String) where
  key := key
  read := fun value => (value.toText wanted).map some
  fallback := none
  get := get
  option := fun o => (option o).map some

def apiUrl : Setting (Option String) := optionalText "api_url" "a string" (·.apiUrl) (·.controller)

def username : Setting (Option String) :=
  optionalText "username" "a string" (·.username) fun _ => none

def password : Setting (Option String) :=
  optionalText "password" "a string" (·.password) fun _ => none

def caCert : Setting (Option String) :=
  optionalText "ca_cert" "path string" (·.caCert) fun _ => none

def site : Setting String where
  key := "site"
  read := SettingValue.toText "a string"
  fallback := "default"
  get := (·.site)
  option := (·.site)

/-- The option can only switch this on. -/
def insecure : Setting Bool where
  key := "insecure"
  read := SettingValue.toBool
  fallback := false
  get := (·.insecure)
  option := fun o => if o.insecure then some true else none

def timeout : Setting Nat where
  key := "timeout"
  read := SettingValue.toNat
  fallback := 30
  get := (·.timeout)
  option := (·.timeout)

/-- The settings, in the order in which they are looked at. -/
def all : List (Sigma Setting) :=
  [⟨_, apiUrl⟩, ⟨_, caCert⟩, ⟨_, insecure⟩, ⟨_, password⟩, ⟨_, site⟩, ⟨_, timeout⟩, ⟨_, username⟩]

theorem forall_all {p : Sigma Setting → Prop} :
    (∀ s ∈ all, p s) ↔ p ⟨_, apiUrl⟩ ∧ p ⟨_, caCert⟩ ∧ p ⟨_, insecure⟩ ∧ p ⟨_, password⟩ ∧
    p ⟨_, site⟩ ∧ p ⟨_, timeout⟩ ∧ p ⟨_, username⟩ := by
  simp only [all, List.forall_mem_cons, List.not_mem_nil, false_implies, implies_true, and_true]

variable {α : Type} {s : Setting α} {layers : List Layer} {a : α} {e : SettingsError}

/-- What the layers of file and environment make of a setting. -/
def value (s : Setting α) (layers : List Layer) : Except SettingsError α :=
  (extract layers s.key s.read).map (·.getD s.fallback)

theorem value_eq_ok_iff : s.value layers = .ok a ↔ lookup layers s.key = none ∧ a = s.fallback ∨
    ∃ v, lookup layers s.key = some v ∧ s.read v = .ok a := by
  cases found : lookup layers s.key with
  | none => simp [value, extract, found, Except.map, eq_comm]
  | some v => cases read : s.read v <;> simp [value, extract, found, read, Except.map]

theorem value_eq_error_iff : s.value layers = .error e ↔
    ∃ v fault, lookup layers s.key = some v ∧ s.read v = .error fault ∧ e = .value s.key fault := by
  cases found : lookup layers s.key with
  | none => simp [value, extract, found, Except.map]
  | some v => cases read : s.read v <;> simp [value, extract, found, read, Except.map, eq_comm]

theorem value_optionalText {key wanted : String} {get : Settings → Option String}
    {option : GlobalOptions → Option String} :
    (optionalText key wanted get option).value layers =
      extract layers key (SettingValue.toText wanted) := by
  cases found : lookup layers key with
  | none => simp [value, optionalText, extract, found, Except.map]
  | some v =>
    cases read : v.toText wanted <;> simp [value, optionalText, extract, found, read, Except.map]

end Setting

/-! ## Loading -/

variable {layers layers' : List Layer} {settings : Settings} {e : SettingsError}

/-- The settings are looked at one after the other. -/
theorem ofLayers_eq (layers : List Layer) : ofLayers layers = (do
    let apiUrl ← Setting.apiUrl.value layers
    let caCert ← Setting.caCert.value layers
    let insecure ← Setting.insecure.value layers
    let password ← Setting.password.value layers
    let site ← Setting.site.value layers
    let timeout ← Setting.timeout.value layers
    let username ← Setting.username.value layers
    pure ⟨apiUrl, username, password, site, insecure, caCert, timeout⟩) := by
  -- A text that may be missing is what was found, so its value is what is extracted; the others
  -- have a fallback.
  simp only [Setting.apiUrl, Setting.caCert, Setting.password, Setting.username,
    Setting.value_optionalText]
  simp only [ofLayers, Setting.value, Setting.insecure, Setting.site, Setting.timeout]
  cases extract layers "api_url" _ with
  | error => rfl
  | ok =>
  cases extract layers "ca_cert" _ with
  | error => rfl
  | ok =>
  cases extract layers "insecure" _ with
  | error => rfl
  | ok =>
  cases extract layers "password" _ with
  | error => rfl
  | ok =>
  cases extract layers "site" _ with
  | error => rfl
  | ok =>
  cases extract layers "timeout" _ with
  | error => rfl
  | ok =>
  cases extract layers "username" _ with
  | error => rfl
  | ok => rfl

theorem ofLayers_eq_ok_iff : ofLayers layers = .ok settings ↔
    ∀ s ∈ Setting.all, s.2.value layers = .ok (s.2.get settings) := by
  rw [ofLayers_eq]
  constructor
  · intro h
    obtain ⟨apiUrl, hapiUrl, h⟩ := bind_eq_ok_iff.1 h
    obtain ⟨caCert, hcaCert, h⟩ := bind_eq_ok_iff.1 h
    obtain ⟨insecure, hinsecure, h⟩ := bind_eq_ok_iff.1 h
    obtain ⟨password, hpassword, h⟩ := bind_eq_ok_iff.1 h
    obtain ⟨site, hsite, h⟩ := bind_eq_ok_iff.1 h
    obtain ⟨timeout, htimeout, h⟩ := bind_eq_ok_iff.1 h
    obtain ⟨username, husername, h⟩ := bind_eq_ok_iff.1 h
    cases h
    exact Setting.forall_all.2 ⟨hapiUrl, hcaCert, hinsecure, hpassword, hsite, htimeout, husername⟩
  · intro h
    obtain ⟨hapiUrl, hcaCert, hinsecure, hpassword, hsite, htimeout, husername⟩ :=
      Setting.forall_all.1 h
    rw [hapiUrl, hcaCert, hinsecure, hpassword, hsite, htimeout, husername]
    rfl

theorem exists_of_ofLayers_eq_error (h : ofLayers layers = .error e) :
    ∃ s ∈ Setting.all, s.2.value layers = .error e := by
  rw [ofLayers_eq] at h
  rcases bind_eq_error_iff.1 h with wrong | ⟨_, -, h⟩
  · exact ⟨⟨_, Setting.apiUrl⟩, by simp [Setting.all], wrong⟩
  rcases bind_eq_error_iff.1 h with wrong | ⟨_, -, h⟩
  · exact ⟨⟨_, Setting.caCert⟩, by simp [Setting.all], wrong⟩
  rcases bind_eq_error_iff.1 h with wrong | ⟨_, -, h⟩
  · exact ⟨⟨_, Setting.insecure⟩, by simp [Setting.all], wrong⟩
  rcases bind_eq_error_iff.1 h with wrong | ⟨_, -, h⟩
  · exact ⟨⟨_, Setting.password⟩, by simp [Setting.all], wrong⟩
  rcases bind_eq_error_iff.1 h with wrong | ⟨_, -, h⟩
  · exact ⟨⟨_, Setting.site⟩, by simp [Setting.all], wrong⟩
  rcases bind_eq_error_iff.1 h with wrong | ⟨_, -, h⟩
  · exact ⟨⟨_, Setting.timeout⟩, by simp [Setting.all], wrong⟩
  rcases bind_eq_error_iff.1 h with wrong | ⟨_, -, h⟩
  · exact ⟨⟨_, Setting.username⟩, by simp [Setting.all], wrong⟩
  cases h

theorem ofLayers_congr (same : ∀ key, lookup layers key = lookup layers' key) :
    ofLayers layers = ofLayers layers' := by
  simp only [ofLayers, extract, same]

/-! ## Environment and file -/

namespace Settings

/-- What the file under this path gives, which is nothing if there is none. -/
inductive FileLayer (files : Files) (path : String) : Layer → Prop
  | missing (none_ : files.read path = .error .missing) : FileLayer files path []
  | notDirectory (none_ : files.read path = .error .notDirectory) : FileLayer files path []
  | text {text : String} {file : Layer} (read : files.read path = .ok text)
    (toml : fileLayer text = some file) : FileLayer files path file

/-- What environment and file give for a setting: the file only counts if the environment is
silent. -/
inductive Merged (env : Environment.Variables) (file : Layer) (key : String) (v : SettingValue) :
    Prop
  | env (sets : Environment.Sets env key v)
  | file (silent : ∀ w, ¬ Environment.Sets env key w) (given : file.find? key = some v)

variable {files : Files} {path : String} {env env' : Environment.Variables} {file file' : Layer}
  {key : String}

theorem lookup_pair {upper lower : Layer} :
    lookup [upper, lower] key = (upper.find? key).or (lower.find? key) := by
  cases found : upper.find? key <;> cases found' : lower.find? key <;>
    simp [lookup, List.findSome?, found, found']

theorem load_of_fileLayer (reads : FileLayer files path file) :
    load files env path = ofLayers [Environment.settings env, file] := by
  have alone : ofLayers [Environment.settings env] = ofLayers [Environment.settings env, []] := by
    refine ofLayers_congr fun key => ?_
    rw [lookup_pair, show Layer.find? [] key = none from rfl, Option.or_none, lookup,
      List.findSome?_singleton]
  cases reads with
  | missing none_ => simp only [load, none_, alone]
  | notDirectory none_ => simp only [load, none_, alone]
  | text read toml => simp only [load, read, toml]

theorem find?_settings_eq_none_iff :
    Layer.find? (Environment.settings env) key = none ↔ ∀ v, ¬ Environment.Sets env key v := by
  simp only [Option.eq_none_iff_forall_ne_some, ne_eq, Environment.find?_settings_iff]

theorem lookup_eq_some_iff {v : SettingValue} :
    lookup [Environment.settings env, file] key = some v ↔ Merged env file key v := by
  rw [lookup_pair, Option.or_eq_some_iff, Environment.find?_settings_iff,
    find?_settings_eq_none_iff]
  constructor
  · rintro (sets | ⟨silent, given⟩)
    exacts [.env sets, .file silent given]
  · rintro (sets | ⟨silent, given⟩)
    exacts [.inl sets, .inr ⟨silent, given⟩]

end Settings

/-! ## All layers -/

namespace Setting

variable {α : Type} {s : Setting α} {o o' : GlobalOptions} {env env' : Environment.Variables}
  {file file' : Layer} {a : α}

/-- What the setting is: an option says so, or the environment if there is no option, or the file if
the environment is silent as well. -/
inductive Takes (s : Setting α) (o : GlobalOptions) (env : Environment.Variables) (file : Layer) :
    α → Prop
  | option {a : α} (given : s.option o = some a) : s.Takes o env file a
  | env {v : SettingValue} {a : α} (none_ : s.option o = none) (sets : Environment.Sets env s.key v)
    (read : s.read v = .ok a) : s.Takes o env file a
  | file {v : SettingValue} {a : α} (none_ : s.option o = none)
    (silent : ∀ v, ¬ Environment.Sets env s.key v) (given : file.find? s.key = some v)
    (read : s.read v = .ok a) : s.Takes o env file a
  | fallback (none_ : s.option o = none) (silent : ∀ v, ¬ Environment.Sets env s.key v)
    (missing : file.find? s.key = none) : s.Takes o env file s.fallback

end Setting

section Loaded

variable {files : Files} {path : String} {env : Environment.Variables} {file : Layer}

theorem value_of_load (reads : FileLayer files path file) : load files env path = .ok settings ↔
    ∀ s ∈ Setting.all, s.2.value [Environment.settings env, file] = .ok (s.2.get settings) := by
  rw [load_of_fileLayer reads, ofLayers_eq_ok_iff]

/-- What is reported is a value of the wrong kind that environment and file give together. -/
theorem exists_of_load_eq_error (reads : FileLayer files path file)
    (h : load files env path = .error e) :
    ∃ s ∈ Setting.all, ∃ v fault, Merged env file s.2.key v ∧ s.2.read v = .error fault ∧
    e = .value s.2.key fault := by
  rw [load_of_fileLayer reads] at h
  obtain ⟨s, hs, wrong⟩ := exists_of_ofLayers_eq_error h
  obtain ⟨v, fault, found, read, rfl⟩ := Setting.value_eq_error_iff.1 wrong
  exact ⟨s, hs, v, fault, lookup_eq_some_iff.1 found, read, rfl⟩

end Loaded

def noFile : Files := ⟨fun _ => .error .missing⟩

end FirewallOrder
