import FirewallOrder.Settings.Load

/-!
# Which variable counts

Several variables may name one setting, since case and the blanks around a name do not count. Of
those the last that the environment lists is taken (`Environment.Sets`).
-/

namespace FirewallOrder.Environment

/-- The variable of this name sets the setting, or something below it. -/
def Names (key name : String) : Prop := ∃ below, setting? name = some (key, below)

/-- What is given by a variable that sets the setting, or something below it. -/
def given (below : Bool) (text : String) : SettingValue := if below then .table else readValue text

/-- The environment gives the setting this value: so says the last variable that names it. -/
def Sets (env : Variables) (key : String) (value : SettingValue) : Prop :=
  ∃ before name text after below, env = before ++ (name, text) :: after ∧
    setting? name = some (key, below) ∧ (∀ other ∈ after, ¬ Names key other.1) ∧
    value = given below text

variable {env : Variables} {key name : String} {value value' : SettingValue}

theorem settings_eq (env : Variables) : settings env = env.reverse.filterMap fun v =>
    (setting? v.1).map fun (key, below) => (key, given below v.2) := by
  rw [List.filterMap_reverse]
  rfl

theorem sets_of_find? (h : Settings.Layer.find? (settings env) key = some value) :
    Sets env key value := by
  obtain ⟨⟨key', _⟩, found, rfl⟩ := Option.map_eq_some_iff.1 h
  have same : key' = key := by simpa using List.find?_some found
  rw [settings_eq, List.find?_filterMap] at found
  obtain ⟨⟨name, text⟩, first, made⟩ := Option.bind_eq_some_iff.1 found
  obtain ⟨⟨key, below⟩, named, entry⟩ := Option.map_eq_some_iff.1 made
  obtain ⟨-, after, before, reversed, others⟩ := List.find?_eq_some_iff_append.1 first
  cases entry
  subst same
  refine ⟨before.reverse, name, text, after.reverse, below, ?_, named, ?_, rfl⟩
  · rw [List.reverse_eq_iff.1 reversed]
    simp
  · rintro other hother ⟨below', named'⟩
    simpa [named'] using others other (List.mem_reverse.1 hother)

/-- The last variable that names a setting is the first that is found. -/
theorem find?_of_sets (h : Sets env key value) :
    Settings.Layer.find? (settings env) key = some value := by
  obtain ⟨before, name, text, after, below, rfl, named, others, rfl⟩ := h
  have silent : (settings after).find? (fun e => e.1 == key) = none := by
    rw [List.find?_eq_none, settings_eq]
    rintro ⟨key', v⟩ entry same
    obtain ⟨other, hother, made⟩ := List.mem_filterMap.1 entry
    obtain ⟨⟨_, below'⟩, named', entry'⟩ := Option.map_eq_some_iff.1 made
    cases entry'
    obtain rfl : key' = key := by simpa using same
    exact others other (List.mem_reverse.1 hother) ⟨below', named'⟩
  rw [Settings.Layer.find?, settings_eq, List.reverse_append, List.reverse_cons,
    List.filterMap_append, List.filterMap_append, ← settings_eq after, List.append_assoc,
    List.find?_append, silent]
  simp [named]

theorem find?_settings_iff :
    Settings.Layer.find? (settings env) key = some value ↔ Sets env key value :=
  ⟨sets_of_find?, find?_of_sets⟩

theorem Sets.unique (h : Sets env key value) (h' : Sets env key value') : value = value' :=
  Option.some.inj ((find?_of_sets h).symm.trans (find?_of_sets h'))

/-- A setting that is named is given some value. -/
theorem exists_sets {text : String} (present : (name, text) ∈ env) (names : Names key name) :
    ∃ value, Sets env key value := by
  obtain ⟨below, named⟩ := names
  have entry : (key, given below text) ∈ settings env := by
    rw [settings_eq, List.mem_filterMap]
    exact ⟨(name, text), List.mem_reverse.2 present, by simp [named]⟩
  obtain ⟨e, found⟩ : ∃ e, (settings env).find? (fun e => e.1 == key) = some e := by
    rw [← Option.isSome_iff_exists, List.find?_isSome]
    exact ⟨_, entry, beq_self_eq_true key⟩
  exact ⟨e.2, sets_of_find? (Option.map_eq_some_iff.2 ⟨e, found, rfl⟩)⟩

end FirewallOrder.Environment
