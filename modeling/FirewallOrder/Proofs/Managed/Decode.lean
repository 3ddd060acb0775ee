import FirewallOrder.Managed.Config
import FirewallOrder.Proofs.Json.Given
import FirewallOrder.Proofs.Ruleset.Name
import FirewallOrder.Proofs.Text.Trim

/-!
# Which values are configurations

A value describes a configuration as it was written (`RulesetConfig.Describes`), and of this six
things are checked in a fixed order (`RulesetConfig.Aspect.order`). If all are right, the
configuration holds what was written, with the ruleset that the name means; otherwise the first that
is wrong is reported.
-/

namespace FirewallOrder.RulesetConfig

open Json Text

variable {value : Json} {raw : Raw} {config : RulesetConfig} {fault : ConfigFault}

/-! ## The shape -/

/-- The names of the four fields. -/
def fieldNames : List String := ["site", "ruleset", "before_predefined", "after_predefined"]

/-- What the value says as a configuration: the ruleset is a text, the site is a text if it is there
and not null, and the lists hold texts if they are there. -/
def Describes (value : Json) (raw : Raw) : Prop :=
  ∃ given, Gives fieldNames value.canonicalize given ∧ GivesOptionalText (given "site") raw.site ∧
    given "ruleset" = some (.str raw.ruleset) ∧ GivesTexts (given "before_predefined") raw.before ∧
    GivesTexts (given "after_predefined") raw.after

namespace Raw

def siteSlot : record.Slot (Option String) :=
  .ofFields [] rfl nofun
    (Field.spared_cons (fun _ _ => rfl)
      (Field.spared_cons (fun _ _ => rfl) (Field.spared_singleton fun _ _ => rfl)))
    rfl (fun _ _ => rfl) nofun

def rulesetSlot : record.Slot String :=
  .ofFields (record.fields.take 1) rfl (by decide)
    (Field.spared_cons (fun _ _ => rfl)
      (Field.spared_cons (fun _ _ => rfl) (Field.spared_singleton fun _ _ => rfl)))
    rfl (fun _ _ => rfl) nofun

def beforeSlot : record.Slot (List String) :=
  .ofFields (record.fields.take 2) rfl (by decide)
    (Field.spared_cons (fun _ _ => rfl)
      (Field.spared_cons (fun _ _ => rfl) (Field.spared_singleton fun _ _ => rfl)))
    rfl (fun _ _ => rfl) nofun

def afterSlot : record.Slot (List String) :=
  .ofFields (record.fields.take 3) rfl (by decide)
    (Field.spared_cons (fun _ _ => rfl)
      (Field.spared_cons (fun _ _ => rfl) (Field.spared_singleton fun _ _ => rfl)))
    rfl (fun _ _ => rfl) nofun

theorem fields_eq :
    record.fields = [siteSlot.field, rulesetSlot.field, beforeSlot.field, afterSlot.field] := rfl

theorem slotted_record : record.Slotted where
  nodup := show fieldNames.Nodup by decide
  slot := by
    rw [fields_eq]
    simp only [List.forall_mem_cons, List.not_mem_nil, false_implies, implies_true, and_true]
    exact ⟨⟨_, siteSlot, rfl⟩, ⟨_, rulesetSlot, rfl⟩, ⟨_, beforeSlot, rfl⟩, ⟨_, afterSlot, rfl⟩⟩

theorem finish_eq_ok_iff {d : Draft} : record.finish d = .ok raw ↔ raw.site = d.site.getD none ∧
    d.ruleset = some raw.ruleset ∧ raw.before = d.before.getD [] ∧ raw.after = d.after.getD [] := by
  obtain ⟨site, ruleset, before, after⟩ := d
  obtain ⟨site', ruleset', before', after'⟩ := raw
  cases ruleset with
  | none => simp [record, require, bind, Except.bind]
  | some name => simp [record, require, bind, Except.bind, pure, Except.pure, eq_comm]

end Raw

open Raw in
/-- **The shape of a configuration.** -/
theorem decodeValue_eq_ok_iff : decodeValue Raw.record.decode value = .ok raw ↔
    Describes value raw := by
  have site := siteSlot.means_optionalText rfl
  have before := beforeSlot.means_texts rfl
  have after := afterSlot.means_texts rfl
  constructor
  · intro h
    obtain ⟨given, d, gives, hfinish, finds⟩ := Record.exists_of_decodeValue slotted_record rfl h
    obtain ⟨hsite, hruleset, hbefore, hafter⟩ := finish_eq_ok_iff.1 hfinish
    exact ⟨given, gives, (site.iff_of_finds (finds _ siteSlot)).2 hsite,
      (Record.Slot.text_iff_of_finds rfl (finds _ rulesetSlot)).2 hruleset,
      (before.iff_of_finds (finds _ beforeSlot)).2 hbefore,
      (after.iff_of_finds (finds _ afterSlot)).2 hafter⟩
  · rintro ⟨given, gives, hsite, hruleset, hbefore, hafter⟩
    -- The draft holds what its fields find, and that is what was meant.
    obtain ⟨d, finds, decoded⟩ : ∃ d, (∀ (β : Type) (s : record.Slot β), s.Finds given (s.get d)) ∧
        ∀ a, record.finish d = .ok a → decodeValue record.decode value = .ok a := by
      refine Record.decodeValue_of_gives slotted_record rfl gives ?_ ?_
      · rw [fields_eq]
        simp only [List.forall_mem_cons, List.not_mem_nil, false_implies, implies_true, and_true]
        refine ⟨.inl rfl, .inr ?_, .inl rfl, .inl rfl⟩
        rw [show given rulesetSlot.field.name = _ from hruleset]
        exact Option.some_ne_none _
      · rw [fields_eq]
        simp only [List.forall_mem_cons, List.not_mem_nil, false_implies, implies_true, and_true]
        obtain ⟨v, hv⟩ := site.exists_finds hsite
        obtain ⟨v', hv'⟩ := before.exists_finds hbefore
        obtain ⟨v'', hv''⟩ := after.exists_finds hafter
        exact ⟨⟨_, siteSlot, v, rfl, hv⟩, ⟨_, rulesetSlot, some _, rfl, _, hruleset, rfl⟩,
          ⟨_, beforeSlot, v', rfl, hv'⟩, ⟨_, afterSlot, v'', rfl, hv''⟩⟩
    refine decoded raw (finish_eq_ok_iff.2 ⟨?_, ?_, ?_, ?_⟩)
    · exact (site.iff_of_finds (finds _ siteSlot)).1 hsite
    · exact (Record.Slot.text_iff_of_finds rfl (finds _ rulesetSlot)).1 hruleset
    · exact (before.iff_of_finds (finds _ beforeSlot)).1 hbefore
    · exact (after.iff_of_finds (finds _ afterSlot)).1 hafter

/-! ## The checks -/

/-- What is checked of a configuration. -/
inductive Aspect
  | site
  | ruleset
  | size (b : Band)
  | blanks (b : Band)

/-- The order of the checks. -/
def Aspect.order : List Aspect :=
  [.site, .ruleset, .size .before, .blanks .before, .size .after, .blanks .after]

namespace Raw

/-- The list of a band. -/
def ids (raw : Raw) : Band → List String
  | .before => raw.before
  | .after => raw.after

/-- The configuration is right in this respect. -/
def Fits (raw : Raw) : Aspect → Prop
  | .site => ∀ site, raw.site = some site → Site.IsName site
  | .ruleset => ∃ r : Ruleset, r.IsCalled raw.ruleset
  | .size b => (raw.ids b).length ≤ 1000
  | .blanks b => ∀ id ∈ raw.ids b, trim id ≠ ""

/-- What is reported of it if it is not: of several blank identities the first. -/
inductive Reports (raw : Raw) : Aspect → ConfigFault → Prop
  | site {site : String} {fault : SiteFault} (given : raw.site = some site)
    (wrong : Site.fault? site = some fault) : Reports raw .site (.site fault)
  | ruleset : Reports raw .ruleset (.ruleset raw.ruleset)
  | size (b : Band) : Reports raw (.size b) (.tooMany b (raw.ids b).length)
  | blanks {b : Band} {place : Nat} (inside : place < (raw.ids b).length)
    (blank : trim (raw.ids b)[place] = "")
      (first : ∀ (i : Nat) (hi : i < place), trim (raw.ids b)[i] ≠ "") :
      Reports raw (.blanks b) (.blankId b place)

/-- One check. -/
def check (raw : Raw) : Aspect → Except ConfigFault Unit
  | .site => checkSite raw.site
  | .ruleset =>
    if (Ruleset.ofName? raw.ruleset).isSome then .ok () else .error (.ruleset raw.ruleset)
  | .size b =>
    if Band.width < (raw.ids b).length then .error (.tooMany b (raw.ids b).length) else .ok ()
  | .blanks b =>
    match (raw.ids b).findIdx? isBlankText with
    | some place => .error (.blankId b place)
    | none => .ok ()

theorem check_eq_ok_iff {aspect : Aspect} : raw.check aspect = .ok () ↔ raw.Fits aspect := by
  cases aspect with
  | site =>
    rw [check, Fits]
    cases given : raw.site with
    | none => simp [checkSite]
    | some site =>
      rw [checkSite]
      cases wrong : Site.fault? site <;> simp [Site.IsName, wrong]
  | ruleset =>
    rw [check, Fits]
    simp only [← Ruleset.ofName?_eq_some_iff]
    cases Ruleset.ofName? raw.ruleset <;> simp
  | size b =>
    have width : Band.width = 1000 := rfl
    rw [check, Fits]
    split
    · refine iff_of_false (fun h => ?_) (by omega)
      cases h
    · exact iff_of_true rfl (by omega)
  | blanks b =>
    rw [check, Fits]
    simp only [ne_eq, ← isBlankText_iff, Bool.not_eq_true, ← List.findIdx?_eq_none_iff]
    cases (raw.ids b).findIdx? isBlankText <;> simp

instance (raw : Raw) (aspect : Aspect) : Decidable (raw.Fits aspect) :=
  match checked : raw.check aspect with
  | .ok () => .isTrue (check_eq_ok_iff.1 checked)
  | .error _ => .isFalse fun fits => nomatch checked.symm.trans (check_eq_ok_iff.2 fits)

theorem reports_of_check {aspect : Aspect} (h : raw.check aspect = .error fault) :
    raw.Reports aspect fault := by
  cases aspect with
  | site =>
    rw [check] at h
    cases given : raw.site with
    | none =>
      rw [given] at h
      cases h
    | some site =>
      rw [given, checkSite] at h
      cases wrong : Site.fault? site with
      | none =>
        rw [wrong] at h
        cases h
      | some fault =>
        rw [wrong] at h
        cases h
        exact .site given wrong
  | ruleset =>
    rw [check] at h
    split at h <;> cases h
    exact .ruleset
  | size b =>
    rw [check] at h
    split at h <;> cases h
    exact .size b
  | blanks b =>
    rw [check] at h
    split at h <;> cases h
    next place found =>
    obtain ⟨inside, blank, first⟩ := List.findIdx?_eq_some_iff_getElem.1 found
    exact .blanks inside (isBlankText_iff.1 blank) fun i hi other =>
      first i hi (isBlankText_iff.2 other)

/-- No two things are reported of one aspect. -/
theorem Reports.unique {aspect : Aspect} {fault' : ConfigFault} (h : raw.Reports aspect fault)
    (h' : raw.Reports aspect fault') : fault = fault' := by
  cases h with
  | site given wrong =>
    cases h' with
    | site given' wrong' =>
      cases given.symm.trans given'
      cases wrong.symm.trans wrong'
      rfl
  | ruleset | size =>
    cases h'
    rfl
  | @blanks b place inside blank first =>
    cases h' with
    | @blanks _ place' inside' blank' first' =>
      rcases Nat.lt_trichotomy place place' with earlier | rfl | later
      · exact absurd blank (first' place earlier)
      · rfl
      · exact absurd blank' (first place' later)

theorem decides_check (raw : Raw) : Decides raw.check raw.Fits raw.Reports :=
  ⟨fun _ => check_eq_ok_iff, reports_of_check, Reports.unique⟩

theorem ofRaw_eq (raw : Raw) : ofRaw raw = forM Aspect.order raw.check >>= fun _ =>
    match Ruleset.ofName? raw.ruleset with
    | some ruleset => .ok ⟨raw.site, ruleset, ⟨raw.before, raw.after⟩⟩
    | none => .error (.ruleset raw.ruleset) := by
  have ids (b : Band) : checkIds b (raw.ids b) =
      raw.check (.size b) >>= fun _ => raw.check (.blanks b) := by
    rw [checkIds, check, check]
    split <;> rfl
  have hbefore : checkIds .before raw.before = _ := ids .before
  have hafter : checkIds .after raw.after = _ := ids .after
  have site : checkSite raw.site = raw.check .site := rfl
  rw [ofRaw, hbefore, hafter, site]
  simp only [Aspect.order, List.forM_cons, List.forM_nil, bind_assoc, pure_bind]
  cases named : Ruleset.ofName? raw.ruleset with
  | none =>
    have wrong : raw.check .ruleset = .error (.ruleset raw.ruleset) := by simp [check, named]
    rw [wrong]
    rfl
  | some r =>
    have right : raw.check .ruleset = .ok () := by simp [check, named]
    rw [right]
    rfl

end Raw

theorem Aspect.mem_order (aspect : Aspect) : aspect ∈ order := by
  cases aspect with
  | site | ruleset => simp [order]
  | size b | blanks b => cases b <;> simp [order]

theorem passed_iff : forM Aspect.order raw.check = .ok () ↔ ∀ aspect, raw.Fits aspect :=
  raw.decides_check.forM_eq_ok_iff_forall Aspect.mem_order

theorem ofRaw_eq_ok_iff : ofRaw raw = .ok config ↔
    (∀ aspect, raw.Fits aspect) ∧ config.site = raw.site ∧ config.ruleset.IsCalled raw.ruleset ∧
    config.order = ⟨raw.before, raw.after⟩ := by
  rw [Raw.ofRaw_eq, bind_eq_ok_iff, ← passed_iff, ← Ruleset.ofName?_eq_some_iff]
  obtain ⟨site, ruleset, order⟩ := config
  constructor
  · rintro ⟨_, passed, h⟩
    cases named : Ruleset.ofName? raw.ruleset with
    | none =>
      rw [named] at h
      cases h
    | some r =>
      rw [named] at h
      cases h
      exact ⟨passed, rfl, rfl, rfl⟩
  · rintro ⟨passed, rfl, named, rfl⟩
    exact ⟨(), passed, by rw [named]⟩

/-- The checks stop at the first thing that is wrong. -/
theorem ofRaw_eq_error_iff : ofRaw raw = .error fault ↔
    ∃ aspect, FirstUnmet raw.Fits Aspect.order aspect ∧ raw.Reports aspect fault := by
  rw [Raw.ofRaw_eq, bind_eq_error_iff, raw.decides_check.forM_eq_error_iff]
  refine or_iff_left ?_
  -- Where all is right, the ruleset has a name.
  rintro ⟨_, passed, h⟩
  obtain ⟨r, called⟩ := passed_iff.1 passed .ruleset
  rw [Ruleset.ofName?_eq_some_iff.2 called] at h
  cases h

/-! ## Decoding -/

theorem Describes.unique {raw' : Raw} (h : Describes value raw) (h' : Describes value raw') :
    raw = raw' := by
  have read := decodeValue_eq_ok_iff.2 h
  rw [decodeValue_eq_ok_iff.2 h'] at read
  exact (Except.ok.inj read).symm

theorem decode_of_describes (h : Describes value raw) : decode value = ofRaw raw := by
  rw [decode, decodeValue_eq_ok_iff.2 h]

theorem decode_eq_ok_iff : decode value = .ok config ↔
    ∃ raw, Describes value raw ∧ (∀ aspect, raw.Fits aspect) ∧ config.site = raw.site ∧
    config.ruleset.IsCalled raw.ruleset ∧ config.order = ⟨raw.before, raw.after⟩ := by
  constructor
  · intro h
    cases shape : decodeValue Raw.record.decode value with
    | error error =>
      rw [decode, shape] at h
      cases h
    | ok raw =>
      rw [decode, shape] at h
      exact ⟨raw, decodeValue_eq_ok_iff.1 shape, ofRaw_eq_ok_iff.1 h⟩
  · rintro ⟨raw, describes, checked⟩
    rw [decode_of_describes describes]
    exact ofRaw_eq_ok_iff.2 checked

/-- A value has the wrong shape if it describes nothing, and nothing else is reported as its
shape. -/
theorem exists_shape_iff : (∃ error, decode value = .error (.shape error)) ↔
    ∀ raw, ¬ Describes value raw := by
  constructor
  · rintro ⟨error, h⟩ raw describes
    rw [decode_of_describes describes] at h
    obtain ⟨aspect, -, reports⟩ := ofRaw_eq_error_iff.1 h
    cases reports
  · intro none_
    cases shape : decodeValue Raw.record.decode value with
    | error error => exact ⟨error, by rw [decode, shape]⟩
    | ok raw => exact absurd (decodeValue_eq_ok_iff.1 shape) (none_ raw)

theorem isName_of_decode (h : decode value = .ok config) :
    ∀ site, config.site = some site → Site.IsName site := by
  obtain ⟨raw, -, fits, same, -⟩ := decode_eq_ok_iff.1 h
  rw [same]
  exact fits .site

/-- No part of a configured order is too long for its band. -/
theorem le_of_decode (h : decode value = .ok config) :
    config.order.before.length ≤ 1000 ∧ config.order.after.length ≤ 1000 := by
  obtain ⟨raw, -, fits, -, -, same⟩ := decode_eq_ok_iff.1 h
  rw [same]
  exact ⟨fits (.size .before), fits (.size .after)⟩

end FirewallOrder.RulesetConfig
