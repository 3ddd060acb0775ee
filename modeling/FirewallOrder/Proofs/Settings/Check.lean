import FirewallOrder.Proofs.Controller.Function
import FirewallOrder.Proofs.Result
import FirewallOrder.Settings.Check
import FirewallOrder.Url.Reader

/-!
# Settings that can be used

Settings have to meet five requirements, and the first that they do not meet is reported. What is
made of settings that meet them all takes over what they say, and below its URL every request of a
session can be addressed (`Settings.settings_checked`).
-/

namespace FirewallOrder

theorem Url.isWeb_iff {url : Url} : url.isWeb = true ↔
    url.scheme = "http" ∨ url.scheme = "https" := by
  rw [isWeb, Bool.or_eq_true, beq_iff_eq, beq_iff_eq]

namespace Settings

/-- What settings have to name. -/
inductive Requirement
  | url
  | account
  | password
  | site
  | time

/-- The order in which it is looked for. -/
def Requirement.order : List Requirement := [.url, .account, .password, .site, .time]

/-- The settings name this. -/
def Meets (urls : UrlReader) (s : Settings) : Requirement → Prop
  | .url =>
    ∃ raw url, s.apiUrl = some raw ∧ urls.read raw = .ok url ∧
      (url.scheme = "http" ∨ url.scheme = "https")
  | .account => ∃ name, s.username = some name ∧ name ≠ ""
  | .password => ∃ password, s.password = some password
  | .site => Site.IsName s.site
  | .time => 0 < s.timeout

/-- What is reported of settings that do not. -/
inductive Reports (urls : UrlReader) (s : Settings) : Requirement → SettingsFault → Prop
  | noUrl (missing : s.apiUrl = none) : Reports urls s .url (.missing .url)
  | badUrl {raw : String} {fault : UrlFault} (given : s.apiUrl = some raw)
    (bad : urls.read raw = .error fault) : Reports urls s .url (.badUrl raw fault)
  | notWeb {raw : String} {url : Url} (given : s.apiUrl = some raw)
    (parsed : urls.read raw = .ok url)
      (foreign : url.scheme ≠ "http" ∧ url.scheme ≠ "https") : Reports urls s .url (.notWeb raw)
  | account : Reports urls s .account (.missing .username)
  | password : Reports urls s .password (.missing .password)
  | site {fault : SiteFault} (wrong : Site.fault? s.site = some fault) :
    Reports urls s .site (.site fault)
  | time : Reports urls s .time .noTime

/-- One check. -/
def test (urls : UrlReader) (s : Settings) : Requirement → Except SettingsFault Unit
  | .url => (s.url urls).map fun _ => ()
  | .account => s.account.map fun _ => ()
  | .password => s.passwordOf.map fun _ => ()
  | .site =>
    match Site.fault? s.site with
    | some fault => .error (.site fault)
    | none => .ok ()
  | .time => if s.timeout = 0 then .error .noTime else .ok ()

variable {urls : UrlReader} {s : Settings} {config : Access} {url : Url} {fault : SettingsFault}
  {requirement : Requirement}

/-! ## The settings one by one -/

theorem url_eq_ok_iff : s.url urls = .ok url ↔
    ∃ raw, s.apiUrl = some raw ∧ urls.read raw = .ok url ∧
    (url.scheme = "http" ∨ url.scheme = "https") := by
  rw [Settings.url]
  cases given : s.apiUrl with
  | none => simp
  | some raw =>
    cases parsed : urls.read raw with
    | error fault => simp [parsed]
    | ok url' =>
      by_cases web : url'.isWeb = true
      · simp only [web, if_true, Except.ok.injEq, Option.some.injEq, exists_eq_left', parsed]
        constructor
        · rintro rfl
          exact ⟨rfl, Url.isWeb_iff.1 web⟩
        · exact fun h => h.1
      · simp only [web, Option.some.injEq, exists_eq_left', parsed, Except.ok.injEq]
        constructor
        · intro h
          cases h
        · rintro ⟨rfl, h⟩
          exact absurd (Url.isWeb_iff.2 h) web

theorem account_eq_ok_iff {name : String} :
    s.account = .ok name ↔ s.username = some name ∧ name ≠ "" := by
  rw [account]
  cases given : s.username with
  | none => simp
  | some name' =>
    simp only [beq_iff_eq, Option.some.injEq]
    split
    · next empty => simp [empty, eq_comm]
    · next empty =>
      rw [Except.ok.injEq]
      constructor
      · rintro rfl
        exact ⟨rfl, empty⟩
      · exact fun h => h.1

theorem passwordOf_eq_ok_iff {password : String} :
    s.passwordOf = .ok password ↔ s.password = some password := by
  rw [passwordOf]
  cases s.password <;> simp

/-! ## All of them -/

theorem test_eq_ok_iff : s.test urls requirement = .ok () ↔ s.Meets urls requirement := by
  cases requirement with
  | url =>
    rw [test, map_eq_ok_iff, Meets, exists_comm]
    simp only [url_eq_ok_iff, and_true]
  | account =>
    rw [test, map_eq_ok_iff, Meets]
    simp only [account_eq_ok_iff, and_true]
  | password =>
    rw [test, map_eq_ok_iff, Meets]
    simp only [passwordOf_eq_ok_iff, and_true]
  | site =>
    rw [test, Meets, Site.IsName]
    cases Site.fault? s.site <;> simp
  | time =>
    rw [test, Meets]
    split
    · refine iff_of_false (fun h => ?_) (by omega)
      cases h
    · exact iff_of_true rfl (by omega)

theorem reports_of_url (h : s.url urls = .error fault) : s.Reports urls .url fault := by
  rw [Settings.url] at h
  cases given : s.apiUrl with
  | none =>
    rw [given] at h
    cases h
    exact .noUrl given
  | some raw =>
    rw [given] at h
    cases parsed : urls.read raw with
    | error bad =>
      simp only [parsed] at h
      cases h
      exact .badUrl given parsed
    | ok url =>
      simp only [parsed] at h
      split at h <;> cases h
      next foreign => exact .notWeb given parsed (not_or.1 (mt Url.isWeb_iff.2 foreign))

theorem reports_of_test (h : s.test urls requirement = .error fault) :
    s.Reports urls requirement fault := by
  cases requirement with
  | url => exact reports_of_url (map_eq_error_iff.1 h)
  | account =>
    have h := map_eq_error_iff.1 h
    rw [account] at h
    split at h
    · cases h
      exact .account
    · split at h <;> cases h
      exact .account
  | password =>
    have h := map_eq_error_iff.1 h
    rw [passwordOf] at h
    split at h <;> cases h
    exact .password
  | site =>
    rw [test] at h
    split at h <;> cases h
    exact .site (by assumption)
  | time =>
    rw [test] at h
    split at h <;> cases h
    exact .time

theorem Reports.unique {fault' : SettingsFault} (h : s.Reports urls requirement fault)
    (h' : s.Reports urls requirement fault') : fault = fault' := by
  cases h with
  | noUrl missing =>
    cases h' with
    | noUrl => rfl
    | badUrl given | notWeb given => cases missing.symm.trans given
  | badUrl given bad =>
    cases h' with
    | noUrl missing => cases missing.symm.trans given
    | badUrl given' bad' =>
      cases given.symm.trans given'
      cases bad.symm.trans bad'
      rfl
    | notWeb given' parsed =>
      cases given.symm.trans given'
      cases bad.symm.trans parsed
  | notWeb given parsed =>
    cases h' with
    | noUrl missing => cases missing.symm.trans given
    | badUrl given' bad =>
      cases given.symm.trans given'
      cases bad.symm.trans parsed
    | notWeb given' =>
      cases given.symm.trans given'
      rfl
  | site wrong =>
    cases h' with
    | site wrong' =>
      cases wrong.symm.trans wrong'
      rfl
  | account | password | time =>
    cases h'
    rfl

theorem decides_test (urls : UrlReader) (s : Settings) :
    Decides (s.test urls) (s.Meets urls) (s.Reports urls) :=
  ⟨fun _ => test_eq_ok_iff, reports_of_test, Reports.unique⟩

/-- But for the result, the settings are checked as one requirement after the other. -/
theorem map_check (urls : UrlReader) (s : Settings) :
    (s.check urls).map (fun _ => ()) = forM Requirement.order (s.test urls) := by
  simp only [Requirement.order, List.forM_cons, List.forM_nil, test, check]
  cases s.url urls with
  | error fault => rfl
  | ok url =>
    cases s.account with
    | error fault => rfl
    | ok username =>
      cases s.passwordOf with
      | error fault => rfl
      | ok password =>
        cases Site.fault? s.site with
        | some fault => rfl
        | none =>
          by_cases time : s.timeout = 0
          · simp only [if_pos time]
            rfl
          · simp only [if_neg time]
            rfl

theorem Requirement.mem_order (requirement : Requirement) : requirement ∈ order := by
  cases requirement <;> simp [order]

theorem exists_check_iff : (∃ config, s.check urls = .ok config) ↔
    ∀ requirement, s.Meets urls requirement := by
  have passed : (∃ config, s.check urls = .ok config) ↔
      forM Requirement.order (s.test urls) = .ok () := by
    rw [← map_check, map_eq_ok_iff]
    simp only [and_true]
  rw [passed, (s.decides_test urls).forM_eq_ok_iff_forall Requirement.mem_order]

theorem check_eq_error_iff : s.check urls = .error fault ↔
    ∃ requirement, FirstUnmet (s.Meets urls) Requirement.order requirement ∧
    s.Reports urls requirement fault := by
  rw [← (s.decides_test urls).forM_eq_error_iff, ← map_check, map_eq_error_iff]

/-! ## What is made of them -/

/-- Settings can be used if each of the five checks is passed. -/
theorem check_eq_ok_iff :
    s.check urls = .ok config ↔ ∃ url username password,
    s.url urls = .ok url ∧ s.account = .ok username ∧
      s.passwordOf = .ok password ∧ Site.IsName s.site ∧ s.timeout ≠ 0 ∧
        config = ⟨url, username, password, s.site, s.trust, s.timeout⟩ := by
  rw [check]
  constructor
  · intro h
    obtain ⟨url, hurl, h⟩ := bind_eq_ok_iff.1 h
    obtain ⟨username, haccount, h⟩ := bind_eq_ok_iff.1 h
    obtain ⟨password, hpassword, h⟩ := bind_eq_ok_iff.1 h
    cases wrong : Site.fault? s.site with
    | some fault =>
      simp only [wrong] at h
      cases h
    | none =>
      simp only [wrong] at h
      by_cases noTime : s.timeout = 0
      · rw [if_pos noTime] at h
        cases h
      · rw [if_neg noTime] at h
        cases h
        exact ⟨url, username, password, hurl, haccount, hpassword, wrong, noTime, rfl⟩
  · rintro ⟨url, username, password, hurl, haccount, hpassword, named, time, rfl⟩
    have fault : Site.fault? s.site = none := named
    rw [hurl, haccount, hpassword]
    simp only [fault, if_neg time]
    rfl

theorem url_of_check (h : s.check urls = .ok config) : s.url urls = .ok config.url := by
  obtain ⟨url, -, -, hurl, -, -, -, -, rfl⟩ := check_eq_ok_iff.1 h
  exact hurl

theorem isName_of_check (h : s.check urls = .ok config) : Site.IsName config.site := by
  obtain ⟨-, -, -, -, -, -, named, -, rfl⟩ := check_eq_ok_iff.1 h
  exact named

theorem exists_parse_of_check (h : s.check urls = .ok config) :
    ∃ raw, s.apiUrl = some raw ∧ urls.read raw = .ok config.url ∧ config.url.isWeb = true := by
  obtain ⟨raw, given, parsed, web⟩ := url_eq_ok_iff.1 (url_of_check h)
  exact ⟨raw, given, parsed, Url.isWeb_iff.2 web⟩

/-- All that is addressed in a session has a URL. -/
theorem exists_url_of_check (h : s.check urls = .ok config) (platform : Platform)
    {f : Endpoint.Function} (own : ∀ site, f.site? = some site → site = config.site) :
    ∃ url, f.url config.url platform = .ok url := by
  obtain ⟨raw, -, parsed, web⟩ := exists_parse_of_check h
  obtain ⟨front, hpath, -⟩ := urls.segments_of_web parsed web
  refine ⟨_, f.url_eq hpath fun site hsite => ?_⟩
  rw [own site hsite]
  exact isName_of_check h

/-- **Which settings can be used.**

* Settings can be used if they meet all requirements. What text is the URL of which host is for the
  reader of URLs to say.
* If they do not, the first is reported that they do not meet.
* If they do, what they say is taken over as it is, with the URL that the text of the address means.
  Who is trusted is anyone if it says so, else the authority that is named, and else those that the
  machine trusts.
* On either platform, the login, the logout, the list of rules of the site and the command for it
  have URLs. -/
theorem settings_checked (urls : UrlReader) (s : Settings) :
    ((∃ config, s.check urls = .ok config) ↔ ∀ requirement, s.Meets urls requirement) ∧
    (∀ fault, s.check urls = .error fault ↔
      ∃ requirement, FirstUnmet (s.Meets urls) Requirement.order requirement ∧
      s.Reports urls requirement fault) ∧
    ∀ config, s.check urls = .ok config →
      (∃ raw, s.apiUrl = some raw ∧ urls.read raw = .ok config.url) ∧
      s.username = some config.username ∧ s.password = some config.password ∧ config.site = s.site ∧
      config.timeout = s.timeout ∧
      config.trust = (if s.insecure then .anyone else s.caCert.elim .system .authority) ∧
      ∀ platform,
      ∀ f ∈ [Endpoint.Function.login, .logout, .rules config.site, .command config.site],
        ∃ url, f.url config.url platform = .ok url := by
  refine ⟨exists_check_iff, fun fault => check_eq_error_iff, ?_⟩
  intro config h
  obtain ⟨raw, given, parsed, -⟩ := exists_parse_of_check h
  have addressed := exists_url_of_check h
  obtain ⟨url, username, password, -, haccount, hpassword, -, -, rfl⟩ := check_eq_ok_iff.1 h
  refine ⟨⟨raw, given, parsed⟩, (account_eq_ok_iff.1 haccount).1, passwordOf_eq_ok_iff.1 hpassword,
    rfl, rfl, ?_, ?_⟩
  · rw [trust]
    cases s.caCert <;> rfl
  · intro platform f hf
    refine addressed platform fun site hsite => ?_
    simp only [List.mem_cons, List.not_mem_nil, or_false] at hf
    rcases hf with rfl | rfl | rfl | rfl <;> cases hsite
    · rfl
    · rfl

/-- Names in ASCII, and one outside it that a reader was taught. -/
def taughtNames : Url.HostNames where
  ascii? := fun cs =>
    if cs = "münchen.example".toList then some "xn--mnchen-3ya.example".toList
    else Url.HostNames.plain.ascii? cs

/-- With all that is needed the URLs can be built; without a name, and with no time, the name is
asked for. -/
theorem settings_checked_device :
    let urls : UrlReader := .ofNames taughtNames
    let s : Settings :=
      ⟨some "https://münchen.example:8443/net", some "admin", some "", "default", false,
        some "ca.pem", 30⟩
    let nameless : Settings := ⟨some "https://10.0.0.1", some "", none, "default", true, none, 0⟩
    (∀ requirement, s.Meets urls requirement) ∧
      (∃ config, s.check urls = .ok config ∧
        config.url.host = some (.name "xn--mnchen-3ya.example") ∧
        config.trust = .authority "ca.pem" ∧
        ∃ url, (Endpoint.Function.rules config.site).url config.url .unifiOs = .ok url) ∧
      nameless.check urls = .error (.missing .username) := by
  intro urls s nameless
  obtain ⟨usable, -, taken⟩ := settings_checked urls s
  obtain ⟨-, failed, -⟩ := settings_checked urls nameless
  have read : urls.read "https://münchen.example:8443/net" = .ok
      ⟨"https", "", "", some (.name "xn--mnchen-3ya.example"), some 8443, .segments ["net"], none,
        none⟩ := by
    rfl
  have meets : ∀ requirement, s.Meets urls requirement := by
    intro requirement
    cases requirement with
    | url => exact ⟨_, _, rfl, read, .inr rfl⟩
    | account => exact ⟨"admin", rfl, by decide⟩
    | password => exact ⟨"", rfl⟩
    | site => exact show Site.IsName "default" by decide
    | time => exact show 0 < 30 by decide
  obtain ⟨config, h⟩ := usable.2 meets
  obtain ⟨⟨raw, given, parsed⟩, -, -, -, -, trusted, addressed⟩ := taken config h
  have host : config.url.host = some (.name "xn--mnchen-3ya.example") := by
    cases given
    exact congrArg Url.host (Except.ok.inj (parsed.symm.trans read))
  have named : ∃ raw url, nameless.apiUrl = some raw ∧ urls.read raw = .ok url ∧
      (url.scheme = "http" ∨ url.scheme = "https") := ⟨_, _, rfl, rfl, .inr rfl⟩
  have first : FirstUnmet (nameless.Meets urls) Requirement.order .account := by
    refine ⟨[.url], [.password, .site, .time], rfl, List.forall_mem_singleton.2 named, ?_⟩
    rintro ⟨name, given, nonempty⟩
    cases given
    exact nonempty rfl
  exact ⟨meets, ⟨config, h, host, trusted, addressed .unifiOs _ (by simp)⟩,
    (failed _).2 ⟨_, first, .account⟩⟩

end Settings

end FirewallOrder
