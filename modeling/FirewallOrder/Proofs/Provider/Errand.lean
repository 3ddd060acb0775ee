import FirewallOrder.Controller.Client
import FirewallOrder.Proofs.Controller.Function
import FirewallOrder.Proofs.Dialogue.Run

/-!
# What requests are for

A client sends a request to find out the platform of a controller, to log in, to list or to reorder
the rules of a site, or to log out. Method and URL tell these errands apart
(`Request.IsFor.kind_eq`): the last segments of the URLs differ, and a probe and a login differ in
their method. So a login that was granted can be recognised among all that was sent (`grant?`), and
with it the platform that it was sent to.
-/

namespace FirewallOrder

open Dialogue Http Url

/-- A request and what it brought. -/
abbrev Exchanged : Type := Turn Request fun _ => Answer

inductive Errand
  | probe
  | login
  | list (site : String)
  | reorder (site : String)
  | logout
  deriving DecidableEq, Repr

namespace Errand

def method : Errand → Method
  | probe | list _ => .get
  | login | reorder _ | logout => .post

def function : Errand → Endpoint.Function
  | probe | login => .login
  | list site => .rules site
  | reorder site => .command site
  | logout => .logout

/-- Nobody does this without having logged in. -/
def needsSession : Errand → Bool
  | probe | login => false
  | list _ | reorder _ | logout => true

end Errand

/-- A URL of the web, with a path that others can stand below. -/
structure Url.OnWeb (u : Url) : Prop where
  web : u.isWeb = true
  segments : ∃ front, u.path = .segments front

theorem UrlReader.onWeb (reader : UrlReader) {text : String} {u : Url}
    (parsed : reader.read text = .ok u) (web : u.isWeb = true) : u.OnWeb :=
  ⟨web, (reader.segments_of_web parsed web).imp fun _ h => h.1⟩

/-- The request is sent to a controller on this platform for this errand. Credentials that stand in
the URL of the controller are not sent. -/
def Http.Request.IsFor (r : Request) (base : Url) (platform : Platform) (errand : Errand) : Prop :=
  r.method = errand.method ∧
    (errand.function.url base platform).map Url.withoutCredentials = .ok r.url

instance (r : Request) (base : Url) (platform : Platform) (errand : Errand) :
    Decidable (r.IsFor base platform errand) :=
  inferInstanceAs (Decidable (_ ∧ _))

variable {base base' : Url} {platform platform' : Platform} {errand errand' : Errand} {r : Request}

namespace Endpoint.Function

/-- Functions without a site have a URL below every URL of the web. -/
theorem exists_url (onWeb : base.OnWeb) (platform : Platform) {f : Endpoint.Function}
    (h : f.site? = none) : ∃ url, f.url base platform = .ok url ∧ url.isWeb = true := by
  obtain ⟨front, hfront⟩ := onWeb.segments
  exact ⟨_, f.url_eq hfront (by simp [h]), onWeb.web⟩

theorem url_isWeb (onWeb : base.OnWeb) {f : Endpoint.Function} {url : Url}
    (h : f.url base platform = .ok url) : url.isWeb = true := by
  rw [isWeb, scheme_of_url h]
  exact onWeb.web

end Endpoint.Function

namespace Http.Request.IsFor

theorem exists_url (h : r.IsFor base platform errand) :
    ∃ url, errand.function.url base platform = .ok url ∧ r.url = url.withoutCredentials := by
  have hurl := h.2
  cases found : errand.function.url base platform with
  | error e =>
    rw [found] at hurl
    cases hurl
  | ok url =>
    rw [found] at hurl
    exact ⟨url, rfl, (Except.ok.inj hurl).symm⟩

theorem of_url {url : Url} (found : errand.function.url base platform = .ok url)
    (hm : r.method = errand.method) (hurl : r.url = url.withoutCredentials) :
    r.IsFor base platform errand := by
  refine ⟨hm, ?_⟩
  rw [found, hurl]
  rfl

theorem last_segment (h : r.IsFor base platform errand) :
    ∃ front, r.url.path = .segments (front ++ [errand.function.word]) := by
  obtain ⟨url, found, hurl⟩ := h.exists_url
  obtain ⟨front, hfront⟩ := Endpoint.Function.last_of_url found
  exact ⟨front, by rw [hurl]; exact hfront⟩

/-- Method and last segment are those of one kind of errand only, at whatever controller. -/
theorem kind_eq (h : r.IsFor base platform errand) (h' : r.IsFor base' platform' errand') :
    errand.method = errand'.method ∧ errand.function.word = errand'.function.word := by
  refine ⟨h.1.symm.trans h'.1, ?_⟩
  obtain ⟨front, hfront⟩ := h.last_segment
  obtain ⟨front', hfront'⟩ := h'.last_segment
  have paths := UrlPath.segments.inj (hfront.symm.trans hfront')
  exact List.singleton_inj.1 (List.append_inj' paths rfl).2

theorem needsSession_eq (h : r.IsFor base platform errand) (h' : r.IsFor base platform' errand') :
    errand.needsSession = errand'.needsSession := by
  have words := (h.kind_eq h').2
  cases errand <;> cases errand' <;>
    simp_all [Errand.needsSession, Errand.function, Endpoint.Function.word]

theorem not_of_needsSession (h : r.IsFor base platform errand) (needs : errand.needsSession = true)
    (free : errand'.needsSession = false) : ¬ r.IsFor base platform' errand' := by
  intro h'
  rw [h.needsSession_eq h', free] at needs
  cases needs

/-- The paths of the two logins differ. -/
theorem platform_eq (h : r.IsFor base platform .login) (h' : r.IsFor base platform' .login) :
    platform = platform' := by
  obtain ⟨url, found, hurl⟩ := h.exists_url
  obtain ⟨url', found', hurl'⟩ := h'.exists_url
  obtain ⟨front, hfront⟩ := Endpoint.Function.exists_segments_of_url found
  have noSite : ∀ site, Errand.login.function.site? = some site → Site.IsName site := by
    simp [Errand.function, Endpoint.Function.site?]
  rw [Endpoint.Function.url_eq hfront _ noSite, Except.ok.injEq] at found found'
  have paths := congrArg Url.path (hurl.symm.trans hurl')
  rw [← found, ← found'] at paths
  have tails := List.append_cancel_left (UrlPath.segments.inj paths)
  have lengths : platform.loginPath.length = platform'.loginPath.length :=
    congrArg List.length tails
  revert lengths
  cases platform <;> cases platform' <;> decide

end Http.Request.IsFor

/-- The request is for a change, at whatever controller. -/
def Http.Request.IsChange (r : Request) :
    Prop := ∃ base platform site, r.IsFor base platform (.reorder site)

theorem Http.Request.IsFor.not_isChange (h : r.IsFor base platform errand)
    (other : ∀ site, errand ≠ .reorder site) : ¬ r.IsChange := by
  rintro ⟨base', platform', site, change⟩
  have words := (h.kind_eq change).2
  cases errand with
  | reorder site => exact other site rfl
  | _ => exact absurd words (by simp [Errand.function, Endpoint.Function.word])

/-! ## Logins -/

/-- The request is a login, on either platform. -/
def Http.Request.IsLogin (r : Request) (base : Url) : Prop :=
  r.IsFor base .unifiOs .login ∨ r.IsFor base .classic .login

instance (r : Request) (base : Url) : Decidable (r.IsLogin base) :=
  inferInstanceAs (Decidable (_ ∨ _))

theorem Http.Request.isLogin_iff : r.IsLogin base ↔ ∃ platform, r.IsFor base platform .login := by
  constructor
  · rintro (h | h)
    exacts [⟨_, h⟩, ⟨_, h⟩]
  · rintro ⟨platform, h⟩
    cases platform
    exacts [.inl h, .inr h]

/-- The platform of a login that was granted, which is one answered with a status of success. -/
def grant? (base : Url) (t : Exchanged) : Option Platform :=
  match t.answer with
  | .ok reply =>
    if reply.isSuccess then
      [Platform.unifiOs, .classic].find? fun platform => t.question.IsFor base platform .login
    else none
  | .error _ => none

/-- The platforms of all logins that were granted, in order. -/
def grants (base : Url) (turns : List Exchanged) : List Platform := turns.filterMap (grant? base)

theorem grant?_eq_some_iff {t : Exchanged} :
    grant? base t = some platform ↔
      t.question.IsFor base platform .login ∧ ∃ reply, t.answer = .ok reply ∧
      reply.isSuccess = true := by
  rw [grant?]
  cases answer : t.answer with
  | error fault => simp
  | ok reply =>
    by_cases granted : reply.isSuccess = true
    · simp only [granted, if_true]
      constructor
      · intro h
        exact ⟨by simpa using List.find?_some h, reply, rfl, granted⟩
      · rintro ⟨h, -⟩
        cases platform with
        | unifiOs => simp [h]
        | classic =>
          have other : ¬ t.question.IsFor base .unifiOs .login := fun h' => nomatch h.platform_eq h'
          simp [h, other]
    · simp [granted]

theorem isLogin_of_grant? {t : Exchanged} (h : grant? base t = some platform) :
    t.question.IsLogin base :=
  Request.isLogin_iff.2 ⟨platform, (grant?_eq_some_iff.1 h).1⟩

theorem grant?_eq_none_of_not_isLogin {t : Exchanged} (h : ¬ t.question.IsLogin base) :
    grant? base t = none := by
  cases found : grant? base t with
  | none => rfl
  | some platform => exact absurd (isLogin_of_grant? found) h

end FirewallOrder
