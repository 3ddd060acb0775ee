import FirewallOrder.Proofs.Controller.Endpoint
import FirewallOrder.Proofs.Ruleset.Name
import FirewallOrder.Proofs.Url.Path

/-!
# The functions of a controller

A client asks for four functions of a controller: login, logout, the rules of a site, and the
commands of a site. Below a URL of the web all four have a URL (`Endpoint.Function.url_eq`), and a
site whose name passes the check of names (`Site.IsName`) is read back from its segment as it is:
nothing of such a name is read over, and it is no dot segment. So the two checks that a site goes
through, of its name and of its segment, fit together (`Endpoint.url_of_named`).
-/

namespace FirewallOrder

open Text Url

/-! ## Names of sites -/

namespace Site.IsName

variable {site : String}

/-- Nothing of a name is read over. -/
theorem effective_eq (named : IsName site) : effective site = site := by
  have kept : site.toList.filter (fun c => !isIgnored c) = site.toList := by
    rw [List.filter_eq_self]
    intro c hc
    have := named.not_blank c hc
    cases hignored : isIgnored c with
    | false => rfl
    | true => rw [isBlank_of_isIgnored hignored] at this; cases this
  rw [effective, kept, String.ofList_toList]

theorem isNoSite_eq (named : IsName site) : Endpoint.isNoSite site = false := by
  have trimmed : trim site = site := by
    rw [trim, trimChars_of_tight (tight_of_not_blank named.not_blank), String.ofList_toList]
  simp [Endpoint.isNoSite, trimmed, named.nonempty, named.noDot, named.noDots]

theorem isSegment (named : IsName site) (special : Bool) :
    IsSegment (segmentText special site) := by
  apply isSegment_segmentText <;> rw [named.effective_eq]
  exacts [named.nonempty, named.noDot, named.noDots]

theorem unescape?_eq (named : IsName site) (special : Bool) :
    unescape? (segmentText special site).toList = some site := by
  rw [unescape?_segmentText, named.effective_eq]

end Site.IsName

namespace Endpoint

/-! ## Paths -/

theorem withoutSlash_concat {front : List String} (nonempty : front ≠ []) :
    withoutSlash (front ++ [""]) = front := by
  have long : 1 < (front ++ [""]).length := by
    have := List.length_pos_iff.2 nonempty
    simp
    omega
  rw [withoutSlash, if_pos ⟨long, List.getLast?_concat⟩, List.dropLast_concat]

theorem withoutSlash_of_last {front : List String} (h : front.getLast? ≠ some "") :
    withoutSlash front = front :=
  if_neg fun ends => h ends.2

theorem trunk_concat {front : List String} (h : front.getLast? ≠ some "") :
    trunk (front ++ [""]) = trunk front := by
  by_cases nonempty : front = []
  · subst nonempty
    rfl
  · rw [trunk, trunk, withoutSlash_concat nonempty, withoutSlash_of_last h]

/-- A path less the slash at its end is how the paths below it begin. -/
theorem lessSlash_isPrefix_below (front : List String) {segments : List String}
    (nonempty : segments ≠ []) : lessSlash (Url.pathText (.segments front)) <+:
      (Url.pathText (.segments (trunk front ++ segments))).toList := by
  -- A mere slash has no segment of its own, but whatever stands below it begins with a slash.
  have below_root : ∀ path, (Url.pathText (.segments path)).toList <+:
      (Url.pathText (.segments (root path ++ segments))).toList := by
    intro path
    rw [root]
    split
    · rename_i hpath
      obtain ⟨s, rest, rfl⟩ := List.exists_cons_of_ne_nil nonempty
      simp [hpath, toList_pathText]
    · rw [pathText_append, String.toList_append]
      exact List.prefix_append _ _
  by_cases ends : front.getLast? = some ""
  · obtain ⟨path, rfl⟩ := List.getLast?_eq_some_iff.1 ends
    have slash : Url.pathText (.segments [""]) = "/" := by decide
    rw [pathText_append, slash, lessSlash_append_slash]
    by_cases hpath : path = []
    · subst hpath
      exact List.nil_prefix
    · rw [trunk, withoutSlash_concat hpath]
      exact below_root _
  · rw [trunk, withoutSlash_of_last ends]
    exact (lessSlash_isPrefix _).trans (below_root front)

/-! ## Functions -/

/-- What a client asks a controller for. -/
inductive Function
  | login
  | logout
  | rules (site : String)
  | command (site : String)
  deriving DecidableEq, Repr

namespace Function

/-- The URL under which a client asks for it. -/
def url (base : Url) (platform : Platform) : Function → Except ControllerError Url
  | login => below base platform.loginPath
  | logout => below base platform.logoutPath
  | rules site => ofSite base platform site rulesPath
  | command site => ofSite base platform site commandPath

def site? : Function → Option String
  | login | logout => none
  | rules site | command site => some site

/-- The last segment of its URL. -/
def word : Function → String
  | login => "login"
  | logout => "logout"
  | rules _ => "firewallrule"
  | command _ => "firewall"

/-- Its path below that of the controller. -/
def segments (special : Bool) (platform : Platform) : Function → List String
  | login => platform.loginPath
  | logout => platform.logoutPath
  | rules site => platform.sitePrefix ++ ["api", "s", segmentText special site] ++ rulesPath
  | command site => platform.sitePrefix ++ ["api", "s", segmentText special site] ++ commandPath

variable {base : Url} {platform : Platform} {front : List String}

theorem segments_ne_nil (f : Function) (special : Bool) (platform : Platform) :
    f.segments special platform ≠ [] := by
  cases f <;> cases platform <;> simp [segments, Platform.loginPath, Platform.logoutPath]

theorem below_eq (hpath : base.path = .segments front) {segments : List String}
    (nonempty : segments ≠ [])
    (plain : ∀ s ∈ segments, ∀ special, segmentText special s = s ∧ IsSegment s) :
    below base segments = .ok { base with path := .segments (trunk front ++ segments) } := by
  simp only [below, hpath]
  rw [pushSegments_eq nonempty fun s hs => plain s hs base.isSpecial, trunk]

theorem ofSite_eq (hpath : base.path = .segments front) {site : String} (named : Site.IsName site)
    {path : List String} (function : path = rulesPath ∨ path = commandPath) :
    ofSite base platform site path = .ok { base with
      path := .segments
        (trunk front ++
          (platform.sitePrefix ++ ["api", "s", segmentText base.isSpecial site] ++ path)) } := by
  refine ofSite_eq_ok_iff.2 ⟨named.isNoSite_eq, front, hpath, ?_⟩
  rw [pushSegments_site front platform function (named.isSegment _)]
  simp

/-- **Every function has a URL**, below the path of the controller. -/
theorem url_eq (hpath : base.path = .segments front) (f : Function)
    (named : ∀ site, f.site? = some site → Site.IsName site) :
    f.url base platform =
      .ok { base with path := .segments (trunk front ++ f.segments base.isSpecial platform) } := by
  have plain : ∀ s ∈ ["api", "auth", "login", "logout"], ∀ special, segmentText special s = s ∧
      IsSegment s := by
    decide
  cases f with
  | login =>
    refine below_eq hpath (by cases platform <;> decide) fun s hs => plain s ?_
    revert s
    cases platform <;> decide
  | logout =>
    refine below_eq hpath (by cases platform <;> decide) fun s hs => plain s ?_
    revert s
    cases platform <;> decide
  | rules site => exact ofSite_eq hpath (named site rfl) (.inl rfl)
  | command site => exact ofSite_eq hpath (named site rfl) (.inr rfl)

/-- The site of a function stands third from the end of its path. -/
theorem segments_of_site {f : Function} {site : String} (h : f.site? = some site) (special : Bool)
    (platform : Platform) : ∃ path : List String, path.length = 2 ∧
      f.segments special platform = platform.sitePrefix ++ ["api", "s"] ++
        segmentText special site :: path := by
  cases f with
  | login | logout => cases h
  | rules _ =>
    cases h
    exact ⟨rulesPath, rfl, by simp [segments]⟩
  | command _ =>
    cases h
    exact ⟨commandPath, rfl, by simp [segments]⟩

theorem exists_segments_of_url {f : Function} {url : Url} (h : f.url base platform = .ok url) :
    ∃ front, base.path = .segments front := by
  have below_ok : ∀ {segments}, below base segments = .ok url →
      ∃ front, base.path = .segments front := by
    intro segments h
    rw [below] at h
    split at h
    · cases h
    · exact ⟨_, ‹_›⟩
  cases f with
  | login | logout => exact below_ok h
  | rules site | command site =>
    obtain ⟨-, front, hfront, -⟩ := ofSite_eq_ok_iff.1 h
    exact ⟨front, hfront⟩

theorem last_of_url {f : Function} {url : Url} (h : f.url base platform = .ok url) :
    ∃ front, url.path = .segments (front ++ [f.word]) := by
  obtain ⟨front, hpath⟩ := exists_segments_of_url h
  have plain (noSite : f.site? = none) :
      url.path = .segments (trunk front ++ f.segments base.isSpecial platform) := by
    rw [f.url_eq hpath (by simp [noSite]), Except.ok.injEq] at h
    rw [← h]
  cases f with
  | login | logout =>
    rw [plain rfl]
    cases platform with
    | unifiOs => exact ⟨trunk front ++ ["api", "auth"], by rw [List.append_assoc]; rfl⟩
    | classic => exact ⟨trunk front ++ ["api"], by rw [List.append_assoc]; rfl⟩
  | rules site =>
    obtain ⟨-, front, -, rfl⟩ := ofSite_eq_ok_iff.1 h
    rw [pushSegments_around _ front platform (.inl rfl)]
    exact ⟨_ ++ ["rest"],
      congrArg UrlPath.segments (List.append_assoc _ ["rest"] ["firewallrule"]).symm⟩
  | command site =>
    obtain ⟨-, front, -, rfl⟩ := ofSite_eq_ok_iff.1 h
    rw [pushSegments_around _ front platform (.inr rfl)]
    exact ⟨_ ++ ["cmd"], congrArg UrlPath.segments (List.append_assoc _ ["cmd"] ["firewall"]).symm⟩

/-- It is looked for on the machine of the controller. -/
theorem scheme_of_url {f : Function} {url : Url} (h : f.url base platform = .ok url) :
    url.scheme = base.scheme := by
  have below_ok : ∀ {segments}, below base segments = .ok url → url.scheme = base.scheme := by
    intro segments h
    rw [below] at h
    split at h
    · cases h
    · cases h
      rfl
  cases f with
  | login | logout => exact below_ok h
  | rules site | command site =>
    obtain ⟨-, front, -, rfl⟩ := ofSite_eq_ok_iff.1 h
    rfl

/-- One more slash behind the path of a controller makes no difference. -/
theorem url_path_of_slash {base' : Url} (hpath : base.path = .segments front)
    (hpath' : base'.path = .segments (front ++ [""])) (special : base'.isSpecial = base.isSpecial)
    (last : front.getLast? ≠ some "") (f : Function)
    (named : ∀ site, f.site? = some site → Site.IsName site) :
    (f.url base' platform).map Url.path = (f.url base platform).map Url.path := by
  rw [f.url_eq hpath named, f.url_eq hpath' named, special, trunk_concat last]
  rfl

/-- No two sites have one URL. -/
theorem site_eq_of_url_eq {base' url : Url} {platform' : Platform} {f g : Function}
    {site site' : String} (named : Site.IsName site) (named' : Site.IsName site')
    (hsite : f.site? = some site) (hsite' : g.site? = some site')
    (h : f.url base platform = .ok url) (h' : g.url base' platform' = .ok url) : site' = site := by
  obtain ⟨front, hpath⟩ := exists_segments_of_url h
  obtain ⟨front', hpath'⟩ := exists_segments_of_url h'
  rw [f.url_eq hpath (by simpa [hsite] using named), Except.ok.injEq] at h
  rw [g.url_eq hpath' (by simpa [hsite'] using named'), Except.ok.injEq, ← h] at h'
  have paths := UrlPath.segments.inj (congrArg Url.path h')
  obtain ⟨path, two, hsegments⟩ := segments_of_site hsite base.isSpecial platform
  obtain ⟨path', two', hsegments'⟩ := segments_of_site hsite' base'.isSpecial platform'
  rw [hsegments, hsegments', ← List.append_assoc (trunk front'),
    ← List.append_assoc (trunk front)] at paths
  -- Both sites stand third from the end, so the segments in that place are the same.
  have tails := (List.append_inj' paths (by simp [two, two'])).2
  have reads := named'.unescape?_eq base'.isSpecial
  rw [(List.cons.inj tails).1, named.unescape?_eq] at reads
  exact (Option.some.inj reads).symm

end Function

/-- **A site is read back from its URL.** Below every URL of the web, on either platform:

* every function has a URL if the site has the name of one;
* the URL differs from the controller's own in its path only;
* its path begins with the controller's path less one slash at the end, so it is the same whether or
  not the controller's path ends in one more slash;
* the one segment of the site, with its escapes read, is the site, and no other site has this URL,
  whatever the function, the platform and the controller. -/
theorem url_of_named {reader : UrlReader} {text : String} {base : Url}
    (parsed : reader.read text = .ok base) (web : base.isWeb = true) (platform : Platform)
    (f : Function) (named : ∀ site, f.site? = some site → Site.IsName site) :
    ∃ url, f.url base platform = .ok url ∧
      (url.scheme = base.scheme ∧ url.user = base.user ∧ url.password = base.password ∧
        url.host = base.host ∧ url.port = base.port ∧ url.query = base.query ∧
        url.fragment = base.fragment) ∧
      lessSlash (Url.pathText base.path) <+: (Url.pathText url.path).toList ∧
      (∀ (reader' : UrlReader) text' base', reader'.read text' = .ok base' → base'.isWeb = true →
        ¬ EndsInSlash (Url.pathText base.path) →
        Url.pathText base'.path = Url.pathText base.path ++ "/" →
        ∃ url', f.url base' platform = .ok url' ∧ url'.path = url.path) ∧
      (∀ site, f.site? = some site → ∃ front segment path, base.path = .segments front ∧
        url.path = .segments (trunk front ++ platform.sitePrefix ++ ["api", "s", segment] ++ path) ∧
        path.length = 2 ∧ unescape? segment.toList = some site) ∧
      ∀ base' platform' (g : Function) site site', Site.IsName site' → f.site? = some site →
        g.site? = some site' → g.url base' platform' = .ok url → site' = site := by
  obtain ⟨front, hpath, noSlash⟩ := reader.segments_of_web parsed web
  have hurl : f.url base platform = .ok _ := f.url_eq hpath named
  refine ⟨_, hurl, ⟨rfl, rfl, rfl, rfl, rfl, rfl, rfl⟩, ?_, ?_, ?_, ?_⟩
  · rw [hpath]
    exact lessSlash_isPrefix_below front (f.segments_ne_nil _ _)
  · intro reader' text' base' parsed' web' noEnd slash
    obtain ⟨front', hpath', noSlash'⟩ := reader'.segments_of_web parsed' web'
    rw [hpath, hpath'] at slash
    rw [hpath] at noEnd
    have written : Url.pathText (.segments (front ++ [""])) =
        Url.pathText (.segments front) ++ "/" :=
      pathText_append _ _
    obtain rfl : front' = front ++ [""] := by
      refine segments_injective noSlash' ?_ (slash.trans written.symm)
      simpa [or_imp, forall_and] using noSlash
    have special : base'.isSpecial = base.isSpecial :=
      (isSpecial_of_isWeb web').trans (isSpecial_of_isWeb web).symm
    have same : (f.url base' platform).map Url.path = (f.url base platform).map Url.path :=
      f.url_path_of_slash hpath hpath' special (fun last => noEnd (endsInSlash_of_last last)) named
    rw [hurl, f.url_eq hpath' named] at same
    exact ⟨_, f.url_eq hpath' named, Except.ok.inj same⟩
  · intro site hsite
    obtain ⟨path, two, hsegments⟩ := Function.segments_of_site hsite base.isSpecial platform
    refine ⟨front, _, path, hpath, ?_, two, (named site hsite).unescape?_eq base.isSpecial⟩
    rw [hsegments]
    simp
  · intro base' platform' g site site' named' hsite hsite' same
    exact Function.site_eq_of_url_eq (named site hsite) named' hsite hsite' hurl same

theorem url_of_named_accented :
    ∃ url segment path, (UrlReader.ofNames .plain).read "http://10.0.0.1/net/" =
      .ok (ofDevice ["net", ""]) ∧ Site.IsName "Büro\x7b2\x7d" ∧
      (Function.rules "Büro\x7b2\x7d").url (ofDevice ["net", ""]) .unifiOs = .ok url ∧
      url.path = .segments (["net", "proxy", "network", "api", "s", segment] ++ path) ∧
      unescape? segment.toList = some "Büro\x7b2\x7d" := by
  have parsed : (UrlReader.ofNames .plain).read "http://10.0.0.1/net/" =
      .ok (ofDevice ["net", ""]) := by rfl
  have named : Site.IsName "Büro\x7b2\x7d" := by decide
  obtain ⟨url, hurl, -, -, -, decoded, -⟩ :=
    url_of_named parsed rfl .unifiOs (.rules "Büro\x7b2\x7d") fun site h =>
    Option.some.inj h ▸ named
  obtain ⟨front, segment, path, hfront, hpath, -, reads⟩ := decoded _ rfl
  obtain rfl := UrlPath.segments.inj hfront
  exact ⟨url, segment, path, parsed, named, hurl, hpath, reads⟩

end Endpoint

end FirewallOrder
