import FirewallOrder.Controller.Endpoint
import FirewallOrder.Url.Reader
import FirewallOrder.Proofs.Text.Trim
import FirewallOrder.Proofs.Url.Segments

/-!
# Which endpoint a site addresses

The function of a site stands below the controller's own path, with the site as one segment. A site
that is refused could not be a segment: nothing is left of it, or a dot or two, when the blanks
around it are taken away. Of the others, all are one segment, whatever characters they hold, save
those in which two dots are kept apart only by characters that a URL reads over, such as `.\t.`
(`Endpoint.addressesSite_iff`): there two dots are written, and they take the segment before them
away.
-/

namespace FirewallOrder

open Text Url

theorem isBlank_of_isIgnored {c : Char} (h : isIgnored c = true) : isBlank c = true := by
  simp only [isIgnored, Bool.or_eq_true, beq_iff_eq] at h
  rcases h with (rfl | rfl) | rfl <;> decide

namespace Endpoint

/-- Something is left of a site that is not refused, and more than one dot. -/
theorem effective_of_isNoSite {site : String} (h : isNoSite site = false) :
    effective site ≠ "" ∧ effective site ≠ "." := by
  have ignored {cs : List Char} (none : cs.filter (fun c => !isIgnored c) = []) :
      ∀ c ∈ cs, isBlank c = true := by
    intro c hc
    have hread := List.filter_eq_nil_iff.1 none c hc
    exact isBlank_of_isIgnored (by simpa using hread)
  constructor
  · intro none
    have hchars : site.toList.filter (fun c => !isIgnored c) = [] := String.ofList_injective none
    have htrim : trim site = "" := isBlankText_iff.1 (List.all_eq_true.2 (ignored hchars))
    rw [isNoSite, htrim] at h
    exact absurd h (by decide)
  · intro dot
    have hchars : site.toList.filter (fun c => !isIgnored c) = ['.'] := String.ofList_injective dot
    obtain ⟨before, after, hsite, hbefore, -, hafter⟩ := List.filter_eq_cons_iff.1 hchars
    have blank : ∀ c ∈ before ++ after, isBlank c = true := by
      refine List.forall_mem_append.2 ⟨fun c hc => ?_, ignored hafter⟩
      exact isBlank_of_isIgnored (by simpa using hbefore c hc)
    have htrim : trim site = "." :=
      trim_eq_iff.2 ⟨before, after, by simpa using hsite, blank, tight_singleton rfl⟩
    rw [isNoSite, htrim] at h
    exact absurd h (by decide)

/-! ## The path of an endpoint -/

/-- The segments of a path without one slash at its end: of a mere slash, none. -/
def trunk (path : List String) : List String := root (withoutSlash path)

/-- The path of a URL is that of the controller without one slash at its end, then the platform's,
then `api`, `s` and one segment for the site, and then the path of a function. If a mere slash is
left of the controller's path, no segment stands for it. -/
def AddressesSite (base : Url) (platform : Platform) (path : List String) (url : Url) : Prop :=
  ∃ front segment, base.path = .segments front ∧ IsSegment segment ∧
    url.path = .segments (trunk front ++ platform.sitePrefix ++ ["api", "s", segment] ++ path)

theorem plain_segments :
    ∀ s ∈ ["proxy", "network", "api", "s", "rest", "firewallrule", "cmd", "firewall"],
    ∀ special, segmentText special s = s ∧ IsSegment s := by
  decide

theorem plain_sitePrefix (platform : Platform) :
    ∀ s ∈ platform.sitePrefix ++ ["api", "s"], ∀ special, segmentText special s = s ∧
    IsSegment s := by
  intro s hs
  refine plain_segments s ?_
  revert s
  cases platform <;> decide

theorem plain_path {path : List String} (function : path = rulesPath ∨ path = commandPath) :
    path ≠ [] ∧ ∀ s ∈ path, ∀ special, segmentText special s = s ∧ IsSegment s := by
  rcases function with rfl | rfl
  · exact ⟨by decide, fun s hs => plain_segments s (by revert s; decide)⟩
  · exact ⟨by decide, fun s hs => plain_segments s (by revert s; decide)⟩

variable {base url : Url} {platform : Platform} {site : String} {path : List String}

theorem ofSite_eq_ok_iff :
    ofSite base platform site path = .ok url ↔
      isNoSite site = false ∧ ∃ front, base.path = .segments front ∧
        url = { base with
          path := .segments (pushSegments base.isSpecial (withoutSlash front)
            ((platform.sitePrefix ++ ["api", "s"]) ++ site :: path)) } := by
  have segments : platform.sitePrefix ++ ["api", "s", site] ++ path =
      (platform.sitePrefix ++ ["api", "s"]) ++ site :: path := by simp
  rw [ofSite, below, segments]
  cases hsite : isNoSite site with
  | true => simp
  | false =>
    cases hpath : base.path with
    | text s => simp
    | segments front => simp [eq_comm]

/-- All but the site is put behind the path as it is. -/
theorem pushSegments_around (special : Bool) (front : List String) (platform : Platform)
    (function : path = rulesPath ∨ path = commandPath) :
    pushSegments special (withoutSlash front)
      ((platform.sitePrefix ++ ["api", "s"]) ++ site :: path) =
      root (pushSegment special (trunk front ++ platform.sitePrefix ++ ["api"] ++ ["s"]) site) ++
        path := by
  obtain ⟨some, plain⟩ := plain_path function
  have before : pushSegments special (withoutSlash front) (platform.sitePrefix ++ ["api", "s"]) =
      trunk front ++ platform.sitePrefix ++ ["api"] ++ ["s"] := by
    rw [pushSegments_eq (by simp) fun s hs => plain_sitePrefix platform s hs special, trunk]
    simp
  calc pushSegments special (withoutSlash front)
        ((platform.sitePrefix ++ ["api", "s"]) ++ site :: path)
      = pushSegments special
          (pushSegment special (trunk front ++ platform.sitePrefix ++ ["api"] ++ ["s"]) site)
            path := by
        rw [pushSegments_append, before]
        rfl
    _ = root (pushSegment special (trunk front ++ platform.sitePrefix ++ ["api"] ++ ["s"]) site) ++
        path :=
        pushSegments_eq some fun s hs => plain s hs special

theorem pushSegments_site {special : Bool} (front : List String) (platform : Platform)
    (function : path = rulesPath ∨ path = commandPath)
    (segment : IsSegment (segmentText special site)) :
    pushSegments special (withoutSlash front)
      ((platform.sitePrefix ++ ["api", "s"]) ++ site :: path) =
      trunk front ++ platform.sitePrefix ++ ["api", "s", segmentText special site] ++ path := by
  rw [pushSegments_around special front platform function, pushSegment_eq segment,
    root_append (.inr segment.nonempty), root_append (.inr (by decide))]
  simp

/-- Two hidden dots take the segment before them away: what was `s` ends in a slash. -/
theorem pushSegments_dots (special : Bool) (front : List String) (platform : Platform)
    (function : path = rulesPath ∨ path = commandPath) (dots : effective site = "..")
    (hidden : site ≠ "..") :
    pushSegments special (withoutSlash front)
      ((platform.sitePrefix ++ ["api", "s"]) ++ site :: path) =
      trunk front ++ platform.sitePrefix ++ ["api", ""] ++ path := by
  rw [pushSegments_around special front platform function, pushSegment_of_dots dots hidden, above,
    List.dropLast_concat, root_append (.inl (by simp))]
  simp

/-- **The endpoint of a site is below the site, whatever characters the site holds**, save where two
dots are left of it when the characters that are read over are gone. Then there is no segment for
the site, and `s` is missing too. -/
theorem addressesSite_iff (function : path = rulesPath ∨ path = commandPath)
    (built : ofSite base platform site path = .ok url) :
    (AddressesSite base platform path url ↔ effective site ≠ "..") ∧
      (effective site = ".." → ∃ front, base.path = .segments front ∧
        url.path = .segments (trunk front ++ platform.sitePrefix ++ ["api", ""] ++ path)) := by
  obtain ⟨named, front, hfront, rfl⟩ := ofSite_eq_ok_iff.1 built
  obtain ⟨nonempty, noDot⟩ := effective_of_isNoSite named
  have hidden : site ≠ ".." := by
    rintro rfl
    exact absurd named (by decide)
  have astray (dots : effective site = "..") :=
    pushSegments_dots base.isSpecial front platform function dots hidden
  refine ⟨⟨?_, fun noDots => ?_⟩,
    fun dots => ⟨front, hfront, congrArg UrlPath.segments (astray dots)⟩⟩
  · rintro ⟨front', segment, hfront', -, hpath⟩ dots
    -- The path has one segment less than it should.
    obtain rfl : front = front' := UrlPath.segments.inj (hfront.symm.trans hfront')
    have lengths := congrArg List.length (UrlPath.segments.inj hpath)
    rw [astray dots] at lengths
    simp at lengths
  · have segment : IsSegment (segmentText base.isSpecial site) :=
      isSegment_segmentText nonempty noDot noDots
    exact ⟨front, _, hfront, segment,
      congrArg UrlPath.segments (pushSegments_site front platform function segment)⟩

/-- The URL of a controller on a device of its own, with this path. -/
def ofDevice (path : List String) : Url :=
  ⟨"http", "", "", some (.ipv4 0x0a000001), none, .segments path, none, none⟩

/-- Slashes and dots inside a site do not leave its segment. -/
theorem addressesSite_iff_climbing :
    ∃ url, (UrlReader.ofNames .plain).read "http://10.0.0.1/net/" = .ok (ofDevice ["net", ""]) ∧
      ofSite (ofDevice ["net", ""]) .unifiOs "x/../../self" rulesPath = .ok url ∧
      AddressesSite (ofDevice ["net", ""]) .unifiOs rulesPath url := by
  have built : ofSite (ofDevice ["net", ""]) .unifiOs "x/../../self" rulesPath =
      .ok (ofDevice ["net", "proxy", "network", "api", "s", "x%2F..%2F..%2Fself", "rest",
        "firewallrule"]) := by
    decide
  exact ⟨_, by rfl, built, (addressesSite_iff (.inl rfl) built).1.2 (by decide)⟩

/-- A tab between two dots hides them from the check of the site, but not from the path: the rules
of no site at all are asked for. -/
theorem astray_of_hidden_dots :
    ∃ url, (UrlReader.ofNames .plain).read "http://10.0.0.1" = .ok (ofDevice [""]) ∧
      ofSite (ofDevice [""]) .classic ".\t." rulesPath = .ok url ∧
      url.text = "http://10.0.0.1/api//rest/firewallrule" ∧
      ¬ AddressesSite (ofDevice [""]) .classic rulesPath url := by
  refine ⟨ofDevice ["api", "", "rest", "firewallrule"], by rfl, by decide, by decide +kernel, ?_⟩
  rintro ⟨front, segment, hfront, -, hpath⟩
  obtain rfl := UrlPath.segments.inj hfront
  have lengths : 4 = 5 := congrArg List.length (UrlPath.segments.inj hpath)
  exact absurd lengths (by decide)

end Endpoint

end FirewallOrder
