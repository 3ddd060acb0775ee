import FirewallOrder.Url.Basic
/-!
# Reading URLs

A text is read as a whole URL: there is no other one that it could be relative to. Blanks and
controls around it and tabs and line ends in it do not count. In a URL of a known scheme a backslash
is a slash, and any number of slashes may stand before the authority.

A URL of the web that is read has a path of segments, and none of its segments holds a slash
(`exists_segments_of_parse`). So this is a `UrlReader`, whatever the names of hosts are
(`UrlReader.ofNames`).
-/

namespace FirewallOrder.Url

/-- The characters that do not count around a URL. -/
def isPadding (c : Char) : Bool := c ≤ ' '

/-- The characters of a URL, without those that do not count. -/
def significant (s : String) : List Char :=
  let trimmed := ((s.toList.dropWhile isPadding).reverse.dropWhile isPadding).reverse
  trimmed.filter fun c => !isIgnored c

def isLetter (c : Char) : Bool := ('a' ≤ c && c ≤ 'z') || ('A' ≤ c && c ≤ 'Z')

def isSchemeChar (c : Char) : Bool :=
  isLetter c || ('0' ≤ c && c ≤ '9') || c == '+' || c == '-' || c == '.'

/-- The scheme, in small letters, and the text behind its colon. -/
def takeScheme? (cs : List Char) : Option (String × List Char) :=
  match cs.span isSchemeChar with
  | (scheme, ':' :: rest) =>
    if (scheme.head?.map isLetter).getD false then
      some (String.ofList (scheme.map Host.lowerLetter), rest)
    else none
  | _ => none

/-- The authority ends here. -/
def endsAuthority (special : Bool) (c : Char) : Bool :=
  c == '/' || c == '?' || c == '#' || (special && c == '\\')

/-- The text before the last `@`, if there is one, and the text behind it. -/
def splitAtLastAt (cs : List Char) : Option (List Char) × List Char :=
  match cs.reverse.span (· != '@') with
  | (_, []) => (none, cs)
  | (behind, _ :: before) => (some before.reverse, behind.reverse)

/-- The user and the password of the text before the `@`. -/
def readCredentials (cs : List Char) : String × String :=
  let (user, rest) := cs.span (· != ':')
  let escaped (cs : List Char) : String := String.ofList (escape inUserSet cs)
  (escaped user, escaped (rest.drop 1))

/-- The host and what is behind its colon; colons between brackets belong to the host. -/
def splitHost (inBrackets : Bool) : List Char → List Char × Option (List Char)
  | [] => ([], none)
  | c :: cs =>
    if c = ':' ∧ !inBrackets then ([], some cs)
    else
      let inBrackets := if c = '[' then true else if c = ']' then false else inBrackets
      let (host, port) := splitHost inBrackets cs
      (c :: host, port)

/-- The port that digits spell. -/
def readPort (cs : List Char) : Except UrlFault (Option Port) :=
  if cs.isEmpty then .ok none
  else
    match Host.numberInBase? 10 cs with
    | some n => if n < 65536 then .ok (some n) else .error .badPort
    | none => .error .badPort

/-- The user, the password, the host and the port of an authority; `behind` is the text that follows
it. -/
def readAuthority (names : HostNames) (scheme : String) (cs : List Char) (behind : List Char) :
    Except UrlFault (String × String × Host × Option Port) := do
  let (credentials, rest) := splitAtLastAt cs
  if credentials = some [] ∧ rest = [] ∧ behind ≠ [] then throw .emptyHost
  let (user, password) := readCredentials (credentials.getD [])
  let (hostText, portText) := splitHost false rest
  let special := isSpecialScheme scheme
  if special && hostText.isEmpty then throw .emptyHost
  let host ← if special then Host.read names hostText else Host.readUnknown names hostText
  if hostText.isEmpty && (portText.isSome || user != "" || password != "") then throw .emptyHost
  let port ← readPort (portText.getD [])
  pure (user, password, host, port.filter fun n => some n != defaultPort? scheme)

/-- The segments that a path ends up with: dots are followed. -/
def followDots (path : List String) : List String → List String
  | [] => path
  | segment :: rest =>
    let last := rest.isEmpty
    if isDoubleDot segment then followDots (path.dropLast ++ (if last then [""] else [])) rest
    else if isSingleDot segment then followDots (path ++ (if last then [""] else [])) rest
    else followDots (path ++ [segment]) rest

/-- The segments of the text of a path, behind its first slash. -/
def readPath (special : Bool) (cs : List Char) : List String :=
  let slashes := if special then cs.map fun c => if c = '\\' then '/' else c else cs
  followDots [] ((Host.splitOn '/' slashes).map fun segment =>
    String.ofList (escape inPathSet segment))

/-- The text before a mark, and the text behind it, if the mark is there. -/
def splitAtMark (mark : Char) (cs : List Char) : List Char × Option (List Char) :=
  match cs.span (· != mark) with
  | (before, []) => (before, none)
  | (before, _ :: behind) => (before, some behind)

/-- The parts of a URL behind its authority: path, query and fragment. -/
def splitTail (cs : List Char) : List Char × Option (List Char) × Option (List Char) :=
  let (front, fragment) := splitAtMark '#' cs
  let (path, query) := splitAtMark '?' front
  (path, query, fragment)

/-- The text without a slash at its beginning. -/
def dropSlash (special : Bool) : List Char → List Char
  | c :: cs => if c = '/' ∨ (special ∧ c = '\\') then cs else c :: cs
  | [] => []

/-- The path behind an authority. -/
def readPathBehindHost (special : Bool) (cs : List Char) : UrlPath :=
  if cs.isEmpty && !special then .segments []
  else .segments (readPath special (dropSlash special cs))

/-- The URL with a query and a fragment. -/
def withTail (u : Url) (query fragment : Option (List Char)) : Url :=
  let querySet := if u.isSpecial then inSpecialQuerySet else inQuerySet
  { u with
    query := query.map fun cs => String.ofList (escape querySet cs)
    fragment := fragment.map fun cs => String.ofList (escape inFragmentSet cs) }

/-- A URL with an authority, from the text behind the slashes. -/
def readWithHost (names : HostNames) (scheme : String) (cs : List Char) :
    Except UrlFault Url := do
  let special := isSpecialScheme scheme
  let (authority, behind) := cs.span fun c => !endsAuthority special c
  let (user, password, host, port) ← readAuthority names scheme authority behind
  let (path, query, fragment) := splitTail behind
  pure (withTail
    ⟨scheme, user, password, some host, port, readPathBehindHost special path, none, none⟩
    query fragment)

/-- The host of a file: none for this machine. -/
def readFileHost (names : HostNames) (cs : List Char) : Except UrlFault Host :=
  if cs.isEmpty then .ok (.name "")
  else do
    let host ← Host.read names cs
    pure (if host = .name "localhost" then .name "" else host)

/-- A URL of a file, from the text behind the scheme. -/
def readFile (names : HostNames) (cs : List Char) : Except UrlFault Url := do
  let isSlash (c : Char) : Bool := c == '/' || c == '\\'
  let (slashes, rest) := cs.span isSlash
  let (authority, behind) :=
    if slashes.length = 2 then rest.span fun c => !endsAuthority true c
    else ([], slashes.drop (if 2 ≤ slashes.length then 2 else 0) ++ rest)
  let host ← readFileHost names authority
  let (path, query, fragment) := splitTail behind
  pure (withTail ⟨"file", "", "", some host, none, readPathBehindHost true path, none, none⟩
    query fragment)

/-- A URL of a scheme that is not known, from the text behind the scheme. -/
def readUnknown (names : HostNames) (scheme : String) (cs : List Char) :
    Except UrlFault Url :=
  match cs with
  | '/' :: '/' :: rest => readWithHost names scheme rest
  | cs =>
    let (path, query, fragment) := splitTail cs
    let path :=
      match path with
      | '/' :: rest => UrlPath.segments (readPath false rest)
      | path => UrlPath.text (String.ofList (escape inControlSet path))
    .ok (withTail ⟨scheme, "", "", none, none, path, none, none⟩ query fragment)

/-- The URL that a text is. -/
def parse (names : HostNames) (s : String) : Except UrlFault Url :=
  match takeScheme? (significant s) with
  | none => .error .noScheme
  | some (scheme, rest) =>
    if scheme == "file" then readFile names rest
    else if isSpecialScheme scheme then
      readWithHost names scheme (rest.dropWhile fun c => c == '/' || c == '\\')
    else readUnknown names scheme rest

/-! ## Segments without slashes -/

theorem not_mem_of_mem_splitOn {separator : Char} {cs part : List Char}
    (h : part ∈ Host.splitOn separator cs) : separator ∉ part := by
  induction cs generalizing part with
  | nil =>
    have : part = [] := by simpa [Host.splitOn] using h
    simp [this]
  | cons c cs ih =>
    by_cases hc : c = separator
    · rw [Host.splitOn, if_pos hc] at h
      rcases List.mem_cons.1 h with rfl | h
      · exact List.not_mem_nil
      · exact ih h
    · rw [Host.splitOn, if_neg hc] at h
      cases parts : Host.splitOn separator cs with
      | nil =>
        have : part = [c] := by simpa [parts] using h
        simp [this, Ne.symm hc]
      | cons first rest =>
        simp only [parts, List.mem_cons] at h ih
        rcases h with rfl | h
        · have : separator ∉ first := ih (.inl rfl)
          simp [this, Ne.symm hc]
        · exact ih (.inr h)

theorem mem_of_mem_followDots {path rest : List String} {s : String}
    (h : s ∈ followDots path rest) : s ∈ path ∨ s ∈ rest ∨ s = "" := by
  induction rest generalizing path with
  | nil => exact .inl (by simpa [followDots] using h)
  | cons segment rest ih =>
    -- The path gains nothing but this segment or, at the end, an empty one.
    have blank : ∀ x ∈ (if rest.isEmpty then [""] else [] : List String), x = "" := by
      intro x hx
      split at hx <;> simp_all
    rw [followDots] at h
    split at h
    · rcases ih h with hpath | hrest | hempty
      · rcases List.mem_append.1 hpath with hpath | hblank
        · exact .inl (List.dropLast_subset _ hpath)
        · exact .inr (.inr (blank _ hblank))
      · exact .inr (.inl (List.mem_cons_of_mem _ hrest))
      · exact .inr (.inr hempty)
    · split at h
      · rcases ih h with hpath | hrest | hempty
        · rcases List.mem_append.1 hpath with hpath | hblank
          · exact .inl hpath
          · exact .inr (.inr (blank _ hblank))
        · exact .inr (.inl (List.mem_cons_of_mem _ hrest))
        · exact .inr (.inr hempty)
      · rcases ih h with hpath | hrest | hempty
        · rcases List.mem_append.1 hpath with hpath | hlast
          · exact .inl hpath
          · exact .inr (.inl (by simp_all))
        · exact .inr (.inl (List.mem_cons_of_mem _ hrest))
        · exact .inr (.inr hempty)

theorem noSlash_of_mem_readPath {special : Bool} {cs : List Char} {s : String}
    (h : s ∈ readPath special cs) : '/' ∉ s.toList := by
  rcases mem_of_mem_followDots h with h | h | rfl
  · exact absurd h List.not_mem_nil
  · obtain ⟨part, hpart, rfl⟩ := List.mem_map.1 h
    rw [String.toList_ofList]
    intro slash
    rcases mem_escape slash with ⟨hmem, -⟩ | h | ⟨n, hn, h⟩
    · exact not_mem_of_mem_splitOn hpart hmem
    · cases h
    · revert n
      decide
  · decide

/-! ## What is read -/

variable {names : HostNames} {scheme : String} {cs : List Char} {u : Url}

theorem readWithHost_eq_ok (h : readWithHost names scheme cs = .ok u) :
    u.scheme = scheme ∧ ∃ path, u.path = readPathBehindHost (isSpecialScheme scheme) path := by
  simp only [readWithHost, bind, Except.bind] at h
  split at h
  · cases h
  · cases h
    exact ⟨rfl, _, rfl⟩

theorem readFile_scheme (h : readFile names cs = .ok u) : u.scheme = "file" := by
  simp only [readFile, bind, Except.bind] at h
  split at h
  · cases h
  · cases h
    rfl

theorem readUnknown_scheme (h : readUnknown names scheme cs = .ok u) : u.scheme = scheme := by
  unfold readUnknown at h
  split at h
  · exact (readWithHost_eq_ok h).1
  · cases h
    rfl

theorem isSpecial_of_isWeb (web : u.isWeb = true) : u.isSpecial = true := by
  simp only [isWeb, Bool.or_eq_true, beq_iff_eq] at web
  rw [isSpecial]
  rcases web with web | web <;> rw [web] <;> decide

/-- **A URL of the web has a path of segments without slashes.** -/
theorem exists_segments_of_parse {text : String} (parsed : parse names text = .ok u)
    (web : u.isWeb = true) :
    ∃ segments, u.path = .segments segments ∧ ∀ s ∈ segments, '/' ∉ s.toList := by
  have special := isSpecial_of_isWeb web
  rw [parse] at parsed
  split at parsed
  · cases parsed
  rename_i scheme rest _
  split at parsed
  · -- A file is not fetched over the web.
    have file := readFile_scheme parsed
    simp [isWeb, file] at web
  split at parsed
  · obtain ⟨-, path, hpath⟩ := readWithHost_eq_ok parsed
    rename_i hspecial
    refine ⟨readPath true (dropSlash true path), ?_, fun s hs => noSlash_of_mem_readPath hs⟩
    rw [hpath, hspecial, readPathBehindHost]
    simp
  · rename_i hspecial
    have := readUnknown_scheme parsed
    rw [isSpecial, this] at special
    exact absurd special hspecial

end FirewallOrder.Url

namespace FirewallOrder

/-- The reader of URLs that goes by some names of hosts. -/
def UrlReader.ofNames (names : Url.HostNames) : UrlReader where
  read := Url.parse names
  segments_of_web := Url.exists_segments_of_parse

end FirewallOrder
