import FirewallOrder.Text.Blank
import FirewallOrder.Text.Quoted
/-!
# Rulesets, sites and their identifiers

A controller keeps its firewall rules in eighteen rulesets: one for each of three zones, two
families of addresses and three directions. A ruleset of one site is named by an identifier, the
site, a colon and the ruleset.

Names are read kindly: blanks around them and the case of ASCII letters do not matter
(`Ruleset.ofName?`). They are written in one way only (`Ruleset.spelling`).
-/

namespace FirewallOrder

open Text

/-! ## Rulesets -/

/-- Which side of the gateway a ruleset guards. -/
inductive Zone
  | wan
  | lan
  | guest
  deriving DecidableEq, Repr

/-- The family of addresses that a ruleset looks at. -/
inductive Family
  | v4
  | v6
  deriving DecidableEq, Repr

/-- Where the traffic goes: into the network, out of it, or to the gateway itself. -/
inductive Direction
  | inbound
  | outbound
  | toGateway
  deriving DecidableEq, Repr

/-- One of the eighteen rulesets of a site. -/
structure Ruleset where
  zone : Zone
  family : Family
  direction : Direction
  deriving DecidableEq, Repr

def Zone.spelling : Zone → String
  | .wan => "WAN"
  | .lan => "LAN"
  | .guest => "GUEST"

def Family.spelling : Family → String
  | .v4 => ""
  | .v6 => "v6"

def Direction.spelling : Direction → String
  | .inbound => "IN"
  | .outbound => "OUT"
  | .toGateway => "LOCAL"

namespace Ruleset

/-- The name by which the controller knows the ruleset. -/
def spelling (r : Ruleset) : String :=
  r.zone.spelling ++ r.family.spelling ++ "_" ++ r.direction.spelling

/-- Every ruleset, in the order in which messages list them. -/
def all : List Ruleset :=
  [Family.v4, Family.v6].flatMap fun family =>
    [Zone.wan, Zone.lan, Zone.guest].flatMap fun zone =>
      [Direction.inbound, Direction.outbound, Direction.toGateway].map fun direction =>
        ⟨zone, family, direction⟩

/-- The ruleset with exactly this spelling. -/
def ofSpelling? (s : String) : Option Ruleset :=
  all.find? fun r => r.spelling == s

/-- The first character `old` of the list replaced by `new`. -/
def replaceFirst (old new : Char) : List Char → List Char
  | [] => []
  | c :: cs => if c = old then new :: cs else c :: replaceFirst old new cs

/-- The name as the controller would spell it: no blanks around it, capital letters, and the first
`V`, which stands for the version of the protocol, small. -/
def canonicalName (raw : String) : String :=
  String.ofList (replaceFirst 'V' 'v' ((trimChars raw.toList).map upper))

/-- The ruleset that a name means, blanks around it and ASCII case aside. -/
def ofName? (raw : String) : Option Ruleset :=
  ofSpelling? (canonicalName raw)

/-- What is said of a name that means no ruleset. -/
def unknownMessage (raw : String) : String :=
  "unknown ruleset '" ++ raw ++ "'"

/-- A name that means no ruleset, as it was given. -/
structure Unknown where
  raw : String
  deriving DecidableEq, Repr

def Unknown.message (fault : Unknown) : String := unknownMessage fault.raw

/-- The ruleset that a name means, or the name. -/
def ofName (raw : String) : Except Unknown Ruleset :=
  match ofName? raw with
  | some r => .ok r
  | none => .error ⟨raw⟩

end Ruleset

/-! ## Sites -/

/-- Why a text cannot name a site. -/
inductive SiteFault
  | empty
  | dots (site : String)
  | holds (site : String) (c : Char)
  deriving DecidableEq, Repr

namespace Site

/-- The characters that have a meaning of their own in an address or an identifier, blanks, and
controls: a site's name holds none of them. -/
def isReserved (c : Char) : Bool :=
  c == '/' || c == '\\' || c == ':' || c == '?' || c == '#' || c == '%' || isBlank c || isControl c

/-- What is wrong with the name of a site, if anything is. -/
def fault? (site : String) : Option SiteFault :=
  if isBlankText site then some .empty
  else if site == "." || site == ".." then some (.dots site)
  else (site.toList.find? isReserved).map (.holds site)

/-- The text can name a site. -/
def IsName (site : String) : Prop :=
  fault? site = none

instance (site : String) : Decidable (IsName site) :=
  inferInstanceAs (Decidable (fault? site = none))

end Site

/-- What is said of a text that cannot name a site. -/
def SiteFault.message : SiteFault → String
  | .empty => "site is empty"
  | .dots site => "'" ++ site ++ "' is not a site name"
  | .holds site c => "site '" ++ site ++ "' contains " ++ quoteChar c

/-! ## Identifiers -/

/-- A ruleset of one site. -/
structure RulesetId where
  site : String
  ruleset : Ruleset
  deriving DecidableEq, Repr

/-- Why a text is not the identifier of a ruleset. -/
inductive IdFault
  | noSeparator
  | site (fault : SiteFault)
  | ruleset (raw : String)
  deriving DecidableEq, Repr

def IdFault.message : IdFault → String
  | .noSeparator => "missing ':' separator"
  | .site fault => fault.message
  | .ruleset raw => Ruleset.unknownMessage raw

namespace RulesetId

/-- The identifier as it is written: site, colon, ruleset. -/
def display (id : RulesetId) : String :=
  id.site ++ ":" ++ id.ruleset.spelling

/-- The identifier that a text means: everything before the first colon is the site, everything
after it the ruleset. -/
def ofText (raw : String) : Except IdFault RulesetId :=
  match raw.toList.span (· != ':') with
  | (_, []) => .error .noSeparator
  | (before, _ :: after) =>
    let site := String.ofList before
    let name := String.ofList after
    match Site.fault? site with
    | some fault => .error (.site fault)
    | none =>
      match Ruleset.ofName? name with
      | none => .error (.ruleset name)
      | some ruleset => .ok ⟨site, ruleset⟩

end RulesetId

end FirewallOrder
