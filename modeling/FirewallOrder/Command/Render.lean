import FirewallOrder.Command.Invocation
import FirewallOrder.Json.Writer
import FirewallOrder.Managed.Operations
import FirewallOrder.Text.Table
import FirewallOrder.Yaml.Writer
/-!
# Showing results

A result is shown for a person, as a value in JSON or YAML, or plainly: the identities of the rules
in their order, or the changes of their indices, one a line.
-/

namespace FirewallOrder

open Text

/-! ## Texts for a person -/

/-- The text filled up with blanks at its left. -/
def padLeft (n : Nat) (s : String) : String :=
  String.ofList (List.replicate (n - s.length) ' ') ++ s

/-- The identities one a line, with their places counted from one. -/
def placeLinesFrom (place : Nat) : List String → List String
  | [] => []
  | id :: ids =>
    ("  " ++ padLeft 3 (toString place) ++ ". " ++ id) :: placeLinesFrom (place + 1) ids

def placeLines (ids : List String) : String :=
  if ids.isEmpty then "  (none)" else "\n".intercalate (placeLinesFrom 1 ids)

/-- The changes one a line. -/
def indexLines (updates : List IndexUpdate) : String :=
  "\n".intercalate (updates.map fun u => u.id ++ "=" ++ toString u.index)

def indexTable (updates : List IndexUpdate) : String :=
  table ["Rule ID", "New Index"] (updates.map fun u => [u.id, toString u.index])

def RulesetState.detail (s : RulesetState) : String :=
  "\n".intercalate ["ID:      " ++ s.id, "Site:    " ++ s.site, "Ruleset: " ++ s.ruleset.spelling,
    "Before predefined:", placeLines s.order.before, "After predefined:", placeLines s.order.after]

def PlannedChange.detail (p : PlannedChange) : String :=
  if p.isEmpty then p.id.display ++ ": rules already in the configured order"
  else
    p.id.display ++ ": " ++ toString p.updates.length ++ " rule(s) to move\n" ++
      indexTable p.updates

def AppliedChange.detail (a : AppliedChange) : String :=
  (if a.updates.isEmpty then "No changes: rules already in the configured order"
    else "Applied " ++ toString a.updates.length ++ " index update(s)") ++ "\n" ++ a.state.detail

/-! ## Results -/

/-- What a command found out or did. -/
inductive CommandResult
  | state (s : RulesetState)
  | plan (p : PlannedChange)
  | applied (a : AppliedChange)
  deriving DecidableEq, Repr

namespace CommandResult

def detail : CommandResult → String
  | state s => s.detail
  | plan p => p.detail
  | applied a => a.detail

def encode : CommandResult → Json
  | state s => s.encode
  | plan p => p.encode
  | applied a => a.encode

/-- One value a line. -/
def plainText : CommandResult → String
  | state s => "\n".intercalate s.order.ids
  | plan p => indexLines p.updates
  | applied a => indexLines a.updates

def render (format : ResultFormat) (r : CommandResult) : String :=
  match format with
  | .table => r.detail
  | .json => r.encode.pretty
  | .jsonCompact => r.encode.compact
  | .yaml => Yaml.document r.encode
  | .plain => r.plainText

/-- What is printed: nothing if silence was asked for or there is nothing to show, else a line or
several. -/
def printed (options : GlobalOptions) (r : CommandResult) : String :=
  let text := r.render options.output
  if options.quiet || text == "" then "" else text ++ "\n"

end CommandResult

end FirewallOrder
