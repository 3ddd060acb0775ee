import FirewallOrder.Command.Arguments
import FirewallOrder.Command.Invocation
import FirewallOrder.Number.Whole
/-!
# The commands

The tree of commands: `ruleset show`, `ruleset plan`, `ruleset apply` and `completions`. Some
options belong to every command and may stand anywhere; of several values for one of them the one
that stands at the innermost command counts.
-/

namespace FirewallOrder

open Arguments

/-- What was given at one command. -/
structure Given where
  config : Option String := none
  controller : Option String := none
  site : Option String := none
  insecure : Bool := false
  timeout : Option Nat := none
  output : Option ResultFormat := none
  verbosity : Nat := 0
  quiet : Bool := false
  jsonLog : Bool := false
  id : Option String := none
  ruleset : Option String := none
  before : Option (List String) := none
  after : Option (List String) := none
  file : Option String := none
  shell : Option Shell := none

namespace Given

/-! ## Values -/

/-- A text is any value. -/
def text (set : String → Given → Given) : Taking Given :=
  .value fun s => .ok (set s)

/-- A path is not empty. -/
def path (set : String → Given → Given) : Taking Given :=
  .value fun s => if s == "" then .error .invalidValue else .ok (set s)

/-- Seconds are a whole number of at most 64 bits. -/
def seconds (set : Nat → Given → Given) : Taking Given :=
  .value fun s =>
    match Whole.readNat (Whole.bound 64 - 1) s.toList with
    | .ok n => .ok (set n)
    | .error _ => .error .unreadableValue

/-- One of some words. -/
def choice {α : Type} (ofWord? : String → Option α) (set : α → Given → Given) : Taking Given :=
  .value fun s =>
    match ofWord? s with
    | some a => .ok (set a)
    | none => .error .invalidValue

/-! ## Options -/

/-- The options of every command. -/
def globalOptions : List (Argument Given) := [
  ⟨"config", none, path fun v g => { g with config := some v }⟩,
  ⟨"controller", some 'c', text fun v g => { g with controller := some v }⟩,
  ⟨"site", some 's', text fun v g => { g with site := some v }⟩,
  ⟨"insecure", some 'k', .flag fun g => { g with insecure := true }⟩,
  ⟨"timeout", none, seconds fun v g => { g with timeout := some v }⟩,
  ⟨"output", some 'o', choice ResultFormat.ofWord? fun v g => { g with output := some v }⟩,
  ⟨"verbose", some 'v', .counter fun g => { g with verbosity := g.verbosity + 1 }⟩,
  ⟨"quiet", some 'q', .flag fun g => { g with quiet := true }⟩,
  ⟨"log-json", none, .flag fun g => { g with jsonLog := true }⟩,
  ⟨"help", some 'h', .stop .help⟩,
  ⟨"version", some 'V', .stop .version⟩]

/-- The options that write an order down. -/
def orderOptions : List (Argument Given) := [
  ⟨"ruleset", some 'r', text fun v g => { g with ruleset := some v }⟩,
  ⟨"before", none, .values fun vs g => { g with before := some (g.before.getD [] ++ vs) }⟩,
  ⟨"after", none, .values fun vs g => { g with after := some (g.after.getD [] ++ vs) }⟩,
  ⟨"from-file", some 'f', path fun v g => { g with file := some v }⟩]

/-! ## What was asked for -/

/-- An order comes from a file or from options and not from both; options have to name the
ruleset. -/
def orderSource (g : Given) : Except UsageStop OrderSource :=
  match g.file, g.ruleset with
  | some path, ruleset =>
    if ruleset.isSome || g.before.isSome || g.after.isSome then .error .conflict
    else .ok (.file path)
  | none, some ruleset => .ok (.options ruleset (g.before.getD []) (g.after.getD []))
  | none, none => .error .missingArgument

/-- A value that must be there. -/
def required {α : Type} : Option α → Except UsageStop α
  | some a => .ok a
  | none => .error .missingArgument

/-- The options of every command, from what was given at each command on the way, the innermost
first. -/
def toGlobal (levels : List Given) : GlobalOptions where
  config := levels.findSome? (·.config)
  controller := levels.findSome? (·.controller)
  site := levels.findSome? (·.site)
  insecure := levels.any (·.insecure)
  timeout := levels.findSome? (·.timeout)
  output := (levels.findSome? (·.output)).getD .table
  verbosity := ((levels.find? fun g => g.verbosity ≠ 0).map (·.verbosity)).getD 0
  quiet := levels.any (·.quiet)
  jsonLog := levels.any (·.jsonLog)

end Given

namespace Invocation

/-- What a command asks for, when the options of every command are known. -/
abbrev Meaning := GlobalOptions → Invocation

/-- A command on an order. -/
def orderCommand (command : Except UsageStop OrderCommand) : Except UsageStop Meaning :=
  command.map fun command options => .order options command

/-- The tree of commands. -/
def tree : CommandTree Given Meaning :=
  .group Given.globalOptions [
    (["ruleset", "rs"], .group Given.globalOptions [
      (["show", "import"], .leaf Given.globalOptions
        (some ⟨"id", none, Given.text fun v g => { g with id := some v }⟩)
        fun g => orderCommand ((Given.required g.id).map .inspect)),
      (["plan"], .leaf (Given.globalOptions ++ Given.orderOptions) none
        fun g => orderCommand (g.orderSource.map .plan)),
      (["apply"], .leaf (Given.globalOptions ++ Given.orderOptions) none
        fun g => orderCommand (g.orderSource.map .apply))]),
    (["completions"], .leaf Given.globalOptions
      (some ⟨"shell", none,
        Given.choice Shell.ofWord? fun v g => { g with shell := some v }⟩)
      fun g => (Given.required g.shell).map fun shell _ => .completions shell)]

/-- Reads a command line. -/
def parse (words : List String) : Except UsageStop Invocation :=
  (Arguments.parse {} tree words).map fun (levels, meaning) => meaning (Given.toGlobal levels)

end Invocation

end FirewallOrder
