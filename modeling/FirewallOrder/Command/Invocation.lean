/-!
# Invocations

What somebody asks for on a command line, once it is read: a command on the order of a ruleset, with
the options that hold for all commands, or the completions of a shell.
-/

namespace FirewallOrder

/-- How a result is shown. -/
inductive ResultFormat
  /-- For a person to look at. -/
  | table
  | json
  | jsonCompact
  | yaml
  /-- One value a line. -/
  | plain
  deriving DecidableEq, Repr

namespace ResultFormat

def word : ResultFormat → String
  | table => "table"
  | json => "json"
  | jsonCompact => "json-compact"
  | yaml => "yaml"
  | plain => "plain"

def all : List ResultFormat := [table, json, jsonCompact, yaml, plain]

/-- The format with exactly this word. -/
def ofWord? (s : String) : Option ResultFormat := all.find? fun f => f.word == s

@[simp] theorem ofWord?_word (f : ResultFormat) : ofWord? f.word = some f := by
  cases f <;> decide

end ResultFormat

/-- The shells for which there are completions. -/
inductive Shell
  | bash
  | elvish
  | fish
  | powershell
  | zsh
  deriving DecidableEq, Repr

namespace Shell

def word : Shell → String
  | bash => "bash"
  | elvish => "elvish"
  | fish => "fish"
  | powershell => "powershell"
  | zsh => "zsh"

def all : List Shell := [bash, elvish, fish, powershell, zsh]

/-- The shell with exactly this word. -/
def ofWord? (s : String) : Option Shell := all.find? fun shell => shell.word == s

@[simp] theorem ofWord?_word (s : Shell) : ofWord? s.word = some s := by
  cases s <;> decide

end Shell

/-- The options that every command has. What is not given is left to the settings. -/
structure GlobalOptions where
  /-- The file of settings. -/
  config : Option String
  controller : Option String
  site : Option String
  /-- Certificates are not checked. -/
  insecure : Bool
  /-- Seconds. -/
  timeout : Option Nat
  output : ResultFormat
  verbosity : Nat
  /-- Nothing is printed but errors. -/
  quiet : Bool
  jsonLog : Bool
  deriving DecidableEq, Repr

/-- Where an order is written down. -/
inductive OrderSource
  | file (path : String)
  | options (ruleset : String) (before after : List String)
  deriving DecidableEq, Repr

/-- A command on the order of a ruleset. -/
inductive OrderCommand
  /-- Shows the order as it is. -/
  | inspect (id : String)
  /-- Shows what would be sent to bring an order about. -/
  | plan (desired : OrderSource)
  | apply (desired : OrderSource)
  deriving DecidableEq, Repr

inductive Invocation
  | order (options : GlobalOptions) (command : OrderCommand)
  | completions (shell : Shell)
  deriving DecidableEq, Repr

end FirewallOrder
