import FirewallOrder.Command.Grammar
/-!
# Help

What somebody at a terminal is told about the command line itself: how it is used, what was wrong
with it, and, for a shell, which words it knows.
-/

namespace FirewallOrder

/-- The name of the program and its version. -/
def versionText : String := "tfunifi 0.1.0"

/-- How the command line is used. -/
def helpText : String := "\n".intercalate [
  "Keep UniFi firewall rules in a declared order",
  "",
  "Usage: tfunifi [OPTIONS] <COMMAND>",
  "",
  "Commands:",
  "  ruleset show <SITE:RULESET>  Show the current order of a ruleset",
  "  ruleset plan                 Show the index updates needed to reach the desired order",
  "  ruleset apply                Reorder the controller's rules to the desired order",
  "  completions <SHELL>          Complete words in bash, elvish, fish, powershell or zsh",
  "",
  "The desired order:",
  "  -r, --ruleset <RULESET>   Ruleset name, any case",
  "      --before <ID,...>     Rule IDs to run before the predefined rules, in order",
  "      --after <ID,...>      Rule IDs to run after the predefined rules, in order",
  "  -f, --from-file <PATH>    JSON object with ruleset, before_predefined, after_predefined",
  "",
  "Options:",
  "      --config <PATH>       Config file",
  "  -c, --controller <URL>    Controller URL",
  "  -s, --site <SITE>         Default site for rulesets that do not name one",
  "  -k, --insecure            Accept self-signed TLS certificates",
  "      --timeout <SECS>      Request timeout in seconds",
  "  -o, --output <FORMAT>     table, json, json-compact, yaml or plain",
  "  -v, --verbose             Increase verbosity",
  "  -q, --quiet               Suppress non-error output",
  "      --log-json            Emit log lines as JSON",
  "  -h, --help                Print help",
  "  -V, --version             Print version"]

namespace UsageStop

/-- What was wrong with a command line, or what it asked for. -/
def message : UsageStop → String
  | help => helpText
  | version => versionText
  | helpInstead => helpText
  | missingCommand => "a command is missing"
  | unknownCommand => "there is no such command"
  | unknownArgument => "there is no such argument"
  | invalidValue => "a value is missing or none of those that are possible"
  | unreadableValue => "a value cannot be read"
  | needlessValue => "an option has a value but takes none"
  | conflict => "an option was given twice, or with another that excludes it"
  | missingArgument => "an argument is missing"

end UsageStop

/-! ## Completions -/

namespace Arguments.CommandTree

variable {δ β : Type}

/-- The options as they are written. -/
def optionWords (options : List (Argument δ)) : List String :=
  options.map fun a => "--" ++ a.name

mutual

/-- The words that may stand at a command or below it. -/
def words : CommandTree δ β → List String
  | .group options commands => optionWords options ++ wordsBelow commands
  | .leaf options _ _ => optionWords options

def wordsBelow : List (List String × CommandTree δ β) → List String
  | [] => []
  | (names, tree) :: rest => names ++ tree.words ++ wordsBelow rest

end

end Arguments.CommandTree

/-- A script that makes a shell complete the words of the command line. -/
def Shell.script (shell : Shell) : String :=
  let words := " ".intercalate Invocation.tree.words.eraseDups
  match shell with
  | .bash => "complete -W '" ++ words ++ "' tfunifi\n"
  | .zsh => "compctl -k '(" ++ words ++ ")' tfunifi\n"
  | .fish => "complete -c tfunifi -f -a '" ++ words ++ "'\n"
  | .elvish =>
    "set edit:completion:arg-completer[tfunifi] = \x7b|@words| put " ++ words ++ " \x7d\n"
  | .powershell =>
    "Register-ArgumentCompleter -Native -CommandName tfunifi -ScriptBlock \x7b\n" ++
      "  param($word)\n  -split '" ++ words ++
        "' | Where-Object \x7b $_ -like \"$word*\" \x7d\n\x7d\n"

end FirewallOrder
