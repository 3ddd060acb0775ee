import FirewallOrder.Command.Configure
import FirewallOrder.Command.Failure
import FirewallOrder.Command.Render
import FirewallOrder.Json.Decoder
import FirewallOrder.Provider.Basic
/-!
# Running commands

What somebody wrote is decoded first: an identifier or an order that is wrong ends the command
before the settings are read. Then the settings are read, the provider carries out one operation,
and its session, if one was begun, is ended whatever came of the operation. Only what succeeded is
printed.
-/

namespace FirewallOrder

/-- The configuration that an order's source describes. -/
def OrderSource.config (files : Files) (source : OrderSource) :
    Except CommandFailure RulesetConfig := do
  let value ←
    match source with
    | .file path =>
      match files.read path with
      | .error fault => throw (CommandFailure.file fault)
      | .ok text =>
        match Json.parse text with
        | .error fault => throw (CommandFailure.json fault)
        | .ok value => pure value
    | .options ruleset before after =>
      pure (.obj (("ruleset", .str ruleset) :: (RuleOrder.mk before after).members))
  match RulesetConfig.decode value with
  | .ok config => pure config
  | .error fault => throw (.operation (.invalid fault.message))

/-- A command with everything decoded that somebody wrote. -/
inductive OrderTask
  | inspect (id : RulesetId)
  | plan (config : RulesetConfig)
  | apply (config : RulesetConfig)
  deriving DecidableEq, Repr

namespace OrderTask

/-- What a command asks for. -/
def ofCommand (files : Files) : OrderCommand → Except CommandFailure OrderTask
  | .inspect raw =>
    match RulesetId.ofText raw with
    | .ok id => .ok (.inspect id)
    | .error fault => .error (.operation (.badId raw fault.message))
  | .plan source => (source.config files).map .plan
  | .apply source => (source.config files).map .apply

/-- How the task is carried out. Of a failure to bring an order about only the cause is reported. -/
def operation (defaultSite : String) : OrderTask → Operation OrderingError CommandResult
  | .inspect id => .state <$> Operation.importId id.display
  | .plan config => .plan <$> Operation.plan defaultSite config
  | .apply config =>
    .applied <$> ExceptT.adapt ApplyFailure.error (Operation.create defaultSite config)

/-- The task from the beginning of the session to its end. -/
def run (config : Access) (machine : Machine) (task : OrderTask) :
    Http.Exchange (Except OrderingError CommandResult) :=
  ((Provider.start config machine).perform (task.operation config.site)).bind
    fun (result, provider) => provider.close.bind fun _ => .done result

end OrderTask

/-- Where the files lie that a command may read, as far as that is known from the machine's files so
far: that of an authority is named only by the settings. -/
def OrderCommand.paths (machine : Machine) (options : GlobalOptions) (command : OrderCommand) :
    List String :=
  let sources :=
    match command with
    | .inspect _ => []
    | .plan source | .apply source =>
      match source with
      | .file path => [path]
      | .options .. => []
  let authorities :=
    match options.configure machine with
    | .ok config =>
      match config.trust with
      | .authority path => [path]
      | .system | .anyone => []
    | .error _ => []
  let settings := options.settingsFile machine.env
  sources ++ settings :: Files.elsewhere machine.above settings ++ authorities

/-- Runs a command: what it prints, or why it failed. -/
def OrderCommand.run (machine : Machine) (options : GlobalOptions) (command : OrderCommand) :
    Http.Exchange (Except CommandFailure String) :=
  match OrderTask.ofCommand machine.files command with
  | .error failure => .done (.error failure)
  | .ok task =>
    match options.configure machine with
    | .error error => .done (.error (.settings error (options.settingsFile machine.env)))
    | .ok config =>
      (task.run config machine).bind fun result =>
        .done ((result.map (·.printed options)).mapError .operation)

/-- The code with which the program exits. -/
def OrderCommand.exitCode : Except CommandFailure String → Nat
  | .ok _ => 0
  | .error failure => failure.exitCode

end FirewallOrder
