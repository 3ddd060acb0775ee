import FirewallOrder.Command.Invocation
import FirewallOrder.Settings.Load
/-!
# Options over settings

The options of a command line are the highest layer of settings: a controller, a site or a time to
wait that is given there counts, and certificates are not checked if the option or a lower layer
says so. They come over the settings only after those are loaded, so a value of a wrong kind in a
lower layer is reported even if an option covers it.
-/

namespace FirewallOrder.GlobalOptions

/-- The settings with the options over them. -/
def override (o : GlobalOptions) (s : Settings) : Settings :=
  { s with
    apiUrl := o.controller.or s.apiUrl
    site := o.site.getD s.site
    insecure := o.insecure || s.insecure
    timeout := o.timeout.getD s.timeout }

/-- The file of settings: the one that is named, or that of the environment. -/
def settingsFile (o : GlobalOptions) (env : Environment.Variables) : String :=
  o.config.getD (Settings.defaultPath env)

/-- How the controller is reached, from the options, the environment and the file. -/
def configure (o : GlobalOptions) (machine : Machine) : Except SettingsError Access := do
  let settings ← Settings.load machine.searched machine.env (o.settingsFile machine.env)
  match (o.override settings).check machine.urls with
  | .ok config => pure config
  | .error fault => throw (.fault fault)

end FirewallOrder.GlobalOptions
