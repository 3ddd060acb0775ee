import FirewallOrder.Machine.Files
import FirewallOrder.Url.Basic
/-!
# Machines

A program finds files and variables on the machine that it runs on, and two libraries: one reads
URLs, the other one knows certificates.
-/

namespace FirewallOrder

namespace Environment

/-- The variables of an environment, in the order in which it lists them. -/
abbrev Variables := List (String × String)

/-- The value of a variable. -/
def Variables.get? (env : Variables) (name : String) : Option String :=
  (env.find? fun v => v.1 == name).map (·.2)

end Environment

/-- What the library for secure connections makes of certificates. -/
structure Tls where
  /-- What is wrong with bytes that should be the certificate of an authority. -/
  certificateFault? : ByteArray → Option String
  /-- Why no connections can be made by those who trust an authority besides those of the machine,
  or who trust anyone. -/
  clientFault? (authority : Option ByteArray) (anyone : Bool) : Option String

/-- The library that any certificate suits. -/
def Tls.accepting : Tls := ⟨fun _ => none, fun _ _ => none⟩

/-- The machine that a program runs on. -/
structure Machine where
  files : Files
  /-- The directories above the one that the program runs in, the nearest first. -/
  above : List String
  env : Environment.Variables
  urls : UrlReader
  tls : Tls

/-- A machine without files, on which any certificate will do. -/
def Machine.fileless (urls : UrlReader) (env : Environment.Variables) : Machine where
  files := ⟨fun _ => .error .missing⟩
  above := []
  env := env
  urls := urls
  tls := .accepting

/-- The files as they are found by somebody who looks further in the directories above. -/
def Machine.searched (machine : Machine) : Files := machine.files.orBelow machine.above

end FirewallOrder
