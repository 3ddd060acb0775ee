/-!
# What can be wrong with a JSON text

A `Fault` is a place at which a text ends to be JSON. Some places are faults only for a reader that
wants the value: one that passes over the value cares less for what it is. A `Flaw` says both.
-/

namespace FirewallOrder.Json

/-- A way in which a text fails to be JSON. -/
inductive Fault
  | endsInValue
  | endsInObject
  | endsInArray
  | endsInString
  | noValue
  | misspelt
  | noColon
  | noMemberSeparator
  | noItemSeparator
  | trailingComma
  | trailingCharacters
  | keyIsNoString
  | badNumber
  | numberOutOfRange
  | badEscape
  | controlInString
  | loneSurrogate
  | unpairedSurrogate
  | tooDeep
  deriving DecidableEq, Repr

/-- Whether a longer text could still be right (`early`), or nothing can mend it (`syntactic`). -/
inductive FaultKind
  | early
  | syntactic
  deriving DecidableEq, Repr

namespace Fault

def kind : Fault → FaultKind
  | endsInValue | endsInObject | endsInArray | endsInString => .early
  | _ => .syntactic

def message : Fault → String
  | endsInValue => "EOF while parsing a value"
  | endsInObject => "EOF while parsing an object"
  | endsInArray => "EOF while parsing a list"
  | endsInString => "EOF while parsing a string"
  | noValue => "expected value"
  | misspelt => "expected ident"
  | noColon => "expected `:`"
  | noMemberSeparator => "expected `,` or `\x7d`"
  | noItemSeparator => "expected `,` or `]`"
  | trailingComma => "trailing comma"
  | trailingCharacters => "trailing characters"
  | keyIsNoString => "key must be a string"
  | badNumber => "invalid number"
  | numberOutOfRange => "number out of range"
  | badEscape => "invalid escape"
  | controlInString => "control character (\\u0000-\\u001F) found while parsing a string"
  | loneSurrogate => "lone leading surrogate in hex escape"
  | unpairedSurrogate => "unexpected end of hex escape"
  | tooDeep => "recursion limit exceeded"

end Fault

/-- What is said at one place when the value there is wanted, and what when it is passed over:
nothing, if its shape is right. -/
structure Flaw where
  reading : Fault
  skipping : Option Fault
  deriving DecidableEq, Repr

/-- A place that is wrong for every reader. -/
def Flaw.always (fault : Fault) : Flaw := ⟨fault, some fault⟩

end FirewallOrder.Json
