import FirewallOrder.Json.Reader
import FirewallOrder.Text.Quoted
import FirewallOrder.Number.Whole
/-!
# Decoding documents

A decoder goes through a document in the order of its text and wants each part to be of some kind.
What stops it is either a fault of the text or a part of another kind (`Mismatch`); the first of
either decides.
-/

namespace FirewallOrder.Json

/-! ## What can be wrong -/

/-- What a decoder came upon. -/
inductive Found
  | null
  | bool (b : Bool)
  | number (n : JsonNumber)
  | str (s : String)
  | arr
  | obj
  deriving DecidableEq, Repr

def Found.describe : Found → String
  | .null => "null"
  | .bool b => "boolean `" ++ (if b then "true" else "false") ++ "`"
  | .number (.int n) => "integer `" ++ toString n ++ "`"
  | .number (.float x) => "floating point `" ++ doubleText x ++ "`"
  | .str s => "string " ++ Text.quote s
  | .arr => "sequence"
  | .obj => "map"

/-- A part of a document that is right in itself, but not what is wanted there. -/
inductive Mismatch
  | kind (found : Found) (wanted : String)
  | value (found : Found) (wanted : String)
  | length (n : Nat) (wanted : String)
  | missingField (name : String)
  | unknownField (name : String) (known : List String)
  | repeatedField (name : String)
  | unknownVariant (name : String) (known : List String)
  | noVariant (type : String)
  | number (fault : WholeFault)
  deriving DecidableEq, Repr

/-- The names of a choice, as messages list them. -/
def oneOf (names : List String) : String :=
  "expected one of " ++ ", ".intercalate (names.map fun name => "`" ++ name ++ "`")

def Mismatch.message : Mismatch → String
  | .kind found wanted => "invalid type: " ++ found.describe ++ ", expected " ++ wanted
  | .value found wanted => "invalid value: " ++ found.describe ++ ", expected " ++ wanted
  | .length n wanted => "invalid length " ++ toString n ++ ", expected " ++ wanted
  | .missingField name => "missing field `" ++ name ++ "`"
  | .unknownField name known => "unknown field `" ++ name ++ "`, " ++ oneOf known
  | .repeatedField name => "duplicate field `" ++ name ++ "`"
  | .unknownVariant name known => "unknown variant `" ++ name ++ "`, " ++ oneOf known
  | .noVariant type => "data did not match any variant of untagged enum " ++ type
  | .number fault => fault.message

/-- What stops a decoder. -/
inductive DecodeError
  | text (fault : Fault)
  | data (mismatch : Mismatch)
  deriving DecidableEq, Repr

def DecodeError.message : DecodeError → String
  | .text fault => fault.message
  | .data mismatch => mismatch.message

/-! ## Decoders -/

/-- A reader of one kind of thing. -/
abbrev Decoder (α : Type) := Origin → Document → Except DecodeError α

/-- A fault of the text, as what stops a decoder. -/
def liftFault {α : Type} : Except Fault α → Except DecodeError α
  | .ok a => .ok a
  | .error fault => .error (.text fault)

/-- What stops a decoder at a document of another kind than it wants: a fault in what it has to read
to tell the kind, or the kind. -/
def mismatch (wanted : String) : Document → DecodeError
  | .null => .data (.kind .null wanted)
  | .bool b => .data (.kind (.bool b) wanted)
  | .number (.ok n) => .data (.kind (.number n) wanted)
  | .number (.error flaw) => .text flaw.reading
  | .str (.ok s) => .data (.kind (.str s) wanted)
  | .str (.error flaw) => .text flaw.reading
  | .arr _ _ => .data (.kind .arr wanted)
  | .obj _ _ => .data (.kind .obj wanted)
  | .broken fault => .text fault
  | .missing fault => .text fault

namespace Decoder

/-- A text; `wanted` is its name in messages. -/
def textAs (wanted : String) : Decoder String
  | _, .str (.ok s) => .ok s
  | _, document => .error (mismatch wanted document)

def text : Decoder String := textAs "a string"

def bool : Decoder Bool
  | _, .bool b => .ok b
  | _, document => .error (mismatch "a boolean" document)

/-- A whole number that fits into this many bits. -/
def nat (bits : Nat) : Decoder Nat
  | _, .number (.ok (.int n)) =>
    if 0 ≤ n ∧ n < Whole.bound bits then .ok n.toNat
    else .error (.data (.value (.number (.int n)) ("u" ++ toString bits)))
  | _, document => .error (mismatch ("u" ++ toString bits) document)

/-- Any value. -/
def json : Decoder Json
  | origin, document => liftFault (document.toJson origin)

/-- Null, or what another decoder reads. -/
def optional {α : Type} (decode : Decoder α) : Decoder (Option α)
  | _, .null => .ok none
  | origin, document => (decode origin document).map some

/-- An array of what another decoder reads. -/
def list {α : Type} (decode : Decoder α) : Decoder (List α)
  | origin, .arr items ending => do
    let inner ← liftFault origin.inside
    let values ← items.mapM (decode inner)
    liftFault (Document.readEnding ending)
    pure values
  | _, document => .error (mismatch "a sequence" document)

/-- What stops a decoder that has read the name of a choice and finds more behind it. -/
def variantEnd : List (Key × Document) → Ending → Except DecodeError Unit
  | [], .closed => .ok ()
  | [], .broken flaw =>
    .error (.text (if flaw.reading = .endsInObject then .endsInObject else .noValue))
  | _ :: _, _ => .error (.text .noValue)

/-- One of several names: as a text, or as an object whose one member has that name and is null. -/
def variant {α : Type} (known : List String) (ofName? : String → Option α) : Decoder α :=
  let choose (name : String) : Except DecodeError α :=
    match ofName? name with
    | some a => .ok a
    | none => .error (.data (.unknownVariant name known))
  fun origin document =>
    match origin, document with
    | _, .str (.ok s) => choose s
    | _, .str (.error flaw) => .error (.text flaw.reading)
    | .text _, .obj members ending => do
      let _ ← liftFault origin.inside
      match members, ending with
      | [], .closed => throw (.text .noValue)
      | [], .broken flaw =>
        throw (.text (if flaw.reading = .endsInObject then .endsInValue else flaw.reading))
      | (.name s, value) :: rest, ending => do
        let a ← choose s
        match value with
        | .null => variantEnd rest ending
        | value => throw (mismatch "unit" value)
        pure a
      | (.flawed flaw, _) :: _, _ => throw (.text flaw.reading)
      | (.stray, value) :: _, _ => throw (mismatch "variant identifier" value)
    | .value, .obj [(.name s, value)] _ => do
      let a ← choose s
      match value with
      | .null => pure a
      | value => throw (mismatch "unit" value)
    | .value, .obj _ _ => .error (.data (.value .obj "map with a single key"))
    | .text _, .missing fault => .error (.text fault)
    | .text _, _ => .error (.text .noValue)
    | .value, document => .error (mismatch "string or map" document)

end Decoder

/-! ## Whole texts and values -/

/-- What a decoder reads in a text that holds nothing else. -/
def decodeText {α : Type} (decode : Decoder α) (s : String) : Except DecodeError α :=
  match Document.ofText s with
  | (document, behind) => do
    let a ← decode .wholeText document
    liftFault behind
    pure a

/-- What a decoder reads in a value. -/
def decodeValue {α : Type} (decode : Decoder α) (value : Json) : Except DecodeError α :=
  decode .value (.ofJson value.canonicalize)

end FirewallOrder.Json
