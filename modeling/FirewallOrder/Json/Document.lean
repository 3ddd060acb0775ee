import FirewallOrder.Json.Number
/-!
# Documents: values as far as they can be read

A `Document` is what a text says in JSON, up to the place where it ceases to be JSON. The fault
stands at its place in the document, so a reader that goes through it in the order of the text comes
upon the first fault that concerns it: one that wants a number and finds an object never looks
inside.

Every value is a document without faults (`Document.ofJson`). A value is taken out of a document by
`Document.toJson`; `Document.skip` passes over one.
-/

namespace FirewallOrder.Json

/-- How the items of an array or the members of an object end. -/
inductive Ending
  | closed
  | broken (flaw : Flaw)
  deriving DecidableEq, Repr

/-- What stands where an object's member has its name. -/
inductive Key
  | name (s : String)
  | flawed (flaw : Flaw)
  /-- No text: the document that goes with this key is what stands in its place. -/
  | stray
  deriving DecidableEq, Repr

/-- A text in JSON as far as it can be read. -/
inductive Document
  | null
  | bool (b : Bool)
  | number (n : Except Flaw JsonNumber)
  | str (s : Except Flaw String)
  | arr (items : List Document) (ending : Ending)
  | obj (members : List (Key × Document)) (ending : Ending)
  /-- No value begins here, or a misspelt one. -/
  | broken (fault : Fault)
  /-- The place of a value is not reached. -/
  | missing (fault : Fault)

/-- Where a document comes from. A text may nest its arrays and objects only so deep, a value may
nest them as it likes. -/
inductive Origin
  | text (room : Nat)
  | value
  deriving DecidableEq, Repr

namespace Origin

/-- A whole text: at most 127 arrays and objects may be open at a time. -/
def wholeText : Origin := .text 127

/-- The origin of what stands inside an array or object that is opened here. -/
def inside : Origin → Except Fault Origin
  | .value => .ok .value
  | .text 0 => .error .tooDeep
  | .text (room + 1) => .ok (.text room)

end Origin

namespace Document

/-! ## Values as documents -/

mutual

/-- The document of a value. -/
def ofJson : Json → Document
  | .null => .null
  | .bool b => .bool b
  | .number n => .number (.ok n)
  | .str s => .str (.ok s)
  | .arr items => .arr (ofItems items) .closed
  | .obj members => .obj (ofMembers members) .closed

def ofItems : List Json → List Document
  | [] => []
  | x :: xs => ofJson x :: ofItems xs

def ofMembers : List (String × Json) → List (Key × Document)
  | [] => []
  | (k, x) :: xs => (.name k, ofJson x) :: ofMembers xs

end

/-! ## Taking the value out -/

/-- The fault for a reader that wants what stands here. -/
def readFlawed {α : Type} : Except Flaw α → Except Fault α
  | .ok a => .ok a
  | .error flaw => .error flaw.reading

def readEnding : Ending → Except Fault Unit
  | .closed => .ok ()
  | .broken flaw => .error flaw.reading

mutual

/-- The value that the document says, in canonical form, or the first fault. -/
def toJson (origin : Origin) : Document → Except Fault Json
  | null => .ok .null
  | bool b => .ok (.bool b)
  | number n => (readFlawed n).map .number
  | str s => (readFlawed s).map .str
  | arr items ending => do
    let inner ← origin.inside
    let values ← toItems inner items
    readEnding ending
    pure (.arr values)
  | obj members ending => do
    let inner ← origin.inside
    let values ← toMembers inner members
    readEnding ending
    pure (.obj (sortMembers values))
  | broken fault => .error fault
  | missing fault => .error fault

def toItems (origin : Origin) : List Document → Except Fault (List Json)
  | [] => .ok []
  | x :: xs => do
    let value ← toJson origin x
    let values ← toItems origin xs
    pure (value :: values)

def toMembers (origin : Origin) : List (Key × Document) → Except Fault (List (String × Json))
  | [] => .ok []
  | (.name k, x) :: xs => do
    let value ← toJson origin x
    let values ← toMembers origin xs
    pure ((k, value) :: values)
  | (.flawed flaw, _) :: _ => .error flaw.reading
  | (.stray, _) :: _ => .error .keyIsNoString

end

/-! ## Passing over -/

/-- The fault for a reader that passes over what stands here. -/
def skipFlawed {α : Type} : Except Flaw α → Except Fault Unit
  | .ok _ => .ok ()
  | .error flaw => flaw.skipping.elim (.ok ()) .error

def skipEnding : Ending → Except Fault Unit
  | .closed => .ok ()
  | .broken flaw => flaw.skipping.elim (.ok ()) .error

mutual

/-- The first fault that stops even a reader that does not want the value. -/
def skip : Document → Except Fault Unit
  | null => .ok ()
  | bool _ => .ok ()
  | number n => skipFlawed n
  | str s => skipFlawed s
  | arr items ending => do
    skipItems items
    skipEnding ending
  | obj members ending => do
    skipMembers members
    skipEnding ending
  | broken fault => .error fault
  | missing fault => .error fault

def skipItems : List Document → Except Fault Unit
  | [] => .ok ()
  | x :: xs => do
    skip x
    skipItems xs

def skipMembers : List (Key × Document) → Except Fault Unit
  | [] => .ok ()
  | (.name _, x) :: xs => do
    skip x
    skipMembers xs
  | (.flawed flaw, x) :: xs =>
    match flaw.skipping with
    | some fault => .error fault
    | none => do
      skip x
      skipMembers xs
  | (.stray, _) :: _ => .error .keyIsNoString

end

/-! ## Laws -/

mutual

/-- A value can be taken out of its document again, in canonical form. -/
theorem toJson_ofJson : (v : Json) → toJson .value (ofJson v) = .ok v.canonicalize
  | .null | .bool _ | .number _ | .str _ => by
    simp [ofJson, toJson, canonicalize, readFlawed, Except.map]
  | .arr items => by
    simp [ofJson, toJson, canonicalize, Origin.inside, toItems_ofItems items, readEnding, bind,
      Except.bind, pure, Except.pure]
  | .obj members => by
    simp [ofJson, toJson, canonicalize, Origin.inside, toMembers_ofMembers members,
      readEnding, bind, Except.bind, pure, Except.pure]

theorem toItems_ofItems : (items : List Json) →
    toItems .value (ofItems items) = .ok (canonicalizeItems items)
  | [] => by simp [ofItems, toItems, canonicalizeItems]
  | x :: xs => by
    simp [ofItems, toItems, canonicalizeItems, toJson_ofJson x, toItems_ofItems xs, bind,
      Except.bind, pure, Except.pure]

theorem toMembers_ofMembers : (members : List (String × Json)) →
    toMembers .value (ofMembers members) = .ok (canonicalizeMembers members)
  | [] => by simp [ofMembers, toMembers, canonicalizeMembers]
  | (k, x) :: xs => by
    simp [ofMembers, toMembers, canonicalizeMembers, toJson_ofJson x, toMembers_ofMembers xs, bind,
      Except.bind, pure, Except.pure]

end

end Document

end FirewallOrder.Json
