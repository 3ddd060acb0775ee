import FirewallOrder.Json.Decoder
/-!
# Records

A record is an object with known members, its *fields*. It is read member by member into a draft,
and when all are read the draft is finished. A field must not come twice; what becomes of a member
that is no field, each kind of record says for itself.

A record may also be given as an array of its fields in their order. Fields at the end may be left
out there if they are `omissible`.
-/

namespace FirewallOrder.Json

/-- A field of a record: how it is read into the draft `δ`, and whether the draft has it already. -/
structure Field (δ : Type) where
  name : String
  omissible : Bool
  given : δ → Bool
  read : Origin → Document → δ → Except DecodeError δ

/-- The field that a decoder reads and `set` puts into the draft, where `get` finds it. -/
def Field.ofDecoder {δ β : Type} (name : String) (omissible : Bool) (decode : Decoder β)
    (get : δ → Option β) (set : δ → β → δ) : Field δ where
  name := name
  omissible := omissible
  given := fun draft => (get draft).isSome
  read := fun origin document draft => (decode origin document).map (set draft)

/-- What becomes of a member that is no field. -/
inductive Surplus (δ : Type)
  | refused
  | passedOver
  | kept (store : δ → String → Json → δ)

/-- A kind of record, read into a draft `δ` and finished to an `α`. -/
structure Record (δ α : Type) where
  name : String
  start : δ
  fields : List (Field δ)
  surplus : Surplus δ
  finish : δ → Except Mismatch α

namespace Record

variable {δ α : Type}

/-- A member into the draft. -/
def readMember (r : Record δ α) (origin : Origin) (draft : δ) (key : Key) (value : Document) :
    Except DecodeError δ :=
  match key with
  | .flawed flaw => .error (.text flaw.reading)
  | .stray => .error (.text .keyIsNoString)
  | .name name =>
    match r.fields.find? fun field => field.name == name with
    | some field =>
      if field.given draft then .error (.data (.repeatedField name))
      else field.read origin value draft
    | none =>
      match r.surplus with
      | .refused => .error (.data (.unknownField name (r.fields.map (·.name))))
      | .passedOver => (liftFault value.skip).map fun _ => draft
      | .kept store => (Decoder.json origin value).map (store draft name)

/-- The members into the draft, one after the other. -/
def readMembers (r : Record δ α) (origin : Origin) (draft : δ) (members : List (Key × Document)) :
    Except DecodeError δ :=
  members.foldlM (fun draft member => r.readMember origin draft member.1 member.2) draft

/-- The fault behind the last field of a record in an array, in a text. -/
def faultBehind : List Document → Ending → Option Fault
  | [], .closed => none
  | [], .broken flaw =>
    some (match flaw.reading with
      | .endsInArray => .endsInArray
      | .trailingComma => .trailingComma
      | _ => .trailingCharacters)
  | _ :: _, _ => some .trailingCharacters

/-- The items into the draft, a field for each; `place` is the place of the next one. -/
def readItems (r : Record δ α) (origin : Origin) (ending : Ending) :
    Nat → List (Field δ) → List Document → δ → Except DecodeError δ
  | place, [], items, draft =>
    match origin with
    | .value =>
      if items.isEmpty then .ok draft
      else .error (.data (.length (place + items.length) "fewer elements in array"))
    | .text _ =>
      match faultBehind items ending with
      | none => .ok draft
      | some fault => .error (.text fault)
  | place, field :: fields, item :: items, draft => do
    let draft ← field.read origin item draft
    r.readItems origin ending (place + 1) fields items draft
  | place, field :: fields, [], draft => do
    liftFault (Document.readEnding ending)
    if field.omissible then r.readItems origin ending (place + 1) fields [] draft
    else
      let n := r.fields.length
      throw (.data (.length place
        ("struct " ++ r.name ++ " with " ++ toString n ++
          (if n = 1 then " element" else " elements"))))

/-- A mismatch, as what stops a decoder. -/
def liftMismatch {β : Type} : Except Mismatch β → Except DecodeError β
  | .ok b => .ok b
  | .error m => .error (.data m)

/-- The decoder of a kind of record. -/
def decode (r : Record δ α) : Decoder α
  | origin, .obj members ending => do
    let inner ← liftFault origin.inside
    let draft ← r.readMembers inner r.start members
    liftFault (Document.readEnding ending)
    liftMismatch (r.finish draft)
  | origin, .arr items ending =>
    match r.surplus with
    | .kept _ => .error (.data (.kind .arr ("struct " ++ r.name)))
    | _ => do
      let inner ← liftFault origin.inside
      let draft ← r.readItems inner ending 0 r.fields items r.start
      liftMismatch (r.finish draft)
  | _, document => .error (mismatch ("struct " ++ r.name) document)

end Record

/-- The value of a field that must be there. -/
def require {β : Type} (name : String) : Option β → Except Mismatch β
  | some b => .ok b
  | none => .error (.missingField name)

end FirewallOrder.Json
