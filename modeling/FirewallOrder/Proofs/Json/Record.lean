import FirewallOrder.Json.Record
import FirewallOrder.Proofs.Json.Decoder

/-!
# Which texts give a record

A record is read from a text if all that stands there is legible (`Record.Legible`) and every field
holds at most one value that can be decoded (`Slot.Holds`). An array gives the same record as the
object with its items under the names of the fields (`Record.Lays`), so that both are settled by
what is proved of members.

That a field keeps to its own place in the draft is a property of each kind of record
(`Record.Slot`).
-/

namespace FirewallOrder.Json

/-! ## Parts of documents -/

@[simp] theorem Record.liftMismatch_eq_ok_iff {α : Type} {x : Except Mismatch α} {a : α} :
    Record.liftMismatch x = .ok a ↔ x = .ok a := by
  cases x <;> simp [Record.liftMismatch]

@[simp] theorem require_eq_ok_iff {β : Type} {name : String} {found : Option β} {b : β} :
    require name found = .ok b ↔ found = some b := by
  cases found <;> simp [require]

/-- The values of all members of this name, in their order. -/
def named (name : String) (members : List (Key × Document)) : List Document :=
  (members.filter fun m => m.1 = .name name).map (·.2)

section Named

variable {name : String} {key : Key} {document : Document} {members : List (Key × Document)}

@[simp] theorem named_cons_self :
    named name ((.name name, document) :: members) = document :: named name members := by
  simp [named]

theorem named_cons_of_ne (other : key ≠ .name name) :
    named name ((key, document) :: members) = named name members := by
  simp [named, other]

theorem mem_named_iff : document ∈ named name members ↔ (.name name, document) ∈ members := by
  simp [named]

theorem named_eq_nil_iff : named name members = [] ↔
    ∀ document, (.name name, document) ∉ members := by
  rw [List.eq_nil_iff_forall_not_mem]
  exact forall_congr' fun document => not_congr mem_named_iff

/-- If all keys are different, a member is the only one of its name. -/
theorem named_eq_singleton (distinct : (members.map (·.1)).Nodup)
    (present : (.name name, document) ∈ members) : named name members = [document] := by
  induction members with
  | nil => cases present
  | cons m members ih =>
    obtain ⟨key, first⟩ := m
    rw [List.map_cons, List.nodup_cons] at distinct
    by_cases own : key = .name name
    · subst own
      have others : named name members = [] :=
        named_eq_nil_iff.2 fun _ member => distinct.1 (List.mem_map.2 ⟨_, member, rfl⟩)
      rcases List.mem_cons.1 present with same | member
      · cases same
        rw [named_cons_self, others]
      · exact absurd member (named_eq_nil_iff.1 others document)
    · rw [named_cons_of_ne own]
      refine ih distinct.2 ((List.mem_cons.1 present).resolve_left fun same => own ?_)
      exact (congrArg Prod.fst same).symm

end Named

/-! ## Fields and their places -/

/-- Reading the field does not touch this place in the draft. -/
def Field.Spares {δ β : Type} (field : Field δ) (get : δ → Option β) : Prop :=
  ∀ origin document d d', field.read origin document d = .ok d' → get d' = get d

theorem Field.spares_ofDecoder {δ β γ : Type} {name : String} {omissible : Bool}
    {decode : Decoder β} {get : δ → Option β} {set : δ → β → δ} {get' : δ → Option γ}
    (apart : ∀ d v, get' (set d v) = get' d) :
    (Field.ofDecoder name omissible decode get set).Spares get' := by
  intro origin document d d' h
  obtain ⟨v, -, rfl⟩ := map_eq_ok_iff.1 h
  exact apart d v

theorem Field.spared_singleton {δ β γ : Type} {name : String} {omissible : Bool}
    {decode : Decoder β} {get : δ → Option β} {set : δ → β → δ} {get' : δ → Option γ}
    (apart : ∀ d v, get' (set d v) = get' d) :
    ∀ other ∈ [Field.ofDecoder name omissible decode get set], other.Spares get' :=
  List.forall_mem_singleton.2 (spares_ofDecoder apart)

theorem Field.spared_cons {δ β γ : Type} {name : String} {omissible : Bool} {decode : Decoder β}
    {get : δ → Option β} {set : δ → β → δ} {get' : δ → Option γ} {others : List (Field δ)}
    (apart : ∀ d v, get' (set d v) = get' d) (rest : ∀ other ∈ others, other.Spares get') :
    ∀ other ∈ Field.ofDecoder name omissible decode get set :: others, other.Spares get' :=
  List.forall_mem_cons.2 ⟨spares_ofDecoder apart, rest⟩

/-- The field takes this document. -/
def Field.Takes {δ : Type} (field : Field δ) (origin : Origin) (document : Document) : Prop :=
  ∀ d, ∃ d', field.read origin document d = .ok d'

theorem Field.takes_ofDecoder {δ β : Type} {name : String} {omissible : Bool} {decode : Decoder β}
    {get : δ → Option β} {set : δ → β → δ} {origin : Origin} {document : Document} {v : β}
    (decoded : decode origin document = .ok v) :
    (Field.ofDecoder name omissible decode get set).Takes origin document :=
  fun d => ⟨set d v, map_eq_ok_iff.2 ⟨v, decoded, rfl⟩⟩

namespace Record

variable {δ α : Type}

/-- A field of a record with a place of its own in the draft. -/
structure Slot (r : Record δ α) (β : Type) where
  name : String
  omissible : Bool
  decode : Decoder β
  get : δ → Option β
  set : δ → β → δ
  find : r.fields.find? (fun field => field.name == name) =
    some (.ofDecoder name omissible decode get set)
  get_start : get r.start = none
  get_set : ∀ d v, get (set d v) = some v
  get_read : ∀ field ∈ r.fields, field.name = name ∨ field.Spares get
  get_store : ∀ store, r.surplus = .kept store → ∀ d key value, get (store d key value) = get d

/-- The field of a place. -/
def Slot.field {r : Record δ α} {β : Type} (s : r.Slot β) : Field δ :=
  .ofDecoder s.name s.omissible s.decode s.get s.set

/-- A field has a place of its own if no other field touches it. -/
def Slot.ofFields {r : Record δ α} {β : Type} {name : String} {omissible : Bool}
    {decode : Decoder β} {get : δ → Option β} {set : δ → β → δ} (before : List (Field δ))
    {after : List (Field δ)}
    (fields : r.fields = before ++ .ofDecoder name omissible decode get set :: after)
    (fresh : ∀ other ∈ before, other.name ≠ name)
    (spared : ∀ other ∈ before ++ after, other.Spares get) (get_start : get r.start = none)
    (get_set : ∀ d v, get (set d v) = some v)
    (get_store : ∀ store, r.surplus = .kept store →
      ∀ d key value, get (store d key value) = get d) : r.Slot β where
  name := name
  omissible := omissible
  decode := decode
  get := get
  set := set
  find := by
    have none_ : before.find? (fun other => other.name == name) = none :=
      List.find?_eq_none.2 fun other hother => by simpa using fresh other hother
    rw [fields, List.find?_append, none_]
    simp [Field.ofDecoder]
  get_start := get_start
  get_set := get_set
  get_read := by
    rw [fields]
    intro field hfield
    rcases List.mem_append.1 hfield with hbefore | hafter
    · exact .inr (spared field (List.mem_append_left _ hbefore))
    · rcases List.mem_cons.1 hafter with rfl | hafter
      · exact .inl rfl
      · exact .inr (spared field (List.mem_append_right _ hafter))
  get_store := get_store

/-- All fields have names and places of their own. -/
structure Slotted (r : Record δ α) : Prop where
  nodup : (r.fields.map (·.name)).Nodup
  slot : ∀ field ∈ r.fields, ∃ (β : Type) (s : r.Slot β), field = s.field

/-- What a field holds among these members: nothing if none has its name, or what the only one of
its name says. -/
def Slot.Holds {r : Record δ α} {β : Type} (s : r.Slot β) (origin : Origin)
    (members : List (Key × Document)) : Option β → Prop
  | none => named s.name members = []
  | some v => ∃ document, named s.name members = [document] ∧ s.decode origin document = .ok v

/-- A member can be read that is no field. -/
def Passes (r : Record δ α) (origin : Origin) (document : Document) : Prop :=
  match r.surplus with
  | .refused => False
  | .passedOver => document.skip = .ok ()
  | .kept _ => ∃ value, document.toJson origin = .ok value

/-- The member has a name, and can be read if it is no field. -/
def Legible (r : Record δ α) (origin : Origin) (member : Key × Document) : Prop :=
  ∃ name, member.1 = .name name ∧ (name ∈ r.fields.map (·.name) ∨ r.Passes origin member.2)

variable {r : Record δ α} {β : Type} {origin : Origin} {key : Key} {document : Document}
  {members : List (Key × Document)} {d d' : δ}

theorem passes_of_passedOver (passed : r.surplus = .passedOver) :
    r.Passes origin document ↔ document.skip = .ok () := by
  simp only [Passes, passed]

theorem passes_of_kept {store : δ → String → Json → δ} (kept : r.surplus = .kept store) :
    r.Passes origin document ↔ ∃ value, document.toJson origin = .ok value := by
  simp only [Passes, kept]

/-! ## One member -/

/-- The ways in which a member is read. -/
inductive Step (r : Record δ α) (origin : Origin) (name : String) (document : Document) (d : δ) :
    δ → Prop
  | field {field : Field δ} {d' : δ}
    (found : r.fields.find? (fun field => field.name == name) = some field)
    (free : field.given d = false) (read : field.read origin document d = .ok d') :
    Step r origin name document d d'
  | passed (other : r.fields.find? (fun field => field.name == name) = none)
    (surplus : r.surplus = .passedOver) (skipped : document.skip = .ok ()) :
    Step r origin name document d d
  | kept {store : δ → String → Json → δ} {value : Json}
    (other : r.fields.find? (fun field => field.name == name) = none)
    (surplus : r.surplus = .kept store) (taken : document.toJson origin = .ok value) :
    Step r origin name document d (store d name value)

theorem readMember_eq_ok_iff :
    r.readMember origin d key document = .ok d' ↔
      ∃ name, key = .name name ∧ r.Step origin name document d d' := by
  constructor
  · intro h
    cases key with
    | flawed flaw => cases h
    | stray => cases h
    | name name =>
      refine ⟨name, rfl, ?_⟩
      simp only [readMember] at h
      cases found : r.fields.find? fun field => field.name == name with
      | some field =>
        simp only [found] at h
        cases free : field.given d with
        | true =>
          simp only [free, if_true] at h
          cases h
        | false =>
          simp only [free] at h
          exact .field found free h
      | none =>
        simp only [found] at h
        cases surplus : r.surplus with
        | refused =>
          simp only [surplus] at h
          cases h
        | passedOver =>
          simp only [surplus] at h
          obtain ⟨_, skipped, rfl⟩ := map_eq_ok_iff.1 h
          exact .passed found surplus (liftFault_eq_ok_iff.1 skipped)
        | kept store =>
          simp only [surplus] at h
          obtain ⟨value, taken, rfl⟩ := map_eq_ok_iff.1 h
          exact .kept found surplus (liftFault_eq_ok_iff.1 taken)
  · rintro ⟨name, rfl, reads⟩
    cases reads with
    | field found free read =>
      simp only [readMember, found, free, read, Bool.false_eq_true, if_false]
    | passed other surplus skipped =>
      simp only [readMember, other, surplus, skipped, liftFault, Except.map]
    | kept other surplus taken =>
      simp only [readMember, other, surplus, Decoder.json, taken, liftFault, Except.map]

theorem Slot.readMember_eq (s : r.Slot β) :
    r.readMember origin d (.name s.name) document =
      if (s.get d).isSome then .error (.data (.repeatedField s.name))
      else (s.decode origin document).map (s.set d) := by
  simp only [readMember, s.find]
  rfl

/-- A member of another name leaves the place of a field as it is. -/
theorem Slot.get_of_readMember (s : r.Slot β) (h : r.readMember origin d key document = .ok d')
    (other : key ≠ .name s.name) : s.get d' = s.get d := by
  obtain ⟨name, rfl, step⟩ := readMember_eq_ok_iff.1 h
  cases step with
  | passed => rfl
  | kept _ surplus => exact s.get_store _ surplus d name _
  | @field field _ found free read =>
    have name_eq : field.name = name := by simpa using List.find?_some found
    rcases s.get_read field (List.mem_of_find?_eq_some found) with same | spares
    · exact absurd (congrArg Key.name (name_eq.symm.trans same)) other
    · exact spares _ _ _ _ read

theorem legible_of_readMember (h : r.readMember origin d key document = .ok d') :
    r.Legible origin (key, document) := by
  obtain ⟨name, rfl, step⟩ := readMember_eq_ok_iff.1 h
  refine ⟨name, rfl, ?_⟩
  cases step with
  | passed _ surplus skipped => exact .inr ((passes_of_passedOver surplus).2 skipped)
  | kept _ surplus taken => exact .inr ((passes_of_kept surplus).2 ⟨_, taken⟩)
  | field found =>
    exact .inl
      (List.mem_map.2 ⟨_, List.mem_of_find?_eq_some found, by simpa using List.find?_some found⟩)

/-! ## All members -/

theorem readMembers_cons {m : Key × Document} :
    r.readMembers origin d (m :: members) = .ok d' ↔
      ∃ e, r.readMember origin d m.1 m.2 = .ok e ∧ r.readMembers origin e members = .ok d' := by
  rw [readMembers, List.foldlM_cons]
  exact bind_eq_ok_iff

theorem legible_of_readMembers (h : r.readMembers origin d members = .ok d') :
    ∀ m ∈ members, r.Legible origin m := by
  induction members generalizing d with
  | nil => exact fun _ hm => nomatch hm
  | cons m members ih =>
    obtain ⟨e, hm, h⟩ := readMembers_cons.1 h
    exact List.forall_mem_cons.2 ⟨legible_of_readMember hm, ih h⟩

/-- Of the members one at most has the name of a field, and none if its place was taken before. -/
theorem Slot.of_readMembers (s : r.Slot β) (h : r.readMembers origin d members = .ok d') :
    (s.Holds origin members none ∧ s.get d' = s.get d) ∨
      s.get d = none ∧ ∃ v, s.Holds origin members (some v) ∧ s.get d' = some v := by
  induction members generalizing d with
  | nil =>
    obtain rfl : d = d' := Except.ok.inj h
    exact .inl ⟨rfl, rfl⟩
  | cons m members ih =>
    obtain ⟨key, document⟩ := m
    obtain ⟨e, hm, h⟩ := readMembers_cons.1 h
    by_cases own : key = .name s.name
    · subst own
      simp only [s.readMember_eq] at hm
      split at hm
      · cases hm
      · next free =>
        obtain ⟨v, decoded, rfl⟩ := map_eq_ok_iff.1 hm
        rcases ih h with ⟨none_, same⟩ | ⟨taken, -⟩
        · refine .inr ⟨by simpa using free, v, ⟨document, ?_, decoded⟩, same.trans (s.get_set d v)⟩
          rw [named_cons_self, none_]
        · rw [s.get_set] at taken
          cases taken
    · have kept := s.get_of_readMember hm own
      rw [← kept]
      simpa only [Holds, named_cons_of_ne own] using ih h

theorem Slot.holds_get (s : r.Slot β) (h : r.readMembers origin r.start members = .ok d) :
    s.Holds origin members (s.get d) := by
  rcases s.of_readMembers h with ⟨none_, same⟩ | ⟨-, v, holds, same⟩
  · rw [same, s.get_start]
    exact none_
  · rw [same]
    exact holds

theorem exists_readMember (legible : r.Legible origin (key, document))
    (free : ∀ field ∈ r.fields, key = .name field.name → field.given d = false)
    (takes : ∀ field ∈ r.fields, key = .name field.name →
      ∃ d', field.read origin document d = .ok d') :
    ∃ d', r.readMember origin d key document = .ok d' := by
  obtain ⟨name, rfl, known⟩ := legible
  cases found : r.fields.find? fun field => field.name == name with
  | some field =>
    have hfield := List.mem_of_find?_eq_some found
    obtain rfl : field.name = name := by simpa using List.find?_some found
    obtain ⟨d', h⟩ := takes field hfield rfl
    exact ⟨d', by simp [readMember, found, free field hfield rfl, h]⟩
  | none =>
    rcases known with known | passes
    · obtain ⟨field, hfield, rfl⟩ := List.mem_map.1 known
      simpa using List.find?_eq_none.1 found field hfield
    · cases surplus : r.surplus with
      | refused =>
        simp only [Passes, surplus] at passes
      | passedOver =>
        have skipped := (passes_of_passedOver surplus).1 passes
        exact ⟨d, by simp [readMember, found, surplus, skipped, liftFault, Except.map]⟩
      | kept store =>
        obtain ⟨value, taken⟩ := (passes_of_kept surplus).1 passes
        exact ⟨store d name value, by
          simp [readMember, found, surplus, Decoder.json, taken, liftFault, Except.map]⟩

/-- Members can be read if they are legible, and every field that has nothing yet takes the only one
of its name. -/
theorem exists_readMembers (slotted : r.Slotted) (legible : ∀ m ∈ members, r.Legible origin m)
    (free : ∀ field ∈ r.fields, named field.name members = [] ∨ field.given d = false)
    (takes : ∀ field ∈ r.fields, named field.name members = [] ∨
      ∃ document, named field.name members = [document] ∧ field.Takes origin document) :
    ∃ d', r.readMembers origin d members = .ok d' := by
  induction members generalizing d with
  | nil => exact ⟨d, rfl⟩
  | cons m members ih =>
    obtain ⟨key, document⟩ := m
    obtain ⟨first, legible⟩ := List.forall_mem_cons.1 legible
    -- A field whose name stands first takes that member, and no other member has its name.
    have own : ∀ field ∈ r.fields, key = .name field.name →
        named field.name members = [] ∧ field.given d = false ∧ field.Takes origin document := by
      rintro field hfield rfl
      have hfree := free field hfield
      have htakes := takes field hfield
      rw [named_cons_self] at hfree htakes
      obtain ⟨_, only, takes⟩ := htakes.resolve_left (List.cons_ne_nil _ _)
      obtain ⟨rfl, none_⟩ := List.cons.inj only
      exact ⟨none_, hfree.resolve_left (List.cons_ne_nil _ _), takes⟩
    obtain ⟨e, hm⟩ : ∃ e, r.readMember origin d key document = .ok e := by
      refine exists_readMember first (fun field hfield same => (own field hfield same).2.1) ?_
      intro field hfield same
      exact (own field hfield same).2.2 d
    obtain ⟨d', h⟩ : ∃ d', r.readMembers origin e members = .ok d' := by
      refine ih legible (fun field hfield => ?_) fun field hfield => ?_
      · by_cases same : key = .name field.name
        · exact .inl (own field hfield same).1
        · have hfree := free field hfield
          rw [named_cons_of_ne same] at hfree
          obtain ⟨β, s, rfl⟩ := slotted.slot field hfield
          refine hfree.imp_right fun given => ?_
          exact (congrArg Option.isSome (s.get_of_readMember hm same)).trans given
      · by_cases same : key = .name field.name
        · exact .inl (own field hfield same).1
        · have htakes := takes field hfield
          rwa [named_cons_of_ne same] at htakes
    exact ⟨d', readMembers_cons.2 ⟨e, hm, h⟩⟩

/-- The members have names, and those of other names than these can be passed over. -/
def Familiar (names : List String) (members : List (Key × Document)) : Prop :=
  ∀ m ∈ members, ∃ name, m.1 = .name name ∧ (name ∈ names ∨ m.2.skip = .ok ())

theorem legible_iff_familiar (passed : r.surplus = .passedOver) :
    (∀ m ∈ members, r.Legible origin m) ↔ Familiar (r.fields.map (·.name)) members := by
  simp only [Legible, Passes, passed, Familiar]

theorem exists_draft (slotted : r.Slotted) (passed : r.surplus = .passedOver)
    (familiar : Familiar (r.fields.map (·.name)) members)
    (takes : ∀ field ∈ r.fields, named field.name members = [] ∨
      ∃ document, named field.name members = [document] ∧ field.Takes origin document) :
    ∃ d, r.readMembers origin r.start members = .ok d := by
  refine exists_readMembers slotted ((legible_iff_familiar passed).2 familiar)
    (fun field hfield => .inr ?_) takes
  obtain ⟨β, s, rfl⟩ := slotted.slot field hfield
  exact congrArg Option.isSome s.get_start

theorem Slot.Holds.unique {s : r.Slot β} {v v' : Option β} (h : s.Holds origin members v)
    (h' : s.Holds origin members v') : v = v' := by
  cases v with
  | none =>
    cases v' with
    | none => rfl
    | some _ =>
      obtain ⟨_, one, -⟩ := h'
      cases h.symm.trans one
  | some _ =>
    obtain ⟨document, one, decoded⟩ := h
    cases v' with
    | none => cases one.symm.trans h'
    | some _ =>
      obtain ⟨document', one', decoded'⟩ := h'
      cases one.symm.trans one'
      exact congrArg some (Except.ok.inj (decoded.symm.trans decoded'))

theorem Slot.Holds.takes {s : r.Slot β} {v : Option β} (h : s.Holds origin members v) :
    named s.field.name members = [] ∨
      ∃ document, named s.field.name members = [document] ∧ s.field.Takes origin document := by
  cases v with
  | none => exact .inl h
  | some v =>
    obtain ⟨document, one, decoded⟩ := h
    exact .inr ⟨document, one, Field.takes_ofDecoder decoded⟩

/-! ## Objects and arrays -/

/-- The document gives a record these members: it is the object with them, or an array with their
values in the order of the fields, where fields at the end are missing only if they may be. -/
inductive Lays (r : Record δ α) : Document → List (Key × Document) → Prop
  | obj (members : List (Key × Document)) : r.Lays (.obj members .closed) members
  | arr {items : List Document} (loose : ∀ store, r.surplus ≠ .kept store)
    (few : items.length ≤ r.fields.length)
    (omitted : ∀ field ∈ r.fields.drop items.length, field.omissible = true) :
    r.Lays (.arr items .closed) ((r.fields.zip items).map fun p => (.name p.1.name, p.2))

theorem faultBehind_eq_none_iff {items : List Document} {ending : Ending} :
    faultBehind items ending = none ↔ items = [] ∧ ending = .closed := by
  cases items <;> cases ending <;> simp [faultBehind]

theorem readItems_cons_cons {place : Nat} {ending : Ending} {field : Field δ}
    {fields : List (Field δ)} {item : Document} {items : List Document} :
    r.readItems origin ending place (field :: fields) (item :: items) d = .ok d' ↔
      ∃ e, field.read origin item d = .ok e ∧
        r.readItems origin ending (place + 1) fields items e = .ok d' := by
  rw [readItems]
  exact bind_eq_ok_iff

theorem readItems_cons_nil {place : Nat} {ending : Ending} {field : Field δ}
    {fields : List (Field δ)} : r.readItems origin ending place (field :: fields) [] d = .ok d' ↔
      field.omissible = true ∧ ending = .closed ∧
      r.readItems origin ending (place + 1) fields [] d = .ok d' := by
  rw [readItems, bind_eq_ok_iff]
  by_cases omissible : field.omissible = true
  · simp [omissible]
  · simp only [omissible]
    constructor
    · rintro ⟨_, -, h⟩
      cases h
    · rintro ⟨h, -⟩
      cases h

/-- Behind the last field nothing stands. In a value an array always ends as it should, and it is
not asked whether it does. -/
theorem readItems_nil {place : Nat} {ending : Ending} {items : List Document}
    (ends : origin = .value → ending = .closed) :
    r.readItems origin ending place [] items d = .ok d' ↔
      ending = .closed ∧ items = [] ∧ d = d' := by
  cases origin with
  | value =>
    rw [ends rfl]
    cases items <;> simp [readItems]
  | text room =>
    simp only [readItems]
    cases behind : faultBehind items ending with
    | none =>
      obtain ⟨rfl, rfl⟩ := faultBehind_eq_none_iff.1 behind
      simp
    | some fault =>
      constructor
      · intro h
        cases h
      · rintro ⟨closed, empty, -⟩
        cases behind.symm.trans (faultBehind_eq_none_iff.2 ⟨empty, closed⟩)

/-- Items are read as the members of the object with the names of the fields. -/
theorem readItems_eq_ok_iff {place : Nat} {ending : Ending} {fields : List (Field δ)}
    {items : List Document} (ends : origin = .value → ending = .closed)
    (distinct : (fields.map (·.name)).Nodup)
    (slotted : ∀ field ∈ fields, ∃ (β : Type) (s : r.Slot β), s.get d = none ∧ field = s.field) :
    r.readItems origin ending place fields items d = .ok d' ↔
      ending = .closed ∧ items.length ≤ fields.length ∧
        (∀ field ∈ fields.drop items.length, field.omissible = true) ∧
        r.readMembers origin d ((fields.zip items).map fun p => (.name p.1.name, p.2)) =
          .ok d' := by
  induction fields generalizing place items d with
  | nil =>
    rw [readItems_nil ends]
    simp [readMembers, pure, Except.pure]
  | cons field fields ih =>
    obtain ⟨⟨β, s, free, hfield⟩, slotted⟩ := List.forall_mem_cons.1 slotted
    rw [List.map_cons, List.nodup_cons] at distinct
    cases items with
    | nil =>
      rw [readItems_cons_nil, ih distinct.2 slotted]
      simp only [List.length_nil, List.drop_zero, List.forall_mem_cons, List.zip_nil_right,
        Nat.zero_le, true_and]
      constructor
      · rintro ⟨omissible, -, closed, omitted, h⟩
        exact ⟨closed, ⟨omissible, omitted⟩, h⟩
      · rintro ⟨closed, ⟨omissible, omitted⟩, h⟩
        exact ⟨omissible, closed, closed, omitted, h⟩
    | cons item items =>
      have first (e : δ) : field.read origin item d = .ok e ↔
          r.readMember origin d (.name field.name) item = .ok e := by
        rw [hfield, show s.field.name = s.name from rfl, s.readMember_eq, free]
        rfl
      -- The places of the other fields are still free.
      have rest {e : δ} (h : field.read origin item d = .ok e) : ∀ other ∈ fields,
          ∃ (β : Type) (s : r.Slot β), s.get e = none ∧ other = s.field := by
        intro other hother
        obtain ⟨γ, s', free', rfl⟩ := slotted other hother
        refine ⟨γ, s', ?_, rfl⟩
        rw [← free']
        refine s'.get_of_readMember ((first e).1 h) fun same => distinct.1 ?_
        exact List.mem_map.2 ⟨_, hother, (Key.name.inj same).symm⟩
      rw [readItems_cons_cons]
      simp only [List.zip_cons_cons, List.map_cons, readMembers_cons, List.length_cons,
        List.drop_succ_cons, Nat.add_le_add_iff_right]
      constructor
      · rintro ⟨e, hfirst, h⟩
        obtain ⟨closed, few, omitted, h⟩ := (ih distinct.2 (rest hfirst)).1 h
        exact ⟨closed, few, omitted, e, (first e).1 hfirst, h⟩
      · rintro ⟨closed, few, omitted, e, hfirst, h⟩
        have hread := (first e).2 hfirst
        exact ⟨e, hread, (ih distinct.2 (rest hread)).2 ⟨closed, few, omitted, h⟩⟩

theorem decode_members_eq_ok_iff {ending : Ending} {a : α} :
    r.decode origin (.obj members ending) = .ok a ↔
      ending = .closed ∧ ∃ inner d, origin.inside = .ok inner ∧
      r.readMembers inner r.start members = .ok d ∧ r.finish d = .ok a := by
  simp only [decode, bind_eq_ok_iff, liftFault_eq_ok_iff, liftMismatch_eq_ok_iff,
    readEnding_eq_ok_iff, exists_const]
  constructor
  · rintro ⟨inner, inside, d, hmembers, closed, hfinish⟩
    exact ⟨closed, inner, d, inside, hmembers, hfinish⟩
  · rintro ⟨closed, inner, d, inside, hmembers, hfinish⟩
    exact ⟨inner, inside, d, hmembers, closed, hfinish⟩

/-- An array ends as it should, or it is asked whether it does. -/
def Ends (inner : Origin) (document : Document) : Prop :=
  ∀ items ending, document = .arr items ending → inner = .value → ending = .closed

theorem ends_text {room : Nat} : Ends (.text room) document := fun _ _ _ h => nomatch h

theorem decode_arr_eq_ok_iff (slotted : r.Slotted) {inner : Origin}
    (inside : origin.inside = .ok inner) {items : List Document} {ending : Ending}
    (ends : inner = .value → ending = .closed) {a : α} :
    r.decode origin (.arr items ending) = .ok a ↔
      (∀ store, r.surplus ≠ .kept store) ∧ ending = .closed ∧ items.length ≤ r.fields.length ∧
        (∀ field ∈ r.fields.drop items.length, field.omissible = true) ∧
        ∃ d, r.readMembers inner r.start ((r.fields.zip items).map fun p => (.name p.1.name, p.2)) =
          .ok d ∧ r.finish d = .ok a := by
  have start : ∀ field ∈ r.fields, ∃ (β : Type) (s : r.Slot β),
      s.get r.start = none ∧ field = s.field := by
    intro field hfield
    obtain ⟨β, s, same⟩ := slotted.slot field hfield
    exact ⟨β, s, s.get_start, same⟩
  by_cases loose : ∀ store, r.surplus ≠ .kept store
  · have read : r.decode origin (.arr items ending) =
        r.readItems inner ending 0 r.fields items r.start >>= fun d =>
          liftMismatch (r.finish d) := by
      rw [decode, inside]
      cases surplus : r.surplus with
      | kept store => exact absurd surplus (loose store)
      | refused | passedOver => rfl
    rw [read, bind_eq_ok_iff]
    simp only [readItems_eq_ok_iff ends slotted.nodup start, liftMismatch_eq_ok_iff]
    constructor
    · rintro ⟨d, ⟨closed, few, omitted, hmembers⟩, hfinish⟩
      exact ⟨loose, closed, few, omitted, d, hmembers, hfinish⟩
    · rintro ⟨-, closed, few, omitted, d, hmembers, hfinish⟩
      exact ⟨d, ⟨closed, few, omitted, hmembers⟩, hfinish⟩
  · obtain ⟨store, kept⟩ := Classical.not_forall_not.1 loose
    simp [decode, kept]

/-- **Reading a record.** -/
theorem decode_eq_ok_iff (slotted : r.Slotted) {inner : Origin} (inside : origin.inside = .ok inner)
    (ends : Ends inner document) {a : α} :
    r.decode origin document = .ok a ↔
      ∃ members d, r.Lays document members ∧ r.readMembers inner r.start members = .ok d ∧
      r.finish d = .ok a := by
  constructor
  · intro h
    cases document with
    | obj members ending =>
      obtain ⟨rfl, inner', d, inside', hmembers, hfinish⟩ := decode_members_eq_ok_iff.1 h
      cases inside.symm.trans inside'
      exact ⟨members, d, .obj members, hmembers, hfinish⟩
    | arr items ending =>
      obtain ⟨loose, rfl, few, omitted, d, hmembers, hfinish⟩ :=
        (decode_arr_eq_ok_iff slotted inside (ends items ending rfl)).1 h
      exact ⟨_, d, .arr loose few omitted, hmembers, hfinish⟩
    | _ => cases h
  · rintro ⟨members, d, lays, hmembers, hfinish⟩
    cases lays with
    | obj => exact decode_members_eq_ok_iff.2 ⟨rfl, inner, d, inside, hmembers, hfinish⟩
    | @arr items loose few omitted =>
      refine (decode_arr_eq_ok_iff slotted inside (ends items _ rfl)).2 ?_
      exact ⟨loose, rfl, few, omitted, d, hmembers, hfinish⟩

theorem decode_single {room : Nat} {a : α} (s : r.Slot β) (fields : r.fields = [s.field])
    (passed : r.surplus = .passedOver) (finish : Option β → Except Mismatch α)
    (finishes : ∀ d, r.finish d = finish (s.get d)) :
    r.decode (.text (room + 1)) document = .ok a ↔
      ∃ members v, r.Lays document members ∧ Familiar [s.name] members ∧
      s.Holds (.text room) members v ∧ finish v = .ok a := by
  have names : r.fields.map (·.name) = [s.name] := by
    rw [fields]
    rfl
  have slotted : r.Slotted := by
    refine ⟨by simp [names], fun field hfield => ⟨β, s, ?_⟩⟩
    rw [fields] at hfield
    exact List.mem_singleton.1 hfield
  rw [decode_eq_ok_iff slotted rfl ends_text]
  constructor
  · rintro ⟨members, d, lays, hmembers, hfinish⟩
    have familiar := (legible_iff_familiar passed).1 (legible_of_readMembers hmembers)
    rw [names] at familiar
    rw [finishes] at hfinish
    exact ⟨members, _, lays, familiar, s.holds_get hmembers, hfinish⟩
  · rintro ⟨members, v, lays, familiar, holds, hfinish⟩
    obtain ⟨d, hmembers⟩ : ∃ d, r.readMembers (.text room) r.start members = .ok d := by
      refine exists_draft slotted passed (names ▸ familiar) fun field hfield => ?_
      rw [fields] at hfield
      obtain rfl := List.mem_singleton.1 hfield
      exact holds.takes
    refine ⟨members, d, lays, hmembers, ?_⟩
    rw [finishes, (s.holds_get hmembers).unique holds, hfinish]

/-- A record of two fields, which passes over everything else. -/
theorem decode_pair {room : Nat} {a : α} {γ : Type} (s : r.Slot β) (t : r.Slot γ)
    (apart : s.name ≠ t.name) (fields : r.fields = [s.field, t.field])
    (passed : r.surplus = .passedOver) (finish : Option β → Option γ → Except Mismatch α)
    (finishes : ∀ d, r.finish d = finish (s.get d) (t.get d)) :
    r.decode (.text (room + 1)) document = .ok a ↔ ∃ members v w, r.Lays document members ∧
      Familiar [s.name, t.name] members ∧ s.Holds (.text room) members v ∧
      t.Holds (.text room) members w ∧ finish v w = .ok a := by
  have names : r.fields.map (·.name) = [s.name, t.name] := by
    rw [fields]
    rfl
  have slotted : r.Slotted := by
    refine ⟨by simp [names, apart], fun field hfield => ?_⟩
    rw [fields] at hfield
    rcases List.mem_pair.1 hfield with rfl | rfl
    exacts [⟨β, s, rfl⟩, ⟨γ, t, rfl⟩]
  rw [decode_eq_ok_iff slotted rfl ends_text]
  constructor
  · rintro ⟨members, d, lays, hmembers, hfinish⟩
    have familiar := (legible_iff_familiar passed).1 (legible_of_readMembers hmembers)
    rw [names] at familiar
    rw [finishes] at hfinish
    exact ⟨members, _, _, lays, familiar, s.holds_get hmembers, t.holds_get hmembers, hfinish⟩
  · rintro ⟨members, v, w, lays, familiar, holds, holds', hfinish⟩
    obtain ⟨d, hmembers⟩ : ∃ d, r.readMembers (.text room) r.start members = .ok d := by
      refine exists_draft slotted passed (names ▸ familiar) fun field hfield => ?_
      rw [fields] at hfield
      rcases List.mem_pair.1 hfield with rfl | rfl
      exacts [holds.takes, holds'.takes]
    refine ⟨members, d, lays, hmembers, ?_⟩
    rw [finishes, (s.holds_get hmembers).unique holds,
      (t.holds_get hmembers).unique holds', hfinish]

end Record

end FirewallOrder.Json
