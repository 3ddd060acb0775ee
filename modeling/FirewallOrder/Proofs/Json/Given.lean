import FirewallOrder.Proofs.Json.Canonical
import FirewallOrder.Proofs.Json.Record

/-!
# Records given by values

A value gives a record values under the names of its fields (`Gives`): an object those of its
members, which have to be fields, and an array its items, one field after the other. A record that
refuses other members is decoded from what is given, and from nothing else
(`Record.exists_of_decodeValue`, `Record.decodeValue_of_gives`).
-/

namespace FirewallOrder.Json

/-- What a value in canonical form gives under these names: an object without other members, or an
array with at most as many items. -/
inductive Gives (names : List String) : Json → (String → Option Json) → Prop
  | obj {o : Object} (known : ∀ m ∈ o.members, m.1 ∈ names) : Gives names (.obj o.members) o.get?
  | arr {items : List Json} (few : items.length ≤ names.length) :
    Gives names (.arr items) fun name => items[names.idxOf name]?

/-! ## Members by name -/

section Named

variable {name : String} {δ : Type} {members : List (String × Json)} {fields : List (Field δ)}
  {items : List Document}

theorem named_map_eq_nil {ι : Type} {key : ι → String} {document : ι → Document} {xs : List ι}
    (others : ∀ x ∈ xs, key x ≠ name) :
    named name (xs.map fun x => (.name (key x), document x)) = [] := by
  rw [named_eq_nil_iff]
  intro other member
  obtain ⟨x, hx, same⟩ := List.mem_map.1 member
  exact others x hx (Key.name.inj (congrArg Prod.fst same))

/-- The only member of a name is the one that is found. -/
theorem named_ofMembers (distinct : (members.map (·.1)).Nodup) :
    named name (Document.ofMembers members) =
      ((member? name members).map Document.ofJson).toList := by
  induction members with
  | nil => rfl
  | cons m members ih =>
    obtain ⟨k, x⟩ := m
    rw [List.map_cons, List.nodup_cons] at distinct
    rw [Document.ofMembers, member?]
    by_cases same : k = name
    · subst same
      have others : named k (Document.ofMembers members) = [] := by
        rw [Document.ofMembers_eq_map]
        exact named_map_eq_nil fun m hm same => distinct.1 (List.mem_map.2 ⟨m, hm, same⟩)
      rw [named_cons_self, others, List.find?_cons_of_pos (by simp)]
      rfl
    · rw [named_cons_of_ne fun h => same (Key.name.inj h), ih distinct.2,
        List.find?_cons_of_neg (by simpa using same), member?]

/-- The item of a field has the place of the field. -/
theorem named_zip (distinct : (fields.map (·.name)).Nodup) (known : name ∈ fields.map (·.name)) :
    named name ((fields.zip items).map fun p => (.name p.1.name, p.2)) =
      (items[(fields.map (·.name)).idxOf name]?).toList := by
  induction fields generalizing items with
  | nil => cases known
  | cons field fields ih =>
    rw [List.map_cons, List.nodup_cons] at distinct
    cases items with
    | nil => simp [named]
    | cons item items =>
      rw [List.zip_cons_cons, List.map_cons, List.map_cons]
      by_cases same : field.name = name
      · subst same
        have others :
            named field.name ((fields.zip items).map fun p => (.name p.1.name, p.2)) = [] :=
          named_map_eq_nil fun p hp same =>
            distinct.1 (List.mem_map.2 ⟨p.1, (List.of_mem_zip hp).1, same⟩)
        rw [named_cons_self, others, List.idxOf_cons_self]
        rfl
      · rw [named_cons_of_ne fun h => same (Key.name.inj h), ih distinct.2 ?_,
          List.idxOf_cons_ne _ same]
        · rfl
        · exact (List.mem_cons.1 known).resolve_left fun h => same h.symm

end Named

namespace Record

variable {δ α β : Type} {r : Record δ α} {value : Json} {given : String → Option Json}
  {members : List (Key × Document)}

/-! ## What is given and what is read -/

theorem ends_ofJson : Ends .value (.ofJson value) := by
  intro items ending same _
  cases value <;> cases same
  rfl

theorem decodeValue_eq_ok_iff (slotted : r.Slotted) {a : α} :
    decodeValue r.decode value = .ok a ↔ ∃ members d, r.Lays (.ofJson value.canonicalize) members ∧
      r.readMembers .value r.start members = .ok d ∧ r.finish d = .ok a := by
  rw [decodeValue, decode_eq_ok_iff slotted rfl ends_ofJson]

/-- The members with the names of fields are those that are given. -/
def Presents (r : Record δ α) (given : String → Option Json) (members : List (Key × Document)) :
    Prop :=
  ∀ name ∈ r.fields.map (·.name), named name members = ((given name).map Document.ofJson).toList

theorem presents_ofMembers (o : Object) : r.Presents o.get? (Document.ofMembers o.members) :=
  fun _ _ => named_ofMembers o.ascend.nodup

theorem presents_zip (slotted : r.Slotted) (items : List Json) :
    r.Presents (fun name => items[(r.fields.map (·.name)).idxOf name]?)
      ((r.fields.zip (Document.ofItems items)).map fun p => (.name p.1.name, p.2)) := by
  intro name known
  rw [named_zip slotted.nodup known, Document.ofItems_eq_map, List.getElem?_map]

theorem exists_gives_of_lays (slotted : r.Slotted) (refused : r.surplus = .refused)
    (canonical : IsCanonical value) (lays : r.Lays (.ofJson value) members)
    (legible : ∀ m ∈ members, r.Legible .value m) :
    ∃ given, Gives (r.fields.map (·.name)) value given ∧ r.Presents given members := by
  cases value with
  | obj ms =>
    cases lays
    let o : Object := ⟨ms, canonical.1, canonical.2⟩
    refine ⟨o.get?, @Gives.obj _ o fun m hm => ?_, presents_ofMembers o⟩
    have member : (Key.name m.1, Document.ofJson m.2) ∈ Document.ofMembers ms := by
      rw [Document.ofMembers_eq_map]
      exact List.mem_map.2 ⟨m, hm, rfl⟩
    obtain ⟨name, same, known⟩ := legible _ member
    cases same
    simpa [Passes, refused] using known
  | arr items =>
    cases lays with
    | arr loose few omitted =>
      rw [Document.ofItems_eq_map, List.length_map] at few
      exact ⟨_, .arr (by simpa using few), presents_zip slotted items⟩
  | null | bool | number | str => cases lays

theorem exists_lays_of_gives (slotted : r.Slotted) (refused : r.surplus = .refused)
    (gives : Gives (r.fields.map (·.name)) value given)
    (needed : ∀ field ∈ r.fields, field.omissible = true ∨ given field.name ≠ none) :
    ∃ members, r.Lays (.ofJson value) members ∧ (∀ m ∈ members, r.Legible .value m) ∧
    r.Presents given members := by
  cases gives with
  | @obj o known =>
    refine ⟨_, .obj _, fun m hm => ?_, presents_ofMembers o⟩
    rw [Document.ofMembers_eq_map] at hm
    obtain ⟨own, hown, rfl⟩ := List.mem_map.1 hm
    exact ⟨own.1, rfl, .inl (known own hown)⟩
  | @arr items few =>
    rw [List.length_map] at few
    have length : (Document.ofItems items).length = items.length := by
      rw [Document.ofItems_eq_map, List.length_map]
    refine ⟨_, .arr (by simp [refused]) (length ▸ few) ?_, fun m hm => ?_,
      presents_zip slotted items⟩
    · -- A field behind the items is not given.
      intro field hfield
      rw [length] at hfield
      obtain ⟨n, hn, rfl⟩ := List.mem_drop_iff_getElem.1 hfield
      refine (needed _ (List.getElem_mem _)).resolve_right fun given =>
        given (List.getElem?_eq_none ?_)
      have place := slotted.nodup.idxOf_getElem (items.length + n) (by rw [List.length_map]; omega)
      rw [List.getElem_map] at place
      omega
    · obtain ⟨p, hp, rfl⟩ := List.mem_map.1 hm
      exact ⟨p.1.name, rfl, .inl (List.mem_map.2 ⟨p.1, (List.of_mem_zip hp).1, rfl⟩)⟩

/-- What a field finds among the values that are given. -/
def Slot.Finds (s : r.Slot β) (given : String → Option Json) : Option β → Prop
  | none => given s.name = none
  | some v => ∃ x, given s.name = some x ∧ s.decode .value (.ofJson x) = .ok v

theorem Slot.holds_iff_finds (s : r.Slot β) (presents : r.Presents given members) {v : Option β} :
    s.Holds .value members v ↔ s.Finds given v := by
  have known : s.name ∈ r.fields.map (·.name) :=
    List.mem_map.2 ⟨_, List.mem_of_find?_eq_some s.find, rfl⟩
  have only := presents s.name known
  cases found : given s.name with
  | none =>
    rw [found] at only
    cases v <;> simp [Holds, Finds, only, found]
  | some x =>
    rw [found] at only
    cases v <;> simp [Holds, Finds, only, found]

/-- What is decoded was given, each field by its own decoder. -/
theorem exists_of_decodeValue (slotted : r.Slotted) (refused : r.surplus = .refused) {a : α}
    (h : decodeValue r.decode value = .ok a) :
    ∃ given d, Gives (r.fields.map (·.name)) value.canonicalize given ∧ r.finish d = .ok a ∧
      ∀ (β : Type) (s : r.Slot β), s.Finds given (s.get d) := by
  obtain ⟨members, d, lays, hmembers, hfinish⟩ := (decodeValue_eq_ok_iff slotted).1 h
  obtain ⟨given, gives, presents⟩ :=
    exists_gives_of_lays slotted refused (isCanonical_canonicalize value) lays
    (legible_of_readMembers hmembers)
  exact ⟨given, d, gives, hfinish, fun β s => (s.holds_iff_finds presents).1 (s.holds_get hmembers)⟩

/-- What is given is decoded if each field can be, and none is missing that is needed. -/
theorem decodeValue_of_gives (slotted : r.Slotted) (refused : r.surplus = .refused)
    (gives : Gives (r.fields.map (·.name)) value.canonicalize given)
    (needed : ∀ field ∈ r.fields, field.omissible = true ∨ given field.name ≠ none)
    (finds : ∀ field ∈ r.fields, ∃ (β : Type) (s : r.Slot β) (v : Option β),
      field = s.field ∧ s.Finds given v) :
    ∃ d, (∀ (β : Type) (s : r.Slot β), s.Finds given (s.get d)) ∧
      ∀ a, r.finish d = .ok a → decodeValue r.decode value = .ok a := by
  obtain ⟨members, lays, legible, presents⟩ := exists_lays_of_gives slotted refused gives needed
  obtain ⟨d, hmembers⟩ : ∃ d, r.readMembers .value r.start members = .ok d := by
    refine exists_readMembers slotted legible (fun field hfield => .inr ?_) fun field hfield => ?_
    · obtain ⟨β, s, rfl⟩ := slotted.slot field hfield
      exact congrArg Option.isSome s.get_start
    · obtain ⟨β, s, v, rfl, hv⟩ := finds field hfield
      exact ((s.holds_iff_finds presents).2 hv).takes
  refine ⟨d, fun β s => (s.holds_iff_finds presents).1 (s.holds_get hmembers), fun a hfinish => ?_⟩
  exact (decodeValue_eq_ok_iff slotted).2 ⟨members, d, lays, hmembers, hfinish⟩

end Record

/-! ## Fields that hold texts -/

/-- What is given for a text that may be missing. -/
inductive GivesOptionalText : Option Json → Option String → Prop
  | absent : GivesOptionalText none none
  | null : GivesOptionalText (some .null) none
  | text (s : String) : GivesOptionalText (some (.str s)) (some s)

/-- What is given for a list of texts, which is empty if it is missing. -/
inductive GivesTexts : Option Json → List String → Prop
  | absent : GivesTexts none []
  | texts (texts : List String) : GivesTexts (some (.arr (texts.map .str))) texts

variable {origin : Origin} {x : Json}

theorem text_ofJson_iff {s : String} : Decoder.text origin (.ofJson x) = .ok s ↔ x = .str s := by
  rw [Decoder.text_eq_ok_iff]
  cases x <;> simp [Document.ofJson]

theorem optionalText_ofJson_iff {found : Option String} :
    Decoder.optional .text origin (.ofJson x) = .ok found ↔ GivesOptionalText (some x) found := by
  rw [Decoder.optional_eq_ok_iff]
  simp only [text_ofJson_iff]
  constructor
  · rintro (⟨null, rfl⟩ | ⟨-, s, rfl, rfl⟩)
    · cases x <;> cases null
      exact .null
    · exact .text s
  · intro h
    cases h with
    | null => exact .inl ⟨rfl, rfl⟩
    | text s => exact .inr ⟨nofun, s, rfl, rfl⟩

theorem texts_ofJson_iff {texts : List String} :
    Decoder.list .text .value (.ofJson x) = .ok texts ↔ GivesTexts (some x) texts := by
  -- Each item is read as a text, so the items are these texts.
  have each (items : List Json) : List.Forall₂ (fun item s => Decoder.text .value item = .ok s)
      (Document.ofItems items) texts ↔ items = texts.map .str := by
    rw [Document.ofItems_eq_map, List.forall₂_map_left_iff]
    simp only [text_ofJson_iff]
    rw [← List.forall₂_map_right_iff, List.forall₂_eq_eq_eq]
  rw [Decoder.list_eq_ok_iff rfl]
  constructor
  · rintro ⟨items, same, decoded⟩
    cases x <;> cases same
    rw [(each _).1 decoded]
    exact .texts texts
  · intro h
    cases h with
    | texts => exact ⟨_, rfl, (each _).2 rfl⟩

namespace Record.Slot

variable {δ α β : Type} {r : Record δ α} {given : String → Option Json}

/-- What may be given for a field, and what it stands for: `start` if it is missing, and otherwise
what is decoded. -/
structure Means (s : r.Slot β) (start : β) (means : Option Json → β → Prop) : Prop where
  absent : ∀ {found}, means none found ↔ found = start
  present : ∀ {x found}, means (some x) found ↔ s.decode .value (.ofJson x) = .ok found

variable {means : Option Json → β → Prop} {start found : β}

theorem Means.iff_of_finds {s : r.Slot β} (h : s.Means start means) {v : Option β}
    (finds : s.Finds given v) : means (given s.name) found ↔ found = v.getD start := by
  cases v with
  | none => rw [show given s.name = none from finds, h.absent, Option.getD_none]
  | some v =>
    obtain ⟨x, same, decoded⟩ := finds
    rw [same, h.present, decoded, Except.ok.injEq, Option.getD_some, eq_comm]

theorem Means.exists_finds {s : r.Slot β} (h : s.Means start means)
    (meant : means (given s.name) found) : ∃ v, s.Finds given v := by
  cases same : given s.name with
  | none => exact ⟨none, same⟩
  | some x =>
    rw [same] at meant
    exact ⟨some found, x, same, h.present.1 meant⟩

theorem means_optionalText {s : r.Slot (Option String)} (decode : s.decode = .optional .text) :
    s.Means none GivesOptionalText where
  absent := by
    intro found
    constructor
    · intro h
      cases h
      rfl
    · rintro rfl
      exact .absent
  present := by
    intro x found
    rw [decode, optionalText_ofJson_iff]

theorem means_texts {s : r.Slot (List String)} (decode : s.decode = .list .text) :
    s.Means [] GivesTexts where
  absent := by
    intro found
    constructor
    · intro h
      cases h
      rfl
    · rintro rfl
      exact .absent
  present := by
    intro x found
    rw [decode, texts_ofJson_iff]

theorem text_iff_of_finds {s : r.Slot String} (decode : s.decode = .text) {v : Option String}
    (finds : s.Finds given v) {found : String} :
    given s.name = some (.str found) ↔ v = some found := by
  cases v with
  | none =>
    rw [show given s.name = none from finds]
    simp
  | some v =>
    obtain ⟨x, same, decoded⟩ := finds
    rw [decode, text_ofJson_iff] at decoded
    rw [same, decoded, Option.some.injEq, Json.str.injEq, Option.some.injEq]

end Record.Slot

end FirewallOrder.Json
