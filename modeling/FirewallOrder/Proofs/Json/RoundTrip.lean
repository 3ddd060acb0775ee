import FirewallOrder.Proofs.Json.Canonical
import FirewallOrder.Proofs.Json.Record
import Mathlib.Data.List.Pairwise

/-!
# Reading back what was written

The members of an object may be written in any order, while those of a value stand in ascending
order of their names. A record does not mind the order (`Record.readMembers_perm`) if each of its
fields keeps to its own place in the draft (`Record.Orderly`). So an object is read back from a
value as if its members still stood in the order in which they were written
(`Record.decodeValue_obj`).
-/

namespace FirewallOrder.Json

variable {δ α β : Type} {origin : Origin} {document : Document} {d d' : δ}

/-! ## Fields that keep apart -/

/-- Reading one field and then the other comes to the same as reading them the other way round, and
the first leaves the place of the other free. -/
structure Field.Precedes (f g : Field δ) : Prop where
  swap : ∀ {origin x y d e d'}, f.read origin x d = .ok e → g.read origin y e = .ok d' →
    ∃ e', g.read origin y d = .ok e' ∧ f.read origin x e' = .ok d'
  given_eq : ∀ {origin x d e}, f.read origin x d = .ok e → g.given e = g.given d

/-- The order in which two fields are read makes no difference. -/
def Field.Apart (f g : Field δ) : Prop := f.Precedes g ∧ g.Precedes f

instance : Std.Symm (Field.Apart : Field δ → Field δ → Prop) := ⟨fun _ _ h => ⟨h.2, h.1⟩⟩

section OfDecoder

variable {γ : Type} {name name' : String} {omissible omissible' : Bool} {decode : Decoder β}
  {decode' : Decoder γ} {get : δ → Option β} {get' : δ → Option γ} {set : δ → β → δ}
  {set' : δ → γ → δ}

theorem Field.precedes_ofDecoder (comm : ∀ d v w, set' (set d v) w = set (set' d w) v)
    (get_set : ∀ d v, get' (set d v) = get' d) :
    (ofDecoder name omissible decode get set).Precedes
      (ofDecoder name' omissible' decode' get' set') where
  swap := by
    intro origin x y d e d' first second
    obtain ⟨v, decoded, rfl⟩ := map_eq_ok_iff.1 first
    obtain ⟨w, decoded', rfl⟩ := map_eq_ok_iff.1 second
    exact ⟨set' d w, map_eq_ok_iff.2 ⟨w, decoded', rfl⟩,
      map_eq_ok_iff.2 ⟨v, decoded, (comm d v w).symm⟩⟩
  given_eq := by
    intro origin x d e first
    obtain ⟨v, -, rfl⟩ := map_eq_ok_iff.1 first
    exact congrArg Option.isSome (get_set d v)

theorem Field.apart_ofDecoder (comm : ∀ d v w, set' (set d v) w = set (set' d w) v)
    (get_set : ∀ d v, get' (set d v) = get' d) (get_set' : ∀ d w, get (set' d w) = get d) :
    (ofDecoder name omissible decode get set).Apart
      (ofDecoder name' omissible' decode' get' set') :=
  ⟨precedes_ofDecoder comm get_set, precedes_ofDecoder (fun d w v => (comm d v w).symm) get_set'⟩

end OfDecoder

/-- Reading the field and storing a member do not interfere. -/
structure Field.ApartFrom (f : Field δ) (store : δ → String → Json → δ) : Prop where
  read_store : ∀ origin x d key value,
    f.read origin x (store d key value) = (f.read origin x d).map fun e => store e key value
  given_store : ∀ d key value, f.given (store d key value) = f.given d

theorem Field.apartFrom_ofDecoder {name : String} {omissible : Bool} {decode : Decoder β}
    {get : δ → Option β} {set : δ → β → δ} {store : δ → String → Json → δ}
    (comm : ∀ d v key value, set (store d key value) v = store (set d v) key value)
    (get_store : ∀ d key value, get (store d key value) = get d) :
    (ofDecoder name omissible decode get set).ApartFrom store where
  read_store := by
    intro origin x d key value
    cases decoded : decode origin x with
    | error fault => simp [ofDecoder, decoded, Except.map]
    | ok v => simp [ofDecoder, decoded, Except.map, comm]
  given_store := fun d key value => congrArg Option.isSome (get_store d key value)

/-- What the field takes is a value, and what is kept of the others stays as it is. -/
def Field.Leaves (field : Field δ) (extra : δ → Object) : Prop :=
  ∀ ⦃origin document d d'⦄, field.read origin document d = .ok d' →
    extra d' = extra d ∧ ∃ value, document.toJson origin = .ok value

/-- The decoder takes values only: it passes over no fault. -/
def Decoder.TakesValues (decode : Decoder β) : Prop :=
  ∀ ⦃origin document v⦄, decode origin document = .ok v →
  ∃ value, document.toJson origin = .ok value

theorem Field.leaves_ofDecoder {name : String} {omissible : Bool} {decode : Decoder β}
    {get : δ → Option β} {set : δ → β → δ} {extra : δ → Object} (values : decode.TakesValues)
    (spared : ∀ d v, extra (set d v) = extra d) :
    (ofDecoder name omissible decode get set).Leaves extra := by
  intro origin document d d' h
  obtain ⟨v, decoded, rfl⟩ := map_eq_ok_iff.1 h
  exact ⟨spared d v, values decoded⟩

theorem Decoder.takesValues_text : text.TakesValues := by
  intro origin document s h
  rw [text_eq_ok_iff.1 h]
  exact ⟨.str s, rfl⟩

theorem Decoder.takesValues_bool : bool.TakesValues := by
  intro origin document b h
  cases document with
  | bool b' => exact ⟨.bool b', rfl⟩
  | _ => cases h

theorem Decoder.takesValues_optional {decode : Decoder β} (values : decode.TakesValues) :
    (optional decode).TakesValues := by
  intro origin document v h
  rcases optional_eq_ok_iff.1 h with ⟨rfl, -⟩ | ⟨-, a, decoded, -⟩
  · exact ⟨.null, rfl⟩
  · exact values decoded

namespace Record

variable {r : Record δ α}

/-- No field, and no member that is kept, gets in the way of another. -/
structure Orderly (r : Record δ α) : Prop where
  apart : r.fields.Pairwise Field.Apart
  apartFrom : ∀ store, r.surplus = .kept store → ∀ field ∈ r.fields, field.ApartFrom store
  store_comm : ∀ store, r.surplus = .kept store → ∀ d key key' value value', key ≠ key' →
    store (store d key value) key' value' = store (store d key' value') key value

theorem Orderly.apart_of_find? (orderly : r.Orderly) {name name' : String}
    (different : name ≠ name') {f g : Field δ}
    (hf : r.fields.find? (fun field => field.name == name) = some f)
    (hg : r.fields.find? (fun field => field.name == name') = some g) : f.Apart g := by
  have same : f.name = name := by simpa using List.find?_some hf
  have same' : g.name = name' := by simpa using List.find?_some hg
  refine orderly.apart.forall (List.mem_of_find?_eq_some hf) (List.mem_of_find?_eq_some hg) ?_
  rintro rfl
  exact different (same.symm.trans same')

theorem Step.swap (orderly : r.Orderly) {name name' : String} (different : name ≠ name')
    {x y : Document} {e : δ} (first : r.Step origin name x d e)
    (second : r.Step origin name' y e d') :
    ∃ e', r.Step origin name' y d e' ∧ r.Step origin name x e' d' := by
  cases first with
  | passed other surplus skipped => exact ⟨d', second, .passed other surplus skipped⟩
  | field found free read =>
    cases second with
    | passed other surplus skipped =>
      exact ⟨d, .passed other surplus skipped, .field found free read⟩
    | field found' free' read' =>
      -- Neither field takes the place of the other, so both are still free when their turn comes.
      have apart := orderly.apart_of_find? different found found'
      obtain ⟨e', read₁, read₂⟩ := apart.1.swap read read'
      refine ⟨e', .field found' ?_ read₁, .field found ?_ read₂⟩
      · rw [← apart.1.given_eq read, free']
      · rw [apart.2.given_eq read₁, free]
    | kept other surplus taken =>
      have apart := orderly.apartFrom _ surplus _ (List.mem_of_find?_eq_some found)
      refine ⟨_, .kept other surplus taken, .field found ?_ ?_⟩
      · rw [apart.given_store, free]
      · rw [apart.read_store, read, Except.map]
  | @kept store value other surplus taken =>
    cases second with
    | passed other' surplus' skipped =>
      exact ⟨d, .passed other' surplus' skipped, .kept other surplus taken⟩
    | field found free read =>
      have apart := orderly.apartFrom _ surplus _ (List.mem_of_find?_eq_some found)
      obtain ⟨e', read', rfl⟩ := map_eq_ok_iff.1 ((apart.read_store ..).symm.trans read)
      refine ⟨e', .field found ?_ read', .kept other surplus taken⟩
      rw [← apart.given_store, free]
    | kept other' surplus' taken' =>
      cases surplus.symm.trans surplus'
      refine ⟨_, .kept other' surplus taken', ?_⟩
      rw [orderly.store_comm _ surplus _ _ _ _ _ different]
      exact .kept other surplus taken

/-- The order of the members makes no difference. -/
theorem readMembers_perm (orderly : r.Orderly) {ms ms' : List (Key × Document)} (perm : ms.Perm ms')
    (distinct : (ms.map (·.1)).Nodup) (h : r.readMembers origin d ms = .ok d') :
    r.readMembers origin d ms' = .ok d' := by
  -- Only where two members change places it counts that their names are different.
  induction perm generalizing d with
  | nil => exact h
  | cons m perm ih =>
    obtain ⟨e, first, rest⟩ := readMembers_cons.1 h
    exact readMembers_cons.2 ⟨e, first, ih (List.nodup_cons.1 distinct).2 rest⟩
  | swap m n rest =>
    obtain ⟨e, first, h⟩ := readMembers_cons.1 h
    obtain ⟨e', second, h⟩ := readMembers_cons.1 h
    obtain ⟨name, hname, step⟩ := readMember_eq_ok_iff.1 first
    obtain ⟨name', hname', step'⟩ := readMember_eq_ok_iff.1 second
    have different : name ≠ name' := by
      rintro rfl
      exact (List.nodup_cons.1 distinct).1 (List.mem_cons.2 (.inl (hname.trans hname'.symm)))
    obtain ⟨d₁, first, second⟩ := step.swap orderly different step'
    exact readMembers_cons.2 ⟨d₁, readMember_eq_ok_iff.2 ⟨name', hname', first⟩,
      readMembers_cons.2 ⟨e', readMember_eq_ok_iff.2 ⟨name, hname, second⟩, h⟩⟩
  | trans perm _ ih ih' => exact ih' ((perm.map _).nodup_iff.1 distinct) (ih distinct h)

/-! ## Objects as values -/

/-- The members of an object, each as it stands in the document of its value. -/
def written (members : List (String × Json)) : List (Key × Document) :=
  members.map fun m => (.name m.1, .ofJson m.2.canonicalize)

theorem written_nodup {members : List (String × Json)} (distinct : (members.map (·.1)).Nodup) :
    ((written members).map (·.1)).Nodup := by
  have names : (written members).map (·.1) = (members.map (·.1)).map Key.name := by simp [written]
  rw [names]
  exact distinct.map fun _ _ => Key.name.inj

theorem perm_written {members : List (String × Json)} (distinct : (members.map (·.1)).Nodup) :
    (Document.ofMembers (sortMembers (canonicalizeMembers members))).Perm (written members) := by
  have same : written members =
      (canonicalizeMembers members).map fun m => (.name m.1, .ofJson m.2) := by
    simp [written, canonicalizeMembers_eq_map]
  rw [Document.ofMembers_eq_map, same]
  refine (sortMembers_perm ?_).map _
  simpa [canonicalizeMembers_eq_map, Function.comp_def] using distinct

theorem decode_value_obj_eq_ok_iff {members : List (Key × Document)} {a : α} :
    r.decode .value (.obj members .closed) = .ok a ↔
      ∃ d, r.readMembers .value r.start members = .ok d ∧ r.finish d = .ok a := by
  rw [decode_members_eq_ok_iff]
  simp [Origin.inside]

/-- **An object is read from a value as if its members stood in the order in which they were
written.** -/
theorem decodeValue_obj (orderly : r.Orderly) {members : List (String × Json)}
    (distinct : (members.map (·.1)).Nodup) {a : α} : decodeValue r.decode (.obj members) = .ok a ↔
      ∃ d, r.readMembers .value r.start (written members) = .ok d ∧ r.finish d = .ok a := by
  have perm := perm_written distinct
  have nodup := written_nodup distinct
  rw [decodeValue, canonicalize, Document.ofJson, decode_value_obj_eq_ok_iff]
  constructor
  · rintro ⟨d, hmembers, hfinish⟩
    exact ⟨d, readMembers_perm orderly perm ((perm.map _).nodup_iff.2 nodup) hmembers, hfinish⟩
  · rintro ⟨d, hmembers, hfinish⟩
    exact ⟨d, readMembers_perm orderly perm.symm nodup hmembers, hfinish⟩

theorem readMembers_field {name : String} {omissible : Bool} {decode : Decoder β}
    {get : δ → Option β} {set : δ → β → δ} {v : β} {members : List (Key × Document)}
    (found : r.fields.find? (fun field => field.name == name) =
      some (.ofDecoder name omissible decode get set))
    (free : get d = none) (decoded : decode origin document = .ok v)
    (rest : r.readMembers origin (set d v) members = .ok d') :
    r.readMembers origin d ((.name name, document) :: members) = .ok d' := by
  refine readMembers_cons.2 ⟨set d v, readMember_eq_ok_iff.2 ⟨name, rfl, .field found ?_ ?_⟩, rest⟩
  · exact congrArg Option.isSome free
  · exact map_eq_ok_iff.2 ⟨v, decoded, rfl⟩

/-! ## Members that are kept -/

theorem readMembers_surplus {store : δ → String → Json → δ} (surplus : r.surplus = .kept store)
    {members : List (String × Json)} (others : ∀ m ∈ members, m.1 ∉ r.fields.map (·.name)) :
    r.readMembers .value d (written members) =
      .ok (members.foldl (fun d m => store d m.1 m.2.canonicalize) d) := by
  induction members generalizing d with
  | nil => rfl
  | cons m members ih =>
    obtain ⟨first, others⟩ := List.forall_mem_cons.1 others
    have none_ : r.fields.find? (fun field => field.name == m.1) = none := by
      refine List.find?_eq_none.2 fun field hfield same => first ?_
      exact List.mem_map.2 ⟨field, hfield, beq_iff_eq.1 same⟩
    refine readMembers_cons.2 ⟨_, readMember_eq_ok_iff.2 ⟨m.1, rfl, ?_⟩, ih others⟩
    exact .kept none_ surplus (Document.toJson_ofJson_of_isCanonical (isCanonical_canonicalize _))

/-- The record keeps the members that are no fields in a place of its own, which no field
touches. -/
structure Keeps (r : Record δ α) (extra : δ → Object) : Prop where
  stored : ∃ store, r.surplus = .kept store ∧ ∀ d name value, extra (store d name value) =
    (extra d).insert name value
  leaves : ∀ field ∈ r.fields, field.Leaves extra

variable {extra : δ → Object} {name : String} {members : List (Key × Document)}

theorem Keeps.of_step (keeps : r.Keeps extra) (step : r.Step origin name document d d') :
    ∃ value, document.toJson origin = .ok value ∧ extra d' =
      if name ∈ r.fields.map (·.name) then extra d else (extra d).insert name value := by
  obtain ⟨store, kept, insert⟩ := keeps.stored
  cases step with
  | @field field _ found free read =>
    have hfield := List.mem_of_find?_eq_some found
    have same : field.name = name := by simpa using List.find?_some found
    obtain ⟨spared, value, taken⟩ := keeps.leaves field hfield read
    exact ⟨value, taken, by rw [if_pos (List.mem_map.2 ⟨field, hfield, same⟩), spared]⟩
  | passed other surplus skipped => cases kept.symm.trans surplus
  | @kept store' value other surplus taken =>
    cases kept.symm.trans surplus
    have fresh : name ∉ r.fields.map (·.name) := by
      intro known
      obtain ⟨field, hfield, same⟩ := List.mem_map.1 known
      exact List.find?_eq_none.1 other field hfield (beq_iff_eq.2 same)
    exact ⟨value, taken, by rw [if_neg fresh, insert]⟩

theorem Keeps.of_readMembers (keeps : r.Keeps extra) (h : r.readMembers origin d members = .ok d') :
    ∃ values, Document.toMembers origin members = .ok values ∧
      extra d' = (extra d).insertAll (values.filter fun m => m.1 ∉ r.fields.map (·.name)) := by
  induction members generalizing d with
  | nil =>
    obtain rfl : d = d' := Except.ok.inj h
    exact ⟨[], rfl, rfl⟩
  | cons m members ih =>
    obtain ⟨key, document⟩ := m
    obtain ⟨e, first, rest⟩ := readMembers_cons.1 h
    obtain ⟨name, rfl, step⟩ := readMember_eq_ok_iff.1 first
    obtain ⟨value, taken, same⟩ := keeps.of_step step
    obtain ⟨values, others, same'⟩ := ih rest
    refine ⟨(name, value) :: values, ?_, ?_⟩
    · rw [Document.toMembers, taken, others]
      rfl
    · rw [same', same]
      by_cases known : name ∈ r.fields.map (·.name)
      · rw [if_pos known, List.filter_cons_of_neg (by simpa using known)]
      · rw [if_neg known, List.filter_cons_of_pos (by simpa using known)]
        rfl

theorem of_decode_of_kept {store : δ → String → Json → δ} (kept : r.surplus = .kept store) {a : α}
    (h : r.decode origin document = .ok a) : ∃ members inner d, document = .obj members .closed ∧
      origin.inside = .ok inner ∧ r.readMembers inner r.start members = .ok d ∧
      r.finish d = .ok a := by
  cases document with
  | obj members ending =>
    obtain ⟨rfl, inner, d, inside, hmembers, hfinish⟩ := decode_members_eq_ok_iff.1 h
    exact ⟨members, inner, d, rfl, inside, hmembers, hfinish⟩
  | arr items ending =>
    simp only [decode, kept] at h
    cases h
  | _ => cases h

/-- **What a record keeps of an object are its members that are no fields.** -/
theorem Keeps.of_readMembers_start (keeps : r.Keeps extra) (start : extra r.start = .empty)
    {inner : Origin} (inside : origin.inside = .ok inner)
    (h : r.readMembers inner r.start members = .ok d) : ∃ o : Object,
      (Document.obj members .closed).toJson origin = .ok (.obj o.members) ∧
        (extra d).members = o.members.filter fun m => m.1 ∉ r.fields.map (·.name) := by
  obtain ⟨values, taken, same⟩ := keeps.of_readMembers h
  have canonical := Document.membersCanonical_of_toMembers members taken
  have part : MembersCanonical (values.filter fun m => m.1 ∉ r.fields.map (·.name)) :=
    membersCanonical_iff.2 fun m hm => membersCanonical_iff.1 canonical m (List.mem_filter.1 hm).1
  refine ⟨⟨sortMembers values, namesAscend_sortMembers values,
    membersCanonical_sortMembers canonical⟩, ?_, ?_⟩
  · rw [Document.toJson, inside]
    simp only [bind, Except.bind, taken, Document.readEnding]
    rfl
  · rw [same, start, Object.members_insertAll_empty part]
    exact (filter_sortMembers fun name => name ∉ r.fields.map (·.name)).symm

end Record

end FirewallOrder.Json
