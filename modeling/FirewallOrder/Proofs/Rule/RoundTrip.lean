import FirewallOrder.Proofs.Rule.Index

/-!
# Rules as objects

What a rule keeps of the object that it was read from are the members that are none of its nine
fields (`Rule.extra_of_decode`). They are written behind the fields, and the rule is read back from
what was written (`Rule.decodeValue_encode`).
-/

namespace FirewallOrder

open Json

namespace Rule

/-- The names of the nine fields. -/
def fieldNames : List String :=
  ["_id", "site_id", "name", "ruleset", "rule_index", "action", "enabled", "protocol", "logging"]

/-- The nine fields as members of an object. -/
def ownMembers (rule : Rule) : List (String × Json) :=
  [("_id", .str rule.id),
    ("site_id", optionalText rule.siteId),
    ("name", optionalText rule.name),
    ("ruleset", .str rule.ruleset),
    ("rule_index", .number (.int rule.index)),
    ("action", optionalText rule.action),
    ("enabled", .bool rule.enabled),
    ("protocol", optionalText rule.protocol),
    ("logging", .bool rule.logging)]

variable {rule : Rule} {origin : Origin} {document : Document}

theorem encode_eq : rule.encode = .obj (rule.ownMembers ++ rule.extra.members) := rfl

theorem names_ownMembers : rule.ownMembers.map (·.1) = fieldNames := rfl

theorem orderly_record : record.Orderly where
  apart := by
    simp only [record, List.pairwise_cons, List.forall_mem_cons, List.not_mem_nil, false_implies,
      implies_true, List.Pairwise.nil, and_true]
    refine ⟨⟨?_, ?_, ?_, ?_, ?_, ?_, ?_, ?_⟩, ⟨?_, ?_, ?_, ?_, ?_, ?_, ?_⟩,
      ⟨?_, ?_, ?_, ?_, ?_, ?_⟩, ⟨?_, ?_, ?_, ?_, ?_⟩, ⟨?_, ?_, ?_, ?_⟩, ⟨?_, ?_, ?_⟩, ⟨?_, ?_⟩, ?_⟩
    all_goals exact Field.apart_ofDecoder (fun _ _ _ => rfl) (fun _ _ => rfl) (fun _ _ => rfl)
  apartFrom := by
    rintro _ ⟨⟩
    simp only [record, List.forall_mem_cons, List.not_mem_nil, false_implies,
      implies_true, and_true]
    refine ⟨?_, ?_, ?_, ?_, ?_, ?_, ?_, ?_, ?_⟩
    all_goals exact Field.apartFrom_ofDecoder (fun _ _ _ _ => rfl) (fun _ _ _ => rfl)
  store_comm := by
    rintro _ ⟨⟩ d name name' value value' different
    exact congrArg (fun o => { d with extra := o })
      (d.extra.insert_comm different.symm value' value)

theorem keeps_record : record.Keeps (·.extra) where
  stored := ⟨_, rfl, fun _ _ _ => rfl⟩
  leaves := by
    have text := Decoder.takesValues_text
    have optional := Decoder.takesValues_optional text
    have bool := Decoder.takesValues_bool
    have index := RuleIndex.takesValues_decode
    simp only [record, List.forall_mem_cons, List.not_mem_nil, false_implies,
      implies_true, and_true]
    refine ⟨?_, ?_, ?_, ?_, ?_, ?_, ?_, ?_, ?_⟩
    all_goals exact Field.leaves_ofDecoder (by assumption) fun _ _ => rfl

/-- The place of the index. -/
def indexSlot : record.Slot Int :=
  .ofFields (record.fields.take 4) rfl (by decide)
    (by
      simp only [record, List.take, List.cons_append, List.nil_append, List.forall_mem_cons,
        List.not_mem_nil, false_implies, implies_true, and_true]
      refine ⟨?_, ?_, ?_, ?_, ?_, ?_, ?_, ?_⟩
      all_goals exact Field.spares_ofDecoder fun _ _ => rfl)
    rfl (fun _ _ => rfl) (by rintro _ ⟨⟩ d key value; rfl)

theorem isIndex_of_readMembers {members : List (Key × Document)} {d : Draft}
    (h : record.readMembers origin record.start members = .ok d) :
    RuleIndex.IsIndex (d.index.getD 0) := by
  have holds := indexSlot.holds_get h
  cases found : d.index with
  | none => decide
  | some n =>
    rw [show indexSlot.get d = some n from found] at holds
    obtain ⟨document, -, decoded⟩ := holds
    exact RuleIndex.isIndex_of_decode decoded

theorem isIndex_of_decode (h : decode origin document = .ok rule) :
    RuleIndex.IsIndex rule.index := by
  obtain ⟨members, inner, d, rfl, -, hmembers, finish⟩ := Record.of_decode_of_kept rfl h
  obtain ⟨id, -, same⟩ := bind_eq_ok_iff.1 finish
  cases same
  exact isIndex_of_readMembers hmembers

/-- **What a rule keeps are the members of its object that are none of the nine fields, as they
are.** -/
theorem extra_of_decode (h : decode origin document = .ok rule) : ∃ o : Object,
    document.toJson origin = .ok (.obj o.members) ∧
      rule.extra.members = o.members.filter fun m => m.1 ∉ fieldNames := by
  obtain ⟨members, inner, d, rfl, inside, hmembers, finish⟩ := Record.of_decode_of_kept rfl h
  obtain ⟨id, -, same⟩ := bind_eq_ok_iff.1 finish
  cases same
  exact keeps_record.of_readMembers_start rfl inside hmembers

theorem extra_apart_of_decode (h : decode origin document = .ok rule) :
    ∀ m ∈ rule.extra.members, m.1 ∉ fieldNames := by
  obtain ⟨o, -, kept⟩ := extra_of_decode h
  intro m hm
  rw [kept] at hm
  simpa using (List.mem_filter.1 hm).2

/-! ## Reading a rule back -/

theorem decode_optionalText {s : Option String} :
    (Decoder.optional .text) origin (.ofJson (optionalText s).canonicalize) = .ok s := by
  cases s <;> rfl

theorem readMembers_extra {o : Object} (apart : ∀ m ∈ o.members, m.1 ∉ fieldNames) {d : Draft}
    (empty : d.extra = .empty) :
    record.readMembers .value d (Record.written o.members) = .ok { d with extra := o } := by
  have stored (members : List (String × Json)) (d : Draft) :
      members.foldl (fun d m => { d with extra := d.extra.insert m.1 m.2.canonicalize }) d =
        { d with extra := d.extra.insertAll (canonicalizeMembers members) } := by
    induction members generalizing d with
    | nil => rfl
    | cons m members ih => exact ih { d with extra := d.extra.insert m.1 m.2.canonicalize }
  have read : record.readMembers .value d (Record.written o.members) = .ok _ :=
    Record.readMembers_surplus rfl apart
  have same : d.extra.insertAll (canonicalizeMembers o.members) = o := by
    rw [empty, canonicalizeMembers_of_membersCanonical _ o.canonical, Object.insertAll_empty_self]
  rw [read, stored, same]

/-- The draft of a rule all of whose fields are read. -/
def Draft.full (rule : Rule) : Draft where
  id := some rule.id
  siteId := some rule.siteId
  name := some rule.name
  ruleset := some rule.ruleset
  index := some rule.index
  action := some rule.action
  enabled := some rule.enabled
  protocol := some rule.protocol
  logging := some rule.logging
  extra := rule.extra

theorem encode_nodup (apart : ∀ m ∈ rule.extra.members, m.1 ∉ fieldNames) :
    ((rule.ownMembers ++ rule.extra.members).map (·.1)).Nodup := by
  rw [List.map_append, names_ownMembers]
  refine List.nodup_append.2 ⟨by decide, rule.extra.ascend.nodup, ?_⟩
  rintro name own _ other rfl
  obtain ⟨m, hm, rfl⟩ := List.mem_map.1 other
  exact apart m hm own

/-- **A rule is read back from the object that it is written as,** if none of the members that it
keeps has the name of a field. -/
theorem decodeValue_encode (apart : ∀ m ∈ rule.extra.members, m.1 ∉ fieldNames)
    (index : RuleIndex.IsIndex rule.index) : decodeValue decode rule.encode = .ok rule := by
  rw [encode_eq, decode, Record.decodeValue_obj orderly_record (encode_nodup apart)]
  refine ⟨.full rule, ?_, rfl⟩
  rw [Record.written, List.map_append]
  refine Record.readMembers_field rfl rfl rfl ?_
  refine Record.readMembers_field rfl rfl decode_optionalText ?_
  refine Record.readMembers_field rfl rfl decode_optionalText ?_
  refine Record.readMembers_field rfl rfl rfl ?_
  refine Record.readMembers_field rfl rfl (RuleIndex.decode_number index) ?_
  refine Record.readMembers_field rfl rfl decode_optionalText ?_
  refine Record.readMembers_field rfl rfl rfl ?_
  refine Record.readMembers_field rfl rfl decode_optionalText ?_
  refine Record.readMembers_field rfl rfl rfl ?_
  exact readMembers_extra apart rfl

theorem isCanonical_optionalText {s : Option String} : IsCanonical (optionalText s) := by
  cases s <;> trivial

/-- What a rule is written as holds the nine fields and the members that are kept, and nothing
else. -/
theorem encode_perm (apart : ∀ m ∈ rule.extra.members, m.1 ∉ fieldNames) : ∃ o : Object,
    rule.encode.canonicalize = .obj o.members ∧
    o.members.Perm (rule.ownMembers ++ rule.extra.members) := by
  refine Object.exists_perm (membersCanonical_iff.2 fun m hm => ?_) (encode_nodup apart)
  rcases List.mem_append.1 hm with own | kept
  · have canonical : MembersCanonical rule.ownMembers :=
      ⟨trivial, isCanonical_optionalText, isCanonical_optionalText, trivial, trivial,
        isCanonical_optionalText, trivial, isCanonical_optionalText, trivial, trivial⟩
    exact membersCanonical_iff.1 canonical m own
  · exact membersCanonical_iff.1 rule.extra.canonical m kept

end Rule

end FirewallOrder
