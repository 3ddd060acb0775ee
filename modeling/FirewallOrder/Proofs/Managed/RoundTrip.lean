import FirewallOrder.Managed.State
import FirewallOrder.Proofs.Json.Given
import FirewallOrder.Proofs.Rule.RoundTrip
import FirewallOrder.Proofs.Ruleset.Name
import FirewallOrder.Settings.Basic

/-!
# What is written is read back

Rules, orders, states and settings are written as values, and each is read back from its value as it
was (`written_is_read_back`).
-/

namespace FirewallOrder

open Json

variable {origin : Origin}

theorem canonicalizeItems_texts (texts : List String) :
    canonicalizeItems (texts.map .str) = texts.map .str := by
  induction texts with
  | nil => rfl
  | cons s texts ih => rw [List.map_cons, canonicalizeItems, canonicalize, ih]

theorem decode_texts (texts : List String) :
    Decoder.list .text .value (.ofJson (Json.arr (texts.map .str)).canonicalize) = .ok texts := by
  rw [canonicalize, canonicalizeItems_texts]
  exact texts_ofJson_iff.2 (.texts texts)

theorem Ruleset.decode_spelling (r : Ruleset) : decode origin (.str (.ok r.spelling)) = .ok r := by
  cases origin <;> simp only [decode, Decoder.variant, ofSpelling?_spelling]

/-! ## Orders and states -/

namespace RuleOrder

theorem orderly_record : record.Orderly where
  apart := by
    simp only [record, List.pairwise_pair]
    exact Field.apart_ofDecoder (fun _ _ _ => rfl) (fun _ _ => rfl) (fun _ _ => rfl)
  apartFrom := nofun
  store_comm := nofun

theorem decodeValue_encode (order : RuleOrder) : decodeValue decode order.encode = .ok order := by
  have distinct : (order.members.map (·.1)).Nodup :=
    show (record.fields.map (·.name)).Nodup by decide
  rw [encode, decode, Record.decodeValue_obj orderly_record distinct]
  refine ⟨⟨some order.before, some order.after⟩, ?_, rfl⟩
  refine Record.readMembers_field rfl rfl (decode_texts _) ?_
  exact Record.readMembers_field rfl rfl (decode_texts _) rfl

end RuleOrder

namespace RulesetState

theorem orderly_record : record.Orderly where
  apart := by
    simp only [record, List.pairwise_cons, List.forall_mem_cons, List.not_mem_nil, false_implies,
      implies_true, List.Pairwise.nil, and_true]
    refine ⟨⟨?_, ?_, ?_, ?_⟩, ⟨?_, ?_, ?_⟩, ⟨?_, ?_⟩, ?_⟩
    all_goals exact Field.apart_ofDecoder (fun _ _ _ => rfl) (fun _ _ => rfl) (fun _ _ => rfl)
  apartFrom := nofun
  store_comm := nofun

theorem decodeValue_encode (state : RulesetState) :
    decodeValue decode state.encode = .ok state := by
  have distinct : (state.members.map (·.1)).Nodup :=
    show (record.fields.map (·.name)).Nodup by decide
  rw [encode, decode, Record.decodeValue_obj orderly_record distinct]
  refine ⟨⟨some state.id, some state.site, some state.ruleset, some state.order.before,
    some state.order.after⟩, ?_,
    rfl⟩
  refine Record.readMembers_field rfl rfl rfl ?_
  refine Record.readMembers_field rfl rfl rfl ?_
  refine Record.readMembers_field rfl rfl state.ruleset.decode_spelling ?_
  refine Record.readMembers_field rfl rfl (decode_texts _) ?_
  exact Record.readMembers_field rfl rfl (decode_texts _) rfl

end RulesetState

/-! ## Settings -/

namespace Settings

theorem orderly_record : record.Orderly where
  apart := by
    simp only [record, List.pairwise_cons, List.forall_mem_cons, List.not_mem_nil, false_implies,
      implies_true, List.Pairwise.nil, and_true]
    refine ⟨⟨?_, ?_, ?_, ?_, ?_, ?_⟩, ⟨?_, ?_, ?_, ?_, ?_⟩, ⟨?_, ?_, ?_, ?_⟩, ⟨?_, ?_, ?_⟩,
      ⟨?_, ?_⟩, ?_⟩
    all_goals exact Field.apart_ofDecoder (fun _ _ _ => rfl) (fun _ _ => rfl) (fun _ _ => rfl)
  apartFrom := nofun
  store_comm := nofun

theorem decode_optionalText {wanted : String} {s : Option String} :
    Decoder.optional (.textAs wanted) origin (.ofJson (optionalText s).canonicalize) = .ok s := by
  cases s <;> rfl

theorem decodeValue_encode {settings : Settings} (fits : settings.timeout < Whole.bound 64) :
    decodeValue decode settings.encode = .ok settings := by
  have names : (record.fields.map (·.name)).Nodup := by decide
  rw [encode, decode, Record.decodeValue_obj orderly_record (by exact names)]
  refine ⟨⟨some settings.apiUrl, some settings.username, some settings.password, some settings.site,
    some settings.insecure, some settings.caCert, some settings.timeout⟩, ?_, rfl⟩
  refine Record.readMembers_field rfl rfl decode_optionalText ?_
  refine Record.readMembers_field rfl rfl decode_optionalText ?_
  refine Record.readMembers_field rfl rfl decode_optionalText ?_
  refine Record.readMembers_field rfl rfl rfl ?_
  refine Record.readMembers_field rfl rfl rfl ?_
  refine Record.readMembers_field rfl rfl decode_optionalText ?_
  exact Record.readMembers_field rfl rfl (Decoder.nat_eq_ok_iff.2 ⟨rfl, fits⟩) rfl

end Settings

/-- **What is written is read back.** Of the object that a rule is read from it keeps the members
that are none of its nine fields, as they are; it is written with its fields and these members, each
once, and read back from that. So is every other rule, order, state and settings, whatever they
hold. -/
theorem written_is_read_back :
    (∀ origin document rule, Rule.decode origin document = .ok rule →
      (∃ o : Object, document.toJson origin = .ok (.obj o.members) ∧
        rule.extra.members = o.members.filter fun m => m.1 ∉ Rule.fieldNames) ∧
      (∃ o : Object, rule.encode.canonicalize = .obj o.members ∧
        o.members.Perm (rule.ownMembers ++ rule.extra.members)) ∧
      decodeValue Rule.decode rule.encode = .ok rule) ∧
    (∀ (o : Object) rule, decodeValue Rule.decode (.obj o.members) = .ok rule →
      rule.extra.members = o.members.filter fun m => m.1 ∉ Rule.fieldNames) ∧
    (∀ rule : Rule, (∀ name ∈ Rule.fieldNames, rule.extra.get? name = none) →
      RuleIndex.IsIndex rule.index → decodeValue Rule.decode rule.encode = .ok rule) ∧
    (∀ state : RulesetState, decodeValue RulesetState.decode state.encode = .ok state) ∧
    (∀ order : RuleOrder, decodeValue RuleOrder.decode order.encode = .ok order) ∧
    ∀ settings : Settings, settings.timeout < Whole.bound 64 →
      decodeValue Settings.decode settings.encode = .ok settings := by
  refine ⟨?_, ?_, ?_, RulesetState.decodeValue_encode, RuleOrder.decodeValue_encode, ?_⟩
  · intro origin document rule h
    have apart := Rule.extra_apart_of_decode h
    exact ⟨Rule.extra_of_decode h, Rule.encode_perm apart,
      Rule.decodeValue_encode apart (Rule.isIndex_of_decode h)⟩
  · intro o rule h
    obtain ⟨o', taken, extra⟩ := Rule.extra_of_decode h
    rw [Document.toJson_ofJson, canonicalize_of_isCanonical _ (isCanonical_canonicalize _),
      canonicalize_of_isCanonical (.obj o.members) ⟨o.ascend, o.canonical⟩] at taken
    rw [extra, ← Json.obj.inj (Except.ok.inj taken)]
  · intro rule apart index
    refine Rule.decodeValue_encode (fun m hm known => ?_) index
    exact Object.get?_eq_none_iff.1 (apart m.1 known) (List.mem_map.2 ⟨m, hm, rfl⟩)
  · exact fun settings fits => Settings.decodeValue_encode fits

/-- The object of a rule whose index is a text, with a member that is no field. -/
def portObject : Object where
  members := [("_id", .str "a"), ("dst_port", .str "22"), ("rule_index", .str " 2001 ")]
  ascend := by decide
  canonical := ⟨trivial, trivial, trivial, trivial⟩

def portRule : Rule where
  id := "a"
  siteId := none
  name := none
  ruleset := ""
  index := 2001
  action := none
  enabled := false
  protocol := none
  logging := false
  extra := ⟨[("dst_port", .str "22")], by decide, trivial, trivial⟩

theorem written_is_read_back_port :
    decodeValue Rule.decode (.obj portObject.members) = .ok portRule ∧
    portRule.extra.members = (portObject.members.filter fun m => m.1 ∉ Rule.fieldNames) ∧
    (∀ name ∈ Rule.fieldNames, portRule.extra.get? name = none) ∧ RuleIndex.IsIndex portRule.index ∧
    decodeValue Rule.decode portRule.encode = .ok portRule ∧
    Settings.default.timeout < Whole.bound 64 ∧
    decodeValue Settings.decode Settings.default.encode = .ok Settings.default := by
  obtain ⟨-, values, rules, -, -, settings⟩ := written_is_read_back
  have h : decodeValue Rule.decode (.obj portObject.members) = .ok portRule := rfl
  have apart : ∀ name ∈ Rule.fieldNames, portRule.extra.get? name = none := by decide
  have index : RuleIndex.IsIndex portRule.index := by decide
  exact ⟨h, values _ _ h, apart, index, rules _ apart index, by decide, settings _ (by decide)⟩

end FirewallOrder
