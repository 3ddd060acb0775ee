import FirewallOrder.Proofs.Json.RoundTrip
import FirewallOrder.Proofs.Number.Whole
import FirewallOrder.Proofs.Text.Trim
import FirewallOrder.Rule.Basic

/-!
# What an index may be given as

The values that mean an index are few (`RuleIndex.Denotes`). A change of index is written with a
text and read back from it, and the blanks around a text make no difference
(`RuleIndex.indices_denoted`).
-/

namespace FirewallOrder

open Json Text

/-! ## Texts of numbers -/

namespace Whole

theorem not_blank_of_isDigit {c : Char} (digit : c.isDigit = true) : isBlank c = false := by
  have low : 48 ≤ c.toNat := (Char.isDigit_iff_toNat.1 digit).1
  have high : c.toNat ≤ 57 := (Char.isDigit_iff_toNat.1 digit).2
  rw [← Bool.not_eq_true]
  simp [isBlank]
  omega

/-- A text that says a number has no blanks. -/
theorem Spells.not_blank {cs : List Char} {n : Int} (h : Spells cs n) :
    ∀ c ∈ cs, isBlank c = false := by
  have digits {ds : List Char} {m : Nat} (h : Digits ds m) : ∀ c ∈ ds, isBlank c = false :=
    fun c hc => not_blank_of_isDigit (h.2.1 c hc)
  cases h with
  | plain h => exact digits h
  | plus h | minus h => exact List.forall_mem_cons.2 ⟨rfl, digits h⟩

end Whole

namespace RuleIndex

variable {origin : Origin} {document : Document} {value : Json} {n : Int}

theorem isIndex_iff : IsIndex n ↔ -2147483648 ≤ n ∧ n ≤ 2147483647 := by
  have width : (Whole.bound 31 : Int) = 2147483648 := by decide
  rw [IsIndex, width]
  omega

/-- The value means the index: null and blank texts mean zero, and otherwise it is said by a whole
number or a text. -/
inductive Denotes : Json → Int → Prop
  | null : Denotes .null 0
  | number {n : Int} (low : -2147483648 ≤ n) (high : n ≤ 2147483647) : Denotes (.number (.int n)) n
  | blank {s : String} (h : trim s = "") : Denotes (.str s) 0
  | text {s : String} {n : Int} (spells : Whole.Spells (trim s).toList n) (low : -2147483648 ≤ n)
      (high : n ≤ 2147483647) : Denotes (.str s) n

theorem Denotes.isIndex (h : Denotes value n) : IsIndex n := by
  rw [isIndex_iff]
  cases h with
  | null | blank => decide
  | number low high | text _ low high => exact ⟨low, high⟩

theorem denotes_number (index : IsIndex n) : Denotes (.number (.int n)) n := by
  obtain ⟨low, high⟩ := isIndex_iff.1 index
  exact .number low high

theorem denotes_text {s : String} (spells : Whole.Spells (trim s).toList n) (index : IsIndex n) :
    Denotes (.str s) n := by
  obtain ⟨low, high⟩ := isIndex_iff.1 index
  exact .text spells low high

/-! ## Numbers and texts -/

theorem ofInt_eq_ok_iff {m : Int} : ofInt m = .ok n ↔ m = n ∧ IsIndex n := by
  have wider : Whole.bound 31 ≤ Whole.bound 63 := by decide
  unfold ofInt IsIndex
  split
  · refine iff_of_false nofun fun ⟨same, low, high⟩ => ?_
    omega
  · split
    · refine iff_of_false nofun fun ⟨same, low, high⟩ => ?_
      omega
    · split
      · refine iff_of_false nofun fun ⟨same, low, high⟩ => ?_
        omega
      · rw [Except.ok.injEq]
        omega

theorem ofText_eq_ok_iff {s : String} :
    ofText s = .ok n ↔ trim s = "" ∧ n = 0 ∨ Whole.Spells (trim s).toList n ∧ IsIndex n := by
  have empty : trim s = "" ↔ trimChars s.toList = [] := by
    rw [← String.toList_inj, toList_trim, String.toList_empty]
  rw [toList_trim, empty, ofText]
  cases trimmed : trimChars s.toList with
  | nil =>
    have unsaid : ¬ Whole.Spells [] n := by
      intro h
      cases h with
      | plain digits => exact digits.1 rfl
    simp [unsaid, eq_comm]
  | cons c cs =>
    have read : Whole.readInt (Whole.bound 31) (Whole.bound 31 - 1) (c :: cs) = .ok n ↔ _ :=
      Whole.readInt_eq_ok_iff
    have within : IsIndex n ↔ -(Whole.bound 31 : Int) ≤ n ∧ n ≤ (Whole.bound 31 - 1 : Nat) := by
      have : Whole.bound 31 = 2147483648 := by decide
      rw [IsIndex]
      omega
    rw [within, ← read]
    cases found : Whole.readInt (Whole.bound 31) (Whole.bound 31 - 1) (c :: cs) <;> simp [found]

/-- **Which values mean an index,** and which index. -/
theorem ofJson_eq_ok_iff : ofJson value = .ok n ↔ Denotes value n := by
  constructor
  · intro h
    unfold ofJson at h
    split at h
    · cases h
      exact .null
    · obtain ⟨rfl, index⟩ := ofInt_eq_ok_iff.1 h
      exact denotes_number index
    · rcases ofText_eq_ok_iff.1 h with ⟨blank, rfl⟩ | ⟨spells, index⟩
      · exact .blank blank
      · exact denotes_text spells index
    · cases h
  · intro h
    have index := h.isIndex
    cases h with
    | null => rfl
    | number => exact ofInt_eq_ok_iff.2 ⟨rfl, index⟩
    | blank blank => exact ofText_eq_ok_iff.2 (.inl ⟨blank, rfl⟩)
    | text spells => exact ofText_eq_ok_iff.2 (.inr ⟨spells, index⟩)

theorem denotes_canonicalize_iff : Denotes value.canonicalize n ↔ Denotes value n := by
  cases value with
  | null | bool | number | str => rw [canonicalize]
  | arr | obj =>
    constructor
    · intro h
      cases h
    · intro h
      cases h

/-! ## Decoding -/

theorem decode_eq_ok_iff :
    decode origin document = .ok n ↔
      ∃ value, document.toJson origin = .ok value ∧ Denotes value n := by
  simp only [decode, Decoder.json, bind_eq_ok_iff, liftFault_eq_ok_iff,
    Record.liftMismatch_eq_ok_iff, ofJson_eq_ok_iff]

theorem decodeValue_eq : decodeValue decode value = Record.liftMismatch
    (ofJson value.canonicalize) := by
  rw [decodeValue, decode, Decoder.json,
    Document.toJson_ofJson_of_isCanonical (isCanonical_canonicalize value)]
  rfl

theorem decodeValue_eq_ok_iff : decodeValue decode value = .ok n ↔ Denotes value n := by
  rw [decodeValue_eq, Record.liftMismatch_eq_ok_iff, ofJson_eq_ok_iff, denotes_canonicalize_iff]

theorem takesValues_decode : Decoder.TakesValues decode := by
  intro origin document n h
  obtain ⟨value, taken, -⟩ := decode_eq_ok_iff.1 h
  exact ⟨value, taken⟩

theorem isIndex_of_decode (h : decode origin document = .ok n) : IsIndex n := by
  obtain ⟨value, -, denotes⟩ := decode_eq_ok_iff.1 h
  exact denotes.isIndex

theorem decode_number (index : IsIndex n) : decode origin (.number (.ok (.int n))) = .ok n :=
  decode_eq_ok_iff.2 ⟨_, rfl, denotes_number index⟩

/-- An index is meant by what it is written as. -/
theorem denotes_toString (index : IsIndex n) : Denotes (.str (toString n)) n := by
  have spells := Whole.spells_toString n
  refine denotes_text ?_ index
  rwa [toList_trim, trimChars_of_tight (tight_of_not_blank spells.not_blank)]

end RuleIndex

/-! ## Changes of index -/

namespace IndexUpdate

theorem orderly_record : record.Orderly where
  apart := by
    simp only [record, List.pairwise_pair]
    exact Field.apart_ofDecoder (fun _ _ _ => rfl) (fun _ _ => rfl) (fun _ _ => rfl)
  apartFrom := nofun
  store_comm := nofun

theorem readMember_id (id : String) :
    record.readMember .value {} (.name "_id") (.ofJson (Json.str id).canonicalize) =
      .ok { id := some id } := rfl

theorem readMember_index (id : String) (value : Json) :
    record.readMember .value { id := some id } (.name "rule_index") (.ofJson value.canonicalize) =
      (decodeValue RuleIndex.decode value).map fun n => ⟨some id, some n⟩ := rfl

/-- A change of index is decoded if the value of its index means one. -/
theorem decodeValue_eq_ok_iff {id : String} {value : Json} {u : IndexUpdate} :
    decodeValue decode (.obj [("_id", .str id), ("rule_index", value)]) = .ok u ↔
      u.id = id ∧ RuleIndex.Denotes value u.index := by
  have distinct : ([("_id", Json.str id), ("rule_index", value)].map (·.1)).Nodup :=
    show ["_id", "rule_index"].Nodup by decide
  rw [decode, Record.decodeValue_obj orderly_record distinct, Record.written]
  simp only [List.map_cons, List.map_nil, Record.readMembers_cons]
  constructor
  · rintro ⟨d, ⟨_, first, _, second, rest⟩, finish⟩
    cases (readMember_id id).symm.trans first
    rw [readMember_index] at second
    obtain ⟨n, decoded, rfl⟩ := map_eq_ok_iff.1 second
    cases rest
    cases finish
    exact ⟨rfl, RuleIndex.decodeValue_eq_ok_iff.1 decoded⟩
  · rintro ⟨rfl, denotes⟩
    refine ⟨⟨some u.id, some u.index⟩, ⟨_, readMember_id u.id, _, ?_, rfl⟩, rfl⟩
    rw [readMember_index]
    exact map_eq_ok_iff.2 ⟨u.index, RuleIndex.decodeValue_eq_ok_iff.2 denotes, rfl⟩

theorem decodeValue_encode {u : IndexUpdate} (index : RuleIndex.IsIndex u.index) :
    decodeValue decode u.encode = .ok u :=
  decodeValue_eq_ok_iff.2 ⟨rfl, RuleIndex.denotes_toString index⟩

end IndexUpdate

namespace RuleIndex

end RuleIndex

end FirewallOrder
