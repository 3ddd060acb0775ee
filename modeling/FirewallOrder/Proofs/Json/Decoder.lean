import FirewallOrder.Json.Decoder
import FirewallOrder.Proofs.Result

/-!
# Which texts can be decoded

For the decoders of single parts, the documents that they take, and what they make of them.
-/

namespace FirewallOrder.Json

@[simp] theorem liftFault_eq_ok_iff {α : Type} {x : Except Fault α} {a : α} :
    liftFault x = .ok a ↔ x = .ok a := by
  cases x <;> simp [liftFault]

@[simp] theorem readEnding_eq_ok_iff {ending : Ending} {u : Unit} :
    Document.readEnding ending = .ok u ↔ ending = .closed := by
  cases ending <;> simp [Document.readEnding]

namespace Decoder

variable {α : Type} {decode : Decoder α} {origin : Origin} {document : Document}

theorem text_eq_ok_iff {s : String} : text origin document = .ok s ↔ document = .str (.ok s) := by
  rw [text]
  unfold textAs
  split
  · simp
  · next other =>
    constructor
    · intro h
      cases h
    · intro h
      exact (other s h).elim

theorem nat_eq_ok_iff {bits n : Nat} :
    nat bits origin document = .ok n ↔
      document = .number (.ok (.int n)) ∧ n < Whole.bound bits := by
  unfold nat
  split
  · next m =>
    by_cases fits : 0 ≤ m ∧ m < Whole.bound bits
    · rw [if_pos fits]
      simp
      omega
    · rw [if_neg fits]
      simp
      omega
  · next other =>
    constructor
    · intro h
      cases h
    · rintro ⟨h, -⟩
      exact (other n h).elim

theorem optional_eq_ok_iff {found : Option α} :
    optional decode origin document = .ok found ↔ document = .null ∧ found = none ∨
      document ≠ .null ∧ ∃ a, decode origin document = .ok a ∧ found = some a := by
  unfold optional
  split
  · simp [eq_comm]
  · next other =>
    have noNull : document ≠ .null := fun h => other h
    rw [map_eq_ok_iff]
    simp [noNull, eq_comm]

theorem list_eq_ok_iff {inner : Origin} (inside : origin.inside = .ok inner) {values : List α} :
    list decode origin document = .ok values ↔
      ∃ items, document = .arr items .closed ∧
        List.Forall₂ (fun item value => decode inner item = .ok value) items values := by
  unfold list
  split
  · next items ending =>
    simp only [inside, bind_eq_ok_iff, liftFault_eq_ok_iff, readEnding_eq_ok_iff, mapM_eq_ok_iff,
      exists_const]
    constructor
    · rintro ⟨_, ⟨⟩, values', decoded, rfl, ⟨⟩⟩
      exact ⟨items, rfl, decoded⟩
    · rintro ⟨_, ⟨⟩, decoded⟩
      exact ⟨_, rfl, values, decoded, rfl, rfl⟩
  · next other =>
    constructor
    · intro h
      cases h
    · rintro ⟨items, h, -⟩
      exact (other items .closed h).elim

end Decoder

/-- The text is this document, and nothing stands behind it. -/
def Reads (s : String) (document : Document) : Prop := Document.ofText s = (document, .ok ())

theorem Reads.unique {s : String} {document document' : Document} (h : Reads s document)
    (h' : Reads s document') : document = document' :=
  congrArg Prod.fst (h.symm.trans h')

theorem decodeText_eq_ok_iff {α : Type} {decode : Decoder α} {s : String} {a : α} :
    decodeText decode s = .ok a ↔
      ∃ document, Reads s document ∧ decode .wholeText document = .ok a := by
  rcases read : Document.ofText s with ⟨document, behind⟩
  simp only [decodeText, Reads, read, bind_eq_ok_iff, liftFault_eq_ok_iff]
  constructor
  · rintro ⟨a', decoded, _, rfl, ⟨⟩⟩
    exact ⟨document, rfl, decoded⟩
  · rintro ⟨_, ⟨⟩, decoded⟩
    exact ⟨a, decoded, (), rfl, rfl⟩

end FirewallOrder.Json
