import FirewallOrder.Controller.Envelope
import FirewallOrder.Proofs.Json.Record

/-!
# The shapes of answers

Which documents are the error of a device (`DeviceError.Says`, `DeviceError.Carried`), and which are
an envelope (`Meta.Says`, `Envelope.Says`). Each is an object or an array of the same values in a
fixed order, and members that are not known do not matter.
-/

namespace FirewallOrder

open Json

variable {room : Nat} {document : Document}

/-- What the values of a member say that may be a text, null or missing. -/
inductive OptionalText : List Document → Option String → Prop
  | absent : OptionalText [] none
  | null : OptionalText [.null] none
  | text (s : String) : OptionalText [.str (.ok s)] (some s)

theorem optionalText_iff {δ α : Type} {r : Record δ α} (s : r.Slot (Option String))
    (decoder : s.decode = .optional .text) {origin : Origin} {members : List (Key × Document)}
    {message : Option String} : OptionalText (named s.name members) message ↔
      ∃ found, s.Holds origin members found ∧ message = found.getD none := by
  constructor
  · intro h
    generalize values : named s.name members = documents at h
    cases h with
    | absent => exact ⟨none, values, rfl⟩
    | null => exact ⟨some none, ⟨_, values, by rw [decoder]; rfl⟩, rfl⟩
    | text t => exact ⟨some (some t), ⟨_, values, by rw [decoder]; rfl⟩, rfl⟩
  · rintro ⟨found, holds, rfl⟩
    cases found with
    | none =>
      rw [show named s.name members = [] from holds]
      exact .absent
    | some value =>
      obtain ⟨document, one, decoded⟩ := holds
      rw [one]
      rw [decoder, Decoder.optional_eq_ok_iff] at decoded
      rcases decoded with ⟨rfl, rfl⟩ | ⟨-, t, decoded, rfl⟩
      · exact .null
      · rw [Decoder.text_eq_ok_iff.1 decoded]
        exact .text t

/-! ## Errors of the device -/

namespace DeviceError

/-- A document is this error: it has a code of 16 bits, and a message that may be null or, in an
object, missing. -/
inductive Says : Document → DeviceError → Prop
  | of {document : Document} {e : DeviceError} (members : List (Key × Document))
    (lays : record.Lays document members) (familiar : Record.Familiar ["code", "message"] members)
    (code : named "code" members = [.number (.ok (.int e.code))]) (small : e.code < 65536)
    (message : OptionalText (named "message" members) e.message) : Says document e

/-- A document carries this error. -/
inductive Carried : Document → DeviceError → Prop
  | of {document error : Document} {e : DeviceError} (members : List (Key × Document))
    (lays : wrapper.Lays document members) (familiar : Record.Familiar ["error"] members)
    (only : named "error" members = [error]) (isError : Says error e) : Carried document e

def codeSlot : record.Slot Nat :=
  .ofFields [] rfl nofun (Field.spared_singleton fun _ _ => rfl) rfl (fun _ _ => rfl) nofun

def messageSlot : record.Slot (Option String) :=
  .ofFields [_] rfl (by decide) (Field.spared_singleton fun _ _ => rfl) rfl (fun _ _ => rfl) nofun

theorem bound_eq : Whole.bound 16 = 65536 := by decide

theorem decode_eq_ok_iff {e : DeviceError} :
    record.decode (.text (room + 1)) document = .ok e ↔ Says document e := by
  rw [Record.decode_pair codeSlot messageSlot (by decide) rfl rfl
    (fun code message => do pure ⟨← require "code" code, message.getD none⟩) fun _ => rfl]
  constructor
  · rintro ⟨members, code, message, lays, familiar, hcode, hmessage, finish⟩
    obtain ⟨c, required, finish⟩ := bind_eq_ok_iff.1 finish
    obtain rfl := require_eq_ok_iff.1 required
    cases finish
    obtain ⟨value, one, decoded⟩ := hcode
    obtain ⟨rfl, small⟩ := Decoder.nat_eq_ok_iff.1 decoded
    exact ⟨members, lays, familiar, one, Nat.lt_of_lt_of_eq small bound_eq,
      (optionalText_iff messageSlot rfl).2 ⟨message, hmessage, rfl⟩⟩
  · rintro ⟨members, lays, familiar, code, small, message⟩
    obtain ⟨found, hmessage, same⟩ := (optionalText_iff messageSlot rfl).1 message
    have hcode : codeSlot.Holds (.text room) members (some e.code) := by
      refine ⟨_, code, ?_⟩
      rw [show codeSlot.decode = Decoder.nat 16 from rfl]
      exact Decoder.nat_eq_ok_iff.2 ⟨rfl, Nat.lt_of_lt_of_eq small bound_eq.symm⟩
    refine ⟨members, _, _, lays, familiar, hcode, hmessage, ?_⟩
    rw [← same]
    rfl

def errorSlot : wrapper.Slot (Option DeviceError) :=
  .ofFields [] rfl nofun nofun rfl (fun _ _ => rfl) nofun

theorem wrapper_decode_eq_ok_iff {e : DeviceError} :
    wrapper.decode (.text (room + 2)) document = .ok (some e) ↔ Carried document e := by
  rw [Record.decode_single errorSlot rfl rfl (fun error => .ok (error.getD none)) fun _ => rfl]
  constructor
  · rintro ⟨members, found, lays, familiar, holds, finish⟩
    obtain rfl : found = some (some e) := by
      cases found with
      | none => cases finish
      | some _ => exact congrArg some (Except.ok.inj finish)
    obtain ⟨error, only, decoded⟩ := holds
    rcases Decoder.optional_eq_ok_iff.1 decoded with ⟨-, none_⟩ | ⟨-, _, decoded, some_⟩
    · cases none_
    · cases some_
      exact ⟨members, lays, familiar, only, decode_eq_ok_iff.1 decoded⟩
  · rintro ⟨members, lays, familiar, only, isError⟩
    have decoded : record.decode (.text (room + 1)) _ = .ok e := decode_eq_ok_iff.2 isError
    refine ⟨members, some (some e), lays, familiar, ⟨_, only, ?_⟩, rfl⟩
    refine Decoder.optional_eq_ok_iff.2 (.inr ⟨?_, e, decoded, rfl⟩)
    rintro rfl
    cases decoded

end DeviceError

/-! ## Envelopes -/

namespace Meta

/-- A document says this about an answer: it has a text `rc`, and a text `msg` that may be null or
missing. -/
inductive Says : Document → Meta → Prop
  | of {document : Document} {about : Meta} (members : List (Key × Document))
    (lays : record.Lays document members) (familiar : Record.Familiar ["rc", "msg"] members)
    (rc : named "rc" members = [.str (.ok about.rc)])
    (msg : OptionalText (named "msg" members) about.msg) : Says document about

def rcSlot : record.Slot String :=
  .ofFields [] rfl nofun (Field.spared_singleton fun _ _ => rfl) rfl (fun _ _ => rfl) nofun

def msgSlot : record.Slot (Option String) :=
  .ofFields [_] rfl (by decide) (Field.spared_singleton fun _ _ => rfl) rfl (fun _ _ => rfl) nofun

theorem decode_eq_ok_iff {about : Meta} :
    record.decode (.text (room + 1)) document = .ok about ↔ Says document about := by
  rw [Record.decode_pair rcSlot msgSlot (by decide) rfl rfl
    (fun rc msg => do pure ⟨← require "rc" rc, msg.getD none⟩) fun _ => rfl]
  constructor
  · rintro ⟨members, rc, msg, lays, familiar, hrc, hmsg, finish⟩
    obtain ⟨s, required, finish⟩ := bind_eq_ok_iff.1 finish
    obtain rfl := require_eq_ok_iff.1 required
    cases finish
    obtain ⟨value, one, decoded⟩ := hrc
    obtain rfl := Decoder.text_eq_ok_iff.1 decoded
    exact ⟨members, lays, familiar, one, (optionalText_iff msgSlot rfl).2 ⟨msg, hmsg, rfl⟩⟩
  · rintro ⟨members, lays, familiar, rc, msg⟩
    obtain ⟨found, hmsg, same⟩ := (optionalText_iff msgSlot rfl).1 msg
    have hrc : rcSlot.Holds (.text room) members (some about.rc) := ⟨_, rc, rfl⟩
    refine ⟨members, _, _, lays, familiar, hrc, hmsg, ?_⟩
    rw [← same]
    rfl

theorem Says.unique {about about' : Meta} (h : Says document about) (h' : Says document about') :
    about = about' := by
  have decoded : record.decode (.text (0 + 1)) document = .ok about := decode_eq_ok_iff.2 h
  exact Except.ok.inj (decoded.symm.trans (decode_eq_ok_iff.2 h'))

end Meta

namespace Envelope

variable {α : Type}

/-- The values of a member list these items one by one, and none if it is missing. Each is decoded
two levels down. -/
inductive Items (decode : Decoder α) : List Document → List α → Prop
  | absent : Items decode [] []
  | listed {documents : List Document} {items : List α}
    (each : List.Forall₂ (fun document item => decode (.text 125) document = .ok item)
      documents items) :
    Items decode [.arr documents .closed] items

/-- A document is this envelope. -/
inductive Says (decode : Decoder α) : Document → Envelope α → Prop
  | of {document about : Document} {envelope : Envelope α} (members : List (Key × Document))
    (lays : (record decode).Lays document members)
    (familiar : Record.Familiar ["meta", "data"] members) (only : named "meta" members = [about])
    (isMeta : Meta.Says about envelope.about)
    (data : Items decode (named "data" members) envelope.data) : Says decode document envelope

variable {decode : Decoder α}

def aboutSlot (decode : Decoder α) : (record decode).Slot Meta :=
  .ofFields [] rfl nofun (Field.spared_singleton fun _ _ => rfl) rfl (fun _ _ => rfl) nofun

def dataSlot (decode : Decoder α) : (record decode).Slot (List α) :=
  .ofFields [_] rfl (List.forall_mem_singleton.2 (show "meta" ≠ "data" by decide))
    (Field.spared_singleton fun _ _ => rfl) rfl (fun _ _ => rfl) nofun

theorem items_iff {members : List (Key × Document)} {items : List α} :
    Items decode (named "data" members) items ↔
      ∃ found, (dataSlot decode).Holds (.text 126) members found ∧ items = found.getD [] := by
  constructor
  · intro h
    generalize values : named "data" members = documents at h
    cases h with
    | absent => exact ⟨none, values, rfl⟩
    | listed each =>
      exact ⟨some items, ⟨_, values, (Decoder.list_eq_ok_iff rfl).2 ⟨_, rfl, each⟩⟩, rfl⟩
  · rintro ⟨found, holds, rfl⟩
    cases found with
    | none =>
      rw [show named "data" members = [] from holds]
      exact .absent
    | some items =>
      obtain ⟨document, one, decoded⟩ := holds
      obtain ⟨documents, rfl, each⟩ := (Decoder.list_eq_ok_iff rfl).1 decoded
      rw [show named "data" members = _ from one]
      exact .listed each

theorem decode_eq_ok_iff {envelope : Envelope α} :
    (record decode).decode .wholeText document = .ok envelope ↔ Says decode document envelope := by
  have apart : (aboutSlot decode).name ≠ (dataSlot decode).name := show "meta" ≠ "data" by decide
  rw [show Origin.wholeText = .text (126 + 1) from rfl,
    Record.decode_pair (aboutSlot decode) (dataSlot decode)
    apart rfl rfl (fun about data => do pure ⟨← require "meta" about, data.getD []⟩) fun _ => rfl]
  constructor
  · rintro ⟨members, about, data, lays, familiar, habout, hdata, finish⟩
    obtain ⟨found, required, finish⟩ := bind_eq_ok_iff.1 finish
    obtain rfl := require_eq_ok_iff.1 required
    cases finish
    obtain ⟨value, only, decoded⟩ := habout
    exact ⟨members, lays, familiar, only, Meta.decode_eq_ok_iff.1 decoded,
      items_iff.2 ⟨data, hdata, rfl⟩⟩
  · rintro ⟨members, lays, familiar, only, isMeta, data⟩
    obtain ⟨found, hdata, same⟩ := items_iff.1 data
    have decoded : Meta.record.decode (.text (125 + 1)) _ = .ok envelope.about :=
      Meta.decode_eq_ok_iff.2 isMeta
    have habout : (aboutSlot decode).Holds (.text 126) members (some envelope.about) :=
      ⟨_, only, decoded⟩
    refine ⟨members, _, _, lays, familiar, habout, hdata, ?_⟩
    rw [← same]
    rfl

end Envelope

end FirewallOrder
