import Mathlib.Data.List.Permutation
import FirewallOrder.Http.Script
import FirewallOrder.Proofs.Controller.Act
import FirewallOrder.Proofs.Controller.Envelope

/-!
# What a call makes of a reply

A listing brings rules if a reply of success holds an envelope that is `ok`, and no error of the
device: then it brings one rule for each item (`list_of_reply`). A controller that refuses a call
tells why in the envelope (`Envelope.Complaint`), but it is only heard if the items in the envelope
are right (`complaint_of_reply`).
-/

namespace FirewallOrder

open Dialogue Json Http

/-! ## Listings -/

namespace Client

variable {c : Client} {request : Request} {answer : Answer}

/-- **What a listing makes of a reply.** Of every reply with a whole body a listing makes one thing:
* rules, if and only if the status is one of success and the body is no error of the device, but an
  envelope that is `ok` and has these rules for its items, one for each and in their order;
* an expired session, if and only if the status or an error of the device says so, by the code 401;
* the error of the device, if the status is one of success and the body is one, be it an envelope
  too or not. If it makes an error about an unreadable body, all of the body is kept. -/
theorem list_of_reply {site : String} {first : Except ControllerError (List Rule) × Client}
    (sent : Run (c.list site) [⟨request, answer⟩] first) (reply : Reply) {body : String}
    (whole : reply.body = some body) :
    ∃ result c', (∀ last, Run (c.list site) [⟨request, .ok reply⟩] last ↔ last = (result, c')) ∧
      (∀ rules, result = .ok rules ↔ reply.isSuccess = true ∧ (∀ e, ¬ DeviceError.InBody body e) ∧
        ∃ about, Envelope.InBody Rule.decode body ⟨about, rules⟩ ∧ about.rc = "ok") ∧
      ((∃ message, result = .error (.authentication message)) ↔
        reply.status = 401 ∨ reply.isSuccess = true ∧
        ∃ message, DeviceError.InBody body ⟨401, message⟩) ∧
      (∀ e, result = .error e → (e.needsLogin = true ↔ ∃ message, e = .authentication message)) ∧
      (∀ e, reply.isSuccess = true → DeviceError.InBody body e →
        result = .error (Envelope.ofDeviceError e)) ∧
      ∀ message kept, result = .error (.unreadable message kept) → kept = body := by
  have listing : Run ((Act.list site).perform c) [⟨request, answer⟩] first := sent
  refine ⟨Envelope.unwrap Rule.decode reply, _, Act.run_iff_of_sent listing (.ok reply),
    fun rules => Envelope.unwrap_eq_ok_iff_of_body whole, ?_, fun e _ => e.needsLogin_iff,
    fun e success device => ?_, fun message kept => Envelope.kept_of_unwrap whole⟩
  · rw [exists_authentication_iff]
    exact Envelope.unwrap_needsLogin_iff Rule.decode whole
  · rw [Envelope.unwrap_of_body _ success whole]
    exact Envelope.ofBody_of_device _ device

def onDevice : Client := ⟨Endpoint.ofDevice [""], .classic, none, ⟨none⟩⟩

theorem Act.exists_sent (act : Act) (c : Client) (n : Network)
    (one : ((act.perform c).turnsWith Network.answer n).length = 1) :
    ∃ request answer first, Run (act.perform c) [⟨request, answer⟩] first := by
  obtain ⟨⟨request, answer⟩, turns⟩ := List.length_eq_one_iff.1 one
  have sent := run_interpret Network.answer (act.perform c) n
  rw [turns] at sent
  exact ⟨request, answer, _, sent⟩

/-- A rule with nothing but an id. -/
def bareRule (id : String) : Rule := ⟨id, none, none, "", 0, none, false, none, false, .empty⟩

def twoRules : String :=
  compact (.obj [("meta", .obj [("rc", .str "ok")]),
    ("data", .arr [.obj [("_id", .str "b")], .obj [("_id", .str "a")]])])

/-- An envelope without rules that is an error of the device as well. -/
def expired : String :=
  compact
    (.obj [("error", .obj [("code", .number (.int 401))]), ("meta", .obj [("rc", .str "ok")])])

theorem list_of_reply_expired :
    Envelope.InBody Rule.decode expired ⟨⟨"ok", none⟩, []⟩ ∧ ∃ request c' c'',
      Run (onDevice.list "default") [⟨request, .ok ⟨200, [], some twoRules⟩⟩]
        (.ok [bareRule "b", bareRule "a"], c') ∧
      Run (onDevice.list "default") [⟨request, .ok ⟨200, [], some expired⟩⟩]
        (.error (.authentication ""), c'') := by
  have rules : Envelope.InBody Rule.decode twoRules ⟨⟨"ok", none⟩, [bareRule "b", bareRule "a"]⟩ :=
    Envelope.decodeText_record_eq_ok_iff.1 (by decide +kernel)
  have noRules : Envelope.InBody Rule.decode expired ⟨⟨"ok", none⟩, []⟩ :=
    Envelope.decodeText_record_eq_ok_iff.1 (by decide +kernel)
  have noDevice : Envelope.deviceError? twoRules = none := by decide +kernel
  have device : Envelope.deviceError? expired = some ⟨401, none⟩ := by decide +kernel
  obtain ⟨request, answer, first, sent⟩ :=
    Act.exists_sent (.list "default") onDevice ⟨fun _ => true, [], []⟩ (by decide +kernel)
  replace sent : Run (onDevice.list "default") [⟨request, answer⟩] first := sent
  obtain ⟨result, c', runs, ok_iff, -⟩ := list_of_reply sent ⟨200, [], some twoRules⟩ rfl
  obtain ⟨result', c'', runs', -, -, -, ofDevice, -⟩ :=
    list_of_reply sent ⟨200, [], some expired⟩ rfl
  obtain rfl : result = .ok [bareRule "b", bareRule "a"] :=
    (ok_iff _).2 ⟨rfl, Envelope.deviceError?_eq_none_iff.1 noDevice, _, rules, rfl⟩
  obtain rfl : result' = .error (.authentication "") :=
    ofDevice _ rfl (Envelope.deviceError?_eq_some_iff.1 device)
  exact ⟨noRules, request, c', c'', (runs _).2 rfl, (runs' _).2 rfl⟩

end Client

/-! ## Complaints -/

namespace Envelope

/-- The body is an object where every name stands once, and with no error of the device, but with a
`meta` that is not `ok`. -/
structure Complaint (body : String) (members : List (Key × Document)) (about : Meta) : Prop where
  reads : Reads body (.obj members .closed)
  legible : ∀ m ∈ members, (∃ name, m.1 = .name name) ∧ m.2.skip = .ok ()
  distinct : (members.map (·.1)).Nodup
  noError : ∀ document, (.name "error", document) ∉ members
  complains : ∃ document, (.name "meta", document) ∈ members ∧ Meta.Says document about ∧
    about.rc ≠ "ok"

/-- What stands in `data`, if anything does, is an array, and each of its items is taken. -/
def Listing (Takes : Document → Prop) (members : List (Key × Document)) : Prop :=
  ∀ data, (.name "data", data) ∈ members →
    ∃ items, data = .arr items .closed ∧ ∀ item ∈ items, Takes item

variable {α : Type} {decode : Decoder α} {body : String} {members : List (Key × Document)}
  {about : Meta}

theorem listing_iff (distinct : (members.map (·.1)).Nodup) :
    Listing (fun item => ∃ a, decode (.text 125) item = .ok a) members ↔
      ∃ items, Items decode (named "data" members) items := by
  cases stands : named "data" members with
  | nil =>
    have absent := named_eq_nil_iff.1 stands
    exact ⟨fun _ => ⟨[], .absent⟩, fun _ data member => absurd member (absent data)⟩
  | cons data others =>
    -- All names are different, so nothing but this stands in `data`.
    have present : (.name "data", data) ∈ members := mem_named_iff.1 (by simp [stands])
    obtain ⟨-, rfl⟩ := List.cons.inj (stands.symm.trans (named_eq_singleton distinct present))
    constructor
    · intro listing
      obtain ⟨documents, rfl, taken⟩ := listing data present
      obtain ⟨items, each⟩ := exists_forall₂_iff.2 taken
      exact ⟨items, .listed each⟩
    · rintro ⟨items, ⟨⟩ | each⟩ data' member
      have same := mem_named_iff.2 member
      rw [stands, List.mem_singleton] at same
      exact ⟨_, same, exists_forall₂_iff.1 ⟨items, each⟩⟩

namespace Complaint

variable (h : Complaint body members about)
include h

theorem not_device (e : DeviceError) : ¬ DeviceError.InBody body e := by
  rintro ⟨document, reads, carried⟩
  obtain rfl := reads.unique h.reads
  obtain ⟨_, lays, -, only, -⟩ := carried
  cases lays
  rw [named_eq_nil_iff.2 h.noError] at only
  cases only

/-- The body is an envelope if its items are right, and it says what is complained of. -/
theorem inBody_iff {envelope : Envelope α} :
    InBody decode body envelope ↔
      envelope.about = about ∧ Items decode (named "data" members) envelope.data := by
  obtain ⟨document, member, isMeta, -⟩ := h.complains
  have only := named_eq_singleton h.distinct member
  constructor
  · rintro ⟨_, reads, envelope⟩
    obtain rfl := reads.unique h.reads
    obtain ⟨_, lays, -, only', isMeta', data⟩ := envelope
    cases lays
    cases only.symm.trans only'
    exact ⟨isMeta'.unique isMeta, data⟩
  · rintro ⟨rfl, data⟩
    have familiar : Record.Familiar ["meta", "data"] members := by
      intro m hm
      obtain ⟨⟨name, key⟩, skipped⟩ := h.legible m hm
      exact ⟨name, key, .inr skipped⟩
    exact ⟨_, h.reads, members, .obj members, familiar, only, isMeta, data⟩

theorem ofBody_cases (decode : Decoder α) :
    let listing := Listing (fun item => ∃ a, decode (.text 125) item = .ok a) members
    (listing ∧ ofBody decode body = .error (.refused (about.msg.getD ("rc=" ++ about.rc)))) ∨
      ¬ listing ∧ ∃ message, ofBody decode body = .error (.unreadable message body) := by
  intro listing
  by_cases right : listing
  · obtain ⟨items, data⟩ := (listing_iff h.distinct).1 right
    have inBody : InBody decode body ⟨about, items⟩ := h.inBody_iff.2 ⟨rfl, data⟩
    obtain ⟨_, -, -, complains⟩ := h.complains
    refine .inl ⟨right, ?_⟩
    rw [ofBody_of_envelope h.not_device inBody, answer, if_neg complains]
  · refine .inr ⟨right, ofBody_of_neither h.not_device fun envelope inBody => right ?_⟩
    exact (listing_iff h.distinct).2 ⟨_, (h.inBody_iff.1 inBody).2⟩

end Complaint

end Envelope

namespace Client

variable {c : Client} {act : Act} {request : Request} {answer : Answer} {reply : Reply}
  {body : String} {members : List (Key × Document)} {about : Meta}

/-- The call can decode this as an item of its answer: a listing wants rules, a change any
values. -/
def Act.Takes : Act → Document → Prop
  | list _, item => ∃ rule, Rule.decode (.text 125) item = .ok rule
  | reorder .., item => ∃ value, Decoder.json (.text 125) item = .ok value
  | login .., _ | logout, _ => False

theorem Act.outcome_list (site : String) (success : reply.isSuccess = true)
    (whole : reply.body = some body) :
    (Act.list site).outcome (.ok reply) = Envelope.ofBody Rule.decode body :=
  Envelope.unwrap_of_body Rule.decode success whole

theorem Act.outcome_reorder (site ruleset : String) (updates : List IndexUpdate)
    (success : reply.isSuccess = true) (whole : reply.body = some body) :
    (Act.reorder site ruleset updates).outcome (.ok reply) =
      (Envelope.ofBody Decoder.json body).map fun _ => () := by
  rw [← Envelope.unwrap_of_body Decoder.json success whole]
  rfl

/-- **What a call makes of a complaint.** If `data` is missing, or is an array of items that the
call can all decode, the call is refused in the words of the controller, or with its `rc` if it has
none. Otherwise those words are lost in an error about an unreadable body. -/
theorem complaint_of_reply (call : act.IsCall) {first : act.Outcome × Client}
    (sent : Run (act.perform c) [⟨request, answer⟩] first) (reply : Reply)
    (success : reply.isSuccess = true) (whole : reply.body = some body)
    (complaint : Envelope.Complaint body members about) :
    ∃ result c', (∀ last, Run (act.perform c) [⟨request, .ok reply⟩] last ↔ last = (result, c')) ∧
      ((Envelope.Listing act.Takes members ∧
        result = .error (.refused (about.msg.getD ("rc=" ++ about.rc)))) ∨
        ¬ Envelope.Listing act.Takes members ∧
        ∃ message, result = .error (.unreadable message body)) := by
  refine ⟨act.outcome (.ok reply), _, Act.run_iff_of_sent sent (.ok reply), ?_⟩
  cases act with
  | list site =>
    rw [Act.outcome_list site success whole]
    exact complaint.ofBody_cases Rule.decode
  | reorder site ruleset updates =>
    rw [Act.outcome_reorder site ruleset updates success whole]
    rcases complaint.ofBody_cases Decoder.json with ⟨listing, failed⟩ | ⟨noListing, message, failed⟩
    · exact .inl ⟨listing, by rw [failed]; rfl⟩
    · exact .inr ⟨noListing, message, by rw [failed]; rfl⟩
  | login | logout => exact call.elim

/-- An envelope with a complaint, and with this for its `data`. -/
def complaining (data : Json) : String :=
  compact
    (.obj [("meta", .obj [("rc", .str "error"), ("msg", .str "api.err.NoSiteContext")]),
      ("data", data)])

/-- Its members as they are read. -/
def complainingMembers (data : Document) : List (Key × Document) :=
  [(.name "meta",
    .obj [(.name "rc", .str (.ok "error")), (.name "msg", .str (.ok "api.err.NoSiteContext"))]
      .closed),
    (.name "data", data)]

theorem complaint_of_reads {data : Document}
    (reads : Reads body (.obj (complainingMembers data) .closed)) (legible : data.skip = .ok ()) :
    Envelope.Complaint body (complainingMembers data) ⟨"error", some "api.err.NoSiteContext"⟩ where
  reads := reads
  legible := by
    simp only [complainingMembers, List.forall_mem_cons]
    exact ⟨⟨⟨_, rfl⟩, rfl⟩, ⟨⟨_, rfl⟩, legible⟩, fun _ h => absurd h List.not_mem_nil⟩
  distinct := by simp [complainingMembers]
  noError := by simp [complainingMembers]
  complains := by
    refine ⟨_, List.mem_cons_self, ⟨_, .obj _, ?_, rfl, .text _⟩, by decide⟩
    simp [Record.Familiar]

/-- A null among the items is a value and no rule, so a change hears the complaint, and a listing
does not. -/
theorem complaint_of_reply_null :
    ∃ request request' message c' c'',
      Run (onDevice.reorder "default" "LAN_IN" [])
        [⟨request, .ok ⟨200, [], some (complaining (.arr [.null]))⟩⟩]
        (.error (.refused "api.err.NoSiteContext"), c') ∧
      Run (onDevice.list "default") [⟨request', .ok ⟨200, [], some (complaining (.arr [.null]))⟩⟩]
        (.error (.unreadable message (complaining (.arr [.null]))), c'') := by
  have reads :
      Reads (complaining (.arr [.null]))
        (.obj (complainingMembers (.arr [.null] .closed)) .closed) := by
    cbv
  have complaint := complaint_of_reads reads rfl
  obtain ⟨request, _, _, sent⟩ :=
    Act.exists_sent (.reorder "default" "LAN_IN" []) onDevice ⟨fun _ => true, [], []⟩
      (by decide +kernel)
  obtain ⟨request', _, _, sent'⟩ :=
    Act.exists_sent (.list "default") onDevice ⟨fun _ => true, [], []⟩ (by decide +kernel)
  -- From here on only what was read counts: a body that could still be evaluated would be, again
  -- and again.
  generalize complaining (.arr [.null]) = body at complaint ⊢
  obtain ⟨result, c', runs, heard⟩ :=
    complaint_of_reply (by trivial) sent ⟨200, [], some body⟩ rfl rfl complaint
  obtain ⟨result', c'', runs', unheard⟩ :=
    complaint_of_reply (by trivial) sent' ⟨200, [], some body⟩ rfl rfl complaint
  have values : Envelope.Listing (Act.reorder "default" "LAN_IN" []).Takes
      (complainingMembers (.arr [.null] .closed)) := by
    intro data member
    obtain rfl : data = .arr [.null] .closed := by simpa [complainingMembers] using member
    refine ⟨_, rfl, fun item hitem => ⟨.null, ?_⟩⟩
    rw [List.mem_singleton.1 hitem]
    rfl
  have noRules :
      ¬ Envelope.Listing (Act.list "default").Takes
        (complainingMembers (.arr [.null] .closed)) := by
    intro listing
    obtain ⟨items, same, rules⟩ := listing (.arr [.null] .closed) (by simp [complainingMembers])
    cases same
    obtain ⟨rule, decoded⟩ := rules _ List.mem_cons_self
    cases decoded
  obtain ⟨-, rfl⟩ := heard.resolve_right fun h => h.1 values
  obtain ⟨-, message, rfl⟩ := unheard.resolve_left fun h => noRules h.1
  exact ⟨request, request', message, c', c'', (runs _).2 rfl, (runs' _).2 rfl⟩

/-- A complaint is not heard beside a `data` that is null. -/
theorem unheard_beside_null :
    Envelope.Complaint (complaining .null) (complainingMembers .null)
      ⟨"error", some "api.err.NoSiteContext"⟩ ∧ ∃ request message c',
      Run (onDevice.list "default") [⟨request, .ok ⟨200, [], some (complaining .null)⟩⟩]
        (.error (.unreadable message (complaining .null)), c') := by
  have reads : Reads (complaining .null) (.obj (complainingMembers .null) .closed) := by cbv
  have complaint := complaint_of_reads reads rfl
  obtain ⟨request, _, _, sent⟩ :=
    Act.exists_sent (.list "default") onDevice ⟨fun _ => true, [], []⟩ (by decide +kernel)
  generalize complaining .null = body at complaint ⊢
  have noListing : ¬ Envelope.Listing (fun item => ∃ rule, Rule.decode (.text 125) item = .ok rule)
      (complainingMembers .null) := by
    intro listing
    obtain ⟨items, same, -⟩ := listing .null (by simp [complainingMembers])
    cases same
  obtain ⟨-, message, failed⟩ :=
    (complaint.ofBody_cases Rule.decode).resolve_left fun h => noListing h.1
  have run := (Act.run_iff_of_sent sent (.ok ⟨200, [], some body⟩) _).2 rfl
  rw [Act.outcome_list "default" rfl rfl, failed] at run
  exact ⟨complaint, request, message, _, run⟩

end Client

end FirewallOrder
