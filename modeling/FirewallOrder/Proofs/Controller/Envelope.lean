import FirewallOrder.Proofs.Text.Prefix
import FirewallOrder.Proofs.Controller.Shape

/-!
# Taking an answer out of its envelope

What `Envelope.unwrap` makes of a reply hangs on the status first. Only the body of a reply of
success is decoded: as an error of the device (`DeviceError.InBody`), and if it is none as an
envelope (`Envelope.InBody`). Where a message shows a body, it shows the beginning, and no character
in part (`beginning_longest`).
-/

namespace FirewallOrder

open Json Http

/-- The body is an error of the device. -/
def DeviceError.InBody (body : String) (e : DeviceError) : Prop :=
  ∃ document, Reads body document ∧ Carried document e

theorem ControllerError.needsLogin_iff (e : ControllerError) :
    e.needsLogin = true ↔ ∃ message, e = .authentication message := by
  cases e <;> simp [needsLogin]

theorem exists_authentication_iff {β : Type} {result : Except ControllerError β} :
    (∃ message, result = .error (.authentication message)) ↔
      ∃ e, result = .error e ∧ e.needsLogin = true := by
  simp only [ControllerError.needsLogin_iff]
  constructor
  · rintro ⟨message, failed⟩
    exact ⟨_, failed, message, rfl⟩
  · rintro ⟨_, failed, message, rfl⟩
    exact ⟨message, failed⟩

namespace Envelope

variable {α : Type}

/-- The body is an envelope. -/
def InBody (decode : Decoder α) (body : String) (envelope : Envelope α) : Prop :=
  ∃ document, Reads body document ∧ Says decode document envelope

/-- The answer in an envelope: nothing is taken out of one that is not `ok`. -/
def answer (envelope : Envelope α) : Except ControllerError (List α) :=
  if envelope.about.rc = "ok" then .ok envelope.data
  else .error (.refused (envelope.about.msg.getD ("rc=" ++ envelope.about.rc)))

variable {decode : Decoder α} {reply : Reply} {body : String} {envelope : Envelope α}
  {items : List α} {e : DeviceError}

/-! ## Errors -/

theorem needsLogin_ofDeviceError : (ofDeviceError e).needsLogin = true ↔ e.code = 401 := by
  by_cases expired : e.code = 401 <;> simp [ofDeviceError, expired, ControllerError.needsLogin]

theorem ofDeviceError_ne_unreadable (e : DeviceError) (message body : String) :
    ofDeviceError e ≠ .unreadable message body := by
  by_cases expired : e.code = 401 <;> simp [ofDeviceError, expired]

theorem answer_eq_ok_iff : envelope.answer = .ok items ↔
    envelope.about.rc = "ok" ∧ items = envelope.data := by
  by_cases granted : envelope.about.rc = "ok" <;> simp [answer, granted, eq_comm]

theorem exists_refused_of_answer {failure : ControllerError}
    (h : envelope.answer = .error failure) : ∃ message, failure = .refused message := by
  by_cases granted : envelope.about.rc = "ok"
  · simp [answer, granted] at h
  · simp only [answer, if_neg granted] at h
    cases h
    exact ⟨_, rfl⟩

/-! ## Bodies -/

theorem deviceError?_eq_some_iff : deviceError? body = some e ↔ DeviceError.InBody body e := by
  have decoded : deviceError? body = some e ↔
      decodeText DeviceError.wrapper.decode body = .ok (some e) := by
    cases found : decodeText DeviceError.wrapper.decode body <;>
      simp [deviceError?, found, Except.toOption]
  rw [decoded, decodeText_eq_ok_iff]
  exact exists_congr fun _ => and_congr_right fun _ => DeviceError.wrapper_decode_eq_ok_iff

theorem deviceError?_eq_none_iff : deviceError? body = none ↔ ∀ e, ¬ DeviceError.InBody body e := by
  rw [Option.eq_none_iff_forall_ne_some]
  exact forall_congr' fun _ => not_congr deviceError?_eq_some_iff

theorem decodeText_record_eq_ok_iff :
    decodeText (record decode).decode body = .ok envelope ↔ InBody decode body envelope := by
  rw [decodeText_eq_ok_iff]
  exact exists_congr fun _ => and_congr_right fun _ => decode_eq_ok_iff

/-- An error of the device counts, whatever else the body is. -/
theorem ofBody_of_device (decode : Decoder α) (device : DeviceError.InBody body e) :
    ofBody decode body = .error (ofDeviceError e) := by
  rw [ofBody, deviceError?_eq_some_iff.2 device]

theorem ofBody_of_envelope (noDevice : ∀ e, ¬ DeviceError.InBody body e)
    (inBody : InBody decode body envelope) : ofBody decode body = envelope.answer := by
  rw [ofBody, deviceError?_eq_none_iff.2 noDevice]
  simp [decodeText_record_eq_ok_iff.2 inBody, answer]

theorem ofBody_of_neither (noDevice : ∀ e, ¬ DeviceError.InBody body e)
    (noEnvelope : ∀ envelope, ¬ InBody decode body envelope) :
    ∃ message, ofBody decode body = .error (.unreadable message body) := by
  rw [ofBody, deviceError?_eq_none_iff.2 noDevice]
  cases decoded : decodeText (record decode).decode body with
  | error e => exact ⟨_, rfl⟩
  | ok envelope => exact absurd (decodeText_record_eq_ok_iff.1 decoded) (noEnvelope envelope)

theorem ofBody_cases (decode : Decoder α) (body : String) :
    (∃ e, DeviceError.InBody body e ∧ ofBody decode body = .error (ofDeviceError e)) ∨
      (∀ e, ¬ DeviceError.InBody body e) ∧
        ((∃ envelope, InBody decode body envelope ∧ ofBody decode body = envelope.answer) ∨
          (∀ envelope, ¬ InBody decode body envelope) ∧
            ∃ message, ofBody decode body = .error (.unreadable message body)) := by
  by_cases device : ∃ e, DeviceError.InBody body e
  · obtain ⟨e, device⟩ := device
    exact .inl ⟨e, device, ofBody_of_device decode device⟩
  · have noDevice := not_exists.1 device
    by_cases inBody : ∃ envelope, InBody decode body envelope
    · obtain ⟨envelope, inBody⟩ := inBody
      exact .inr ⟨noDevice, .inl ⟨envelope, inBody, ofBody_of_envelope noDevice inBody⟩⟩
    · have noEnvelope := not_exists.1 inBody
      exact .inr ⟨noDevice, .inr ⟨noEnvelope, ofBody_of_neither noDevice noEnvelope⟩⟩

theorem ofBody_eq_ok_iff :
    ofBody decode body = .ok items ↔ (∀ e, ¬ DeviceError.InBody body e) ∧
      ∃ envelope, InBody decode body envelope ∧ envelope.about.rc = "ok" ∧
      items = envelope.data := by
  constructor
  · intro h
    rcases ofBody_cases decode body with ⟨e, -, same⟩ |
      ⟨noDevice, ⟨envelope, inBody, same⟩ | ⟨-, message, same⟩⟩
    · cases same.symm.trans h
    · exact ⟨noDevice, envelope, inBody, answer_eq_ok_iff.1 (same.symm.trans h)⟩
    · cases same.symm.trans h
  · rintro ⟨noDevice, envelope, inBody, granted⟩
    rw [ofBody_of_envelope noDevice inBody]
    exact answer_eq_ok_iff.2 granted

/-! ## Replies -/

theorem unwrap_of_body (decode : Decoder α) (success : reply.isSuccess = true)
    (whole : reply.body = some body) : unwrap decode reply = ofBody decode body := by
  -- The two statuses that are looked at before are none of success.
  have range : 200 ≤ reply.status ∧ reply.status < 300 := by simpa [Reply.isSuccess] using success
  rw [unwrap, if_neg (by omega), if_neg (by omega), if_pos success, Reply.text, whole]

theorem unwrap_of_truncated (decode : Decoder α) (success : reply.isSuccess = true)
    (broken : reply.body = none) : unwrap decode reply = .error (.transport .truncated) := by
  have range : 200 ≤ reply.status ∧ reply.status < 300 := by simpa [Reply.isSuccess] using success
  rw [unwrap, if_neg (by omega), if_neg (by omega), if_pos success, Reply.text, broken]

theorem exists_error_of_not_isSuccess (decode : Decoder α) (failed : ¬ reply.isSuccess = true) :
    ∃ e, unwrap decode reply = .error e ∧ (e.needsLogin = true ↔ reply.status = 401) ∧
      ∀ message body, e ≠ .unreadable message body := by
  rw [unwrap]
  by_cases expired : reply.status = 401
  · rw [if_pos expired]
    exact ⟨_, rfl, by simp [expired, ControllerError.needsLogin], nofun⟩
  · rw [if_neg expired]
    by_cases forbidden : reply.status = 403
    · rw [if_pos forbidden]
      exact ⟨_, rfl, by simp [expired, ControllerError.needsLogin], nofun⟩
    · rw [if_neg forbidden, if_neg failed]
      exact ⟨_, rfl, by simp [expired, ControllerError.needsLogin], nofun⟩

theorem unwrap_eq_ok_iff :
    unwrap decode reply = .ok items ↔ reply.isSuccess = true ∧
      ∃ body, reply.body = some body ∧ ofBody decode body = .ok items := by
  by_cases success : reply.isSuccess = true
  · cases whole : reply.body with
    | none => simp [unwrap_of_truncated decode success whole]
    | some body => simp [unwrap_of_body decode success whole, success]
  · obtain ⟨e, failed, -⟩ := exists_error_of_not_isSuccess decode success
    simp [failed, success]

theorem unwrap_eq_ok_iff_of_body (whole : reply.body = some body) :
    unwrap decode reply = .ok items ↔ reply.isSuccess = true ∧ (∀ e, ¬ DeviceError.InBody body e) ∧
      ∃ about, InBody decode body ⟨about, items⟩ ∧ about.rc = "ok" := by
  rw [unwrap_eq_ok_iff, whole]
  refine and_congr_right fun _ => ?_
  constructor
  · rintro ⟨_, ⟨⟩, unwrapped⟩
    obtain ⟨noDevice, ⟨about, _⟩, inBody, granted, rfl⟩ := ofBody_eq_ok_iff.1 unwrapped
    exact ⟨noDevice, about, inBody, granted⟩
  · rintro ⟨noDevice, about, inBody, granted⟩
    exact ⟨body, rfl, ofBody_eq_ok_iff.2 ⟨noDevice, _, inBody, granted, rfl⟩⟩

theorem unwrap_needsLogin_iff (decode : Decoder α) (whole : reply.body = some body) :
    (∃ e, unwrap decode reply = .error e ∧ e.needsLogin = true) ↔
      reply.status = 401 ∨ reply.isSuccess = true ∧
      ∃ message, DeviceError.InBody body ⟨401, message⟩ := by
  by_cases success : reply.isSuccess = true
  · have granted : reply.status ≠ 401 := by
      intro expired
      simp [Reply.isSuccess, expired] at success
    rw [unwrap_of_body decode success whole]
    simp only [granted, success, false_or, true_and]
    constructor
    · rintro ⟨failure, failed, expired⟩
      rcases ofBody_cases decode body with ⟨e, device, same⟩ |
        ⟨-, ⟨envelope, -, same⟩ | ⟨-, _, same⟩⟩
      · cases same.symm.trans failed
        obtain ⟨code, message⟩ := e
        obtain rfl : code = 401 := needsLogin_ofDeviceError.1 expired
        exact ⟨message, device⟩
      · obtain ⟨message, rfl⟩ := exists_refused_of_answer (same.symm.trans failed)
        cases expired
      · cases same.symm.trans failed
        cases expired
    · rintro ⟨message, device⟩
      exact ⟨_, ofBody_of_device decode device, needsLogin_ofDeviceError.2 rfl⟩
  · obtain ⟨e, failed, expired, -⟩ := exists_error_of_not_isSuccess decode success
    simp [failed, success, expired]

theorem kept_of_unwrap {message kept : String} (whole : reply.body = some body)
    (h : unwrap decode reply = .error (.unreadable message kept)) : kept = body := by
  by_cases success : reply.isSuccess = true
  · rw [unwrap_of_body decode success whole] at h
    rcases ofBody_cases decode body with ⟨e, -, same⟩ | ⟨-, ⟨envelope, -, same⟩ | ⟨-, _, same⟩⟩
    · exact absurd (Except.error.inj (same.symm.trans h))
        (ofDeviceError_ne_unreadable e message kept)
    · obtain ⟨_, other⟩ := exists_refused_of_answer (same.symm.trans h)
      cases other
    · cases same.symm.trans h
      rfl
  · obtain ⟨e, failed, -, readable⟩ := exists_error_of_not_isSuccess decode success
    exact absurd (Except.error.inj (failed.symm.trans h)) (readable message kept)

/-! ## What is shown of a body -/

/-- **The beginning of an answer that a message shows.** For every answer,

* it is the longest beginning of the answer that takes at most 200 bytes, so all of an answer that
  takes no more;
* the way back to where it ends starts at byte 200, or where a shorter answer ends, passes three
  bytes at most, none of which is a boundary, and stops at a boundary of the answer;
* the cut at this place succeeds, and leaves the bytes before it. -/
theorem beginning_longest (body : String) :
    Text.LongestWithin 200 body (beginning body) ∧
    (body.utf8ByteSize ≤ 200 → beginning body = body) ∧
    ∃ place, let start := min body.utf8ByteSize 200
      Text.boundaryBack? body start = some place ∧ place ≤ start ∧ start ≤ place + 3 ∧
      Text.IsBoundary body place ∧ (∀ n, place < n → n ≤ start → ¬ Text.IsBoundary body n) ∧
      Text.before? body place = some (beginning body) ∧ (beginning body).utf8ByteSize = place := by
  obtain ⟨place, shown, back, near, before, cut, size, longest⟩ := Text.exists_cut? 200 body
  obtain rfl : beginning body = shown := by rw [beginning, shownBytes, cut, Option.getD_some]
  obtain ⟨boundary, le, last⟩ := Text.boundaryBack?_spec back
  exact ⟨longest, fun fits => longest.unique (Text.longestWithin_self fits), place, back, le, near,
    boundary, last, before, size⟩

/-- Byte 200 of an answer can be the last of a character of four, and then the way back passes three
bytes. -/
theorem beginning_longest_inside :
    let front := String.ofList ('é' :: List.replicate 65 '€')
    front.utf8ByteSize ≤ 200 ∧ beginning front = front ∧ beginning (front.push '😀') = front ∧
      Text.boundaryBack? (front.push '😀') 200 = some 197 := by
  intro front
  have fits : front.utf8ByteSize ≤ 200 := by decide +kernel
  have tooLong : ¬ (front.push '😀').utf8ByteSize ≤ 200 := by decide +kernel
  obtain ⟨longest, -, -⟩ := beginning_longest (front.push '😀')
  have shown : beginning (front.push '😀') = front := by
    have front_begins : front.toList <+: (front.push '😀').toList := by
      rw [String.toList_push]
      exact List.prefix_append _ _
    have reaches := longest.longest front front_begins fits
    have begins := longest.begins
    rw [String.toList_push] at begins
    rcases List.prefix_concat_iff.1 begins with whole | short
    · rw [← String.toList_push, String.toList_inj] at whole
      exact absurd (whole ▸ longest.within) tooLong
    · exact Text.eq_of_prefix_of_prefix short reaches
  exact ⟨fits, (beginning_longest front).2.1 fits, shown, by decide +kernel⟩

end Envelope

end FirewallOrder
