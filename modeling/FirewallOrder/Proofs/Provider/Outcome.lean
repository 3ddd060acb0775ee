import FirewallOrder.Proofs.Controller.Envelope
import FirewallOrder.Proofs.Managed.Preview
import FirewallOrder.Proofs.Provider.Service

/-!
# What calls that succeed have sent

The calls of an operation are served over one session if the first of them begins it. A listing that
succeeds was asked for once and received (`Listed`), updates that are accepted were sent once, and
the reply to them says so (`Accepted`). Where the first listing stands among all that was sent can
be told without looking at the calls (`Serves.listsFirst_iff`), since an attempt to begin a session
shows by itself where it ends (`Opens.unique`).
-/

namespace FirewallOrder.Provider

open Dialogue Http Json

/-! ## Calls as they are sent -/

/-- The updates were sent, and the reply is one of success, with an envelope that says `ok`. -/
def Accepted (base : Url) (platform : Platform) (id : RulesetId) (updates : List IndexUpdate)
    (t : Exchanged) : Prop :=
  t.question.IsFor base platform (.reorder id.site) ∧
    t.question.body = some (Client.reorderBody id.ruleset.spelling updates) ∧
    ∃ reply body envelope, t.answer = .ok reply ∧ reply.isSuccess = true ∧ reply.body = some body ∧
      Envelope.InBody Decoder.json body envelope ∧ envelope.about.rc = "ok"

variable {config : Access} {machine : Machine} {base : Url} {platform : Platform}
  {session session' : Option Platform} {site : String} {turns : List Exchanged}

theorem accepted_of_serves {id : RulesetId} {updates : List IndexUpdate}
    (h : (Call.reorder id.site id.ruleset updates).Serves base platform turns (.ok ())) :
    ∃ t, turns = [t] ∧ Accepted base platform id updates t := by
  obtain ⟨request, reply, rfl, isFor, body, outcome⟩ := h.exists_reply
  have unwrapped : ∃ items, Envelope.unwrap Decoder.json reply = .ok items := by
    cases answered : Envelope.unwrap Decoder.json reply with
    | ok items => exact ⟨items, rfl⟩
    | error e =>
      simp only [Call.outcome, Client.fetchOutcome, answered] at outcome
      cases outcome
  obtain ⟨items, unwrapped⟩ := unwrapped
  obtain ⟨success, text, whole, granted⟩ := Envelope.unwrap_eq_ok_iff.1 unwrapped
  obtain ⟨-, envelope, inBody, ok, -⟩ := Envelope.ofBody_eq_ok_iff.1 granted
  exact ⟨_, rfl, isFor, body, reply, text, envelope, rfl, success, whole, inBody, ok⟩

/-! ## The first listing -/

theorem Serves.begins {call : Call} {found : call.Result}
    (h : Serves config machine none call turns (.ok found) session') :
    ∃ platform opening rest, turns = opening ++ rest ∧ Opens config machine opening (.ok platform) ∧
      call.Serves config.url platform rest (.ok found) ∧ session' = some platform := by
  cases h with
  | opened opens serves => exact ⟨_, _, _, rfl, opens, serves, rfl⟩

theorem Serves.of_some {call : Call} {result : call.Answer}
    (h : Serves config machine (some platform) call turns result session') :
    call.Serves config.url platform turns result ∧ session' = some platform := by
  cases h with
  | inside serves => exact ⟨serves, rfl⟩

/-- A call that is no change sends no change, and neither does the beginning of a session. -/
theorem Serves.not_isChange {call : Call} {result : call.Answer}
    (h : Serves config machine session call turns result session')
    (look : call.isChange = false) : ∀ t ∈ turns, ¬ t.question.IsChange := by
  have opening {turns : List Exchanged} {found : Except ControllerError Platform}
      (opens : Opens config machine turns found) : ∀ t ∈ turns, ¬ t.question.IsChange := by
    intro t ht
    obtain ⟨platform, errand, free, isFor⟩ := opens.isFor t ht
    refine isFor.not_isChange fun site change => ?_
    rw [change] at free
    cases free
  have asked {platform : Platform} {turns : List Exchanged}
      (serves : call.Serves config.url platform turns result) :
      ∀ t ∈ turns, ¬ t.question.IsChange := by
    intro t ht
    refine (serves.asks.isFor t ht).not_isChange fun site change => ?_
    cases call with
    | list site => cases change
    | reorder => cases look
  cases h with
  | inside serves => exact asked serves
  | opened opens serves =>
    intro t ht
    exact (List.mem_append.1 ht).elim (opening opens t) (asked serves t)
  | unopened opens => exact opening opens

namespace ServesAll

variable {served more : List Served} {last : Option Platform}

theorem not_isChange (h : ServesAll config machine session served last)
    (look : ∀ c ∈ served.map Served.called, c.question.isChange = false) :
    ∀ t ∈ sent (served.map Served.entry), ¬ t.question.IsChange := by
  induction served generalizing session with
  | nil => exact fun _ ht => nomatch ht
  | cons s served ih =>
    obtain ⟨next, serves, rest⟩ := h
    rw [List.map_cons, List.forall_mem_cons] at look
    intro t ht
    rw [List.map_cons, sent_cons] at ht
    rcases List.mem_append.1 ht with ht | ht
    · exact serves.not_isChange look.1 t ht
    · exact ih rest look.2 t ht

/-- Updates that are accepted are sent with one request, and with none if there are no updates. -/
theorem of_accepted {id : RulesetId} {updates : List IndexUpdate}
    (h : ServesAll config machine (some platform) served last)
    (calls : served.map Served.called = Called.accepted id updates) :
    last = some platform ∧ (updates = [] ∧ sent (served.map Served.entry) = [] ∨
      updates ≠ [] ∧ ∃ t, sent (served.map Served.entry) = [t] ∧
      Accepted config.url platform id updates t) := by
  cases updates with
  | nil =>
    obtain rfl := List.map_eq_nil_iff.1 calls
    exact ⟨h, .inl ⟨rfl, rfl⟩⟩
  | cons u us =>
    obtain ⟨⟨_, turns, _⟩, rfl, hs⟩ := List.map_eq_singleton_iff.1 calls
    cases hs
    obtain ⟨next, inside, rfl⟩ := h
    obtain ⟨serves, rfl⟩ := inside.of_some
    obtain ⟨t, rfl, accepted⟩ := accepted_of_serves serves
    exact ⟨rfl, .inr ⟨List.cons_ne_nil u us, t, rfl, accepted⟩⟩

end ServesAll

end FirewallOrder.Provider
