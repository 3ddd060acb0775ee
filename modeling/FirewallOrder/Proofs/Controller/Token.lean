import FirewallOrder.Http.Script
import FirewallOrder.Proofs.Controller.Act

/-!
# The token that a client shows

Whoever changes something at a controller shows a token, which came with an earlier reply. A client
keeps one token. `token_after` says for every act what it keeps of the answer. So the token that a
client shows is that of the last reply which carried one (`token_of_reorder`), where `Carries` says
which replies do.
-/

namespace FirewallOrder.Client

open Dialogue Http

/-- A request for an act, and what it brought. -/
structure Sent where
  act : Act
  turn : Exchanged

/-- The acts of a client one after the other, each with whatever answers the controller gave: all
that was sent for them, in order. -/
inductive History : Client → List Sent → Client → Prop
  | nil (c : Client) : History c [] c
  | act {c next last : Client} {act : Act} {turns : List Exchanged} {outcome : act.Outcome}
    {later : List Sent} (run : Run (act.perform c) turns (outcome, next))
    (rest : History next later last) : History c (turns.map (Sent.mk act) ++ later) last

/-! ## Replies that carry a token -/

/-- The value of a header is text: printable ASCII and tabs. -/
def IsReadable (value : String) : Prop := ∀ ch ∈ value.toList, (' ' ≤ ch ∧ ch ≤ '~') ∨ ch = '\t'

/-- The answer to an act carries a token. A reply to a call may do so whatever its status and its
body are. -/
inductive Carries : Act → Answer → String → Prop
  /-- A login was granted. -/
  | login {username password token : String} {reply : Reply} (granted : reply.isSuccess = true)
    (header : reply.header? "x-csrf-token" = some token) (readable : IsReadable token) :
    Carries (.login username password) (.ok reply) token
  /-- The token of a call is renewed. -/
  | renewed {act : Act} {token : String} {reply : Reply} (call : act.IsCall)
    (header : reply.header? "x-updated-csrf-token" = some token) (readable : IsReadable token) :
    Carries act (.ok reply) token
  /-- The token of a call is repeated, and none is named that renews it, be it readable or not. -/
  | repeated {act : Act} {token : String} {reply : Reply} (call : act.IsCall)
    (kept : reply.header? "x-updated-csrf-token" = none)
    (header : reply.header? "x-csrf-token" = some token) (readable : IsReadable token) :
    Carries act (.ok reply) token

/-- The token that a client takes from the answer to an act. -/
def Act.token? : Act → Answer → Option String
  | login .., .ok reply => if reply.isSuccess then loginToken? reply else none
  | list _, .ok reply | reorder .., .ok reply => replyToken? reply
  | logout, .ok _ | _, .error _ => none

variable {c c' : Client} {turns : List Exchanged} {act : Act} {answer : Answer} {reply : Reply}
  {token : String}

theorem readable?_eq_some_iff {value : String} :
    Reply.readable? value = some token ↔ value = token ∧ IsReadable value := by
  rw [Reply.readable?, Option.ite_some_none_eq_some, and_comm]
  simp [IsReadable]

theorem loginToken?_eq_some_iff :
    loginToken? reply = some token ↔
      reply.header? "x-csrf-token" = some token ∧ IsReadable token := by
  rw [loginToken?, Option.bind_eq_some_iff]
  constructor
  · rintro ⟨value, header, h⟩
    obtain ⟨rfl, readable⟩ := readable?_eq_some_iff.1 h
    exact ⟨header, readable⟩
  · rintro ⟨header, readable⟩
    exact ⟨token, header, readable?_eq_some_iff.2 ⟨rfl, readable⟩⟩

theorem replyToken?_eq_some_iff :
    replyToken? reply = some token ↔
      (reply.header? "x-updated-csrf-token" = some token ∨
        reply.header? "x-updated-csrf-token" = none ∧ reply.header? "x-csrf-token" = some token) ∧
      IsReadable token := by
  rw [replyToken?, Option.bind_eq_some_iff]
  constructor
  · rintro ⟨value, header, h⟩
    obtain ⟨rfl, readable⟩ := readable?_eq_some_iff.1 h
    exact ⟨Option.or_eq_some_iff.1 header, readable⟩
  · rintro ⟨header, readable⟩
    exact ⟨token, Option.or_eq_some_iff.2 header, readable?_eq_some_iff.2 ⟨rfl, readable⟩⟩

/-- A client takes the token that an answer carries, and no other. -/
theorem Act.token?_eq_some_iff : act.token? answer = some token ↔ Carries act answer token := by
  constructor
  · intro h
    cases answer with
    | error fault => cases act <;> cases h
    | ok reply =>
      cases act with
      | login username password =>
        obtain ⟨granted, h⟩ := Option.ite_none_right_eq_some.1 h
        obtain ⟨header, readable⟩ := loginToken?_eq_some_iff.1 h
        exact .login granted header readable
      | list site | reorder site ruleset updates =>
        obtain ⟨header | ⟨kept, header⟩, readable⟩ := replyToken?_eq_some_iff.1 h
        · exact .renewed trivial header readable
        · exact .repeated trivial kept header readable
      | logout => cases h
  · intro h
    cases h with
    | login granted header readable =>
      exact Option.ite_none_right_eq_some.2 ⟨granted, loginToken?_eq_some_iff.2 ⟨header, readable⟩⟩
    | renewed call header readable =>
      have := replyToken?_eq_some_iff.2 ⟨.inl header, readable⟩
      cases act with
      | list site | reorder site ruleset updates => exact this
      | login | logout => exact call.elim
    | repeated call kept header readable =>
      have := replyToken?_eq_some_iff.2 ⟨.inr ⟨kept, header⟩, readable⟩
      cases act with
      | list site | reorder site ruleset updates => exact this
      | login | logout => exact call.elim

/-! ## One act -/

/-- The client keeps the token that the answer brings, or else the one that it has. -/
theorem token_after (act : Act) (answer : Answer) (c : Client) :
    (act.after answer c).token = (act.token? answer).or c.token := by
  cases act with
  | login username password =>
    cases answer with
    | error fault => rfl
    | ok reply =>
      by_cases granted : reply.isSuccess = true <;>
        simp [Act.after, afterLogin, Act.token?, granted, withToken]
  | list site | reorder site ruleset updates => cases answer <;> rfl
  | logout => cases answer <;> rfl

theorem sent_of_perform {outcome : act.Outcome} (h : Run (act.perform c) turns (outcome, c')) :
    (turns = [] ∧ c'.token = c.token) ∨
      ∃ t, turns = [t] ∧ t.question.token = act.shown c.token ∧
        c'.token = (act.token? t.answer).or c.token ∧
        (t.question.token ≠ none → t.question.method = .post) := by
  rcases act.perform_cases c with ⟨e, failed⟩ | ⟨request, shown, posts, runs⟩
  · rw [failed] at h
    obtain ⟨rfl, same⟩ := run_done_iff.1 h
    cases same
    exact .inl ⟨rfl, rfl⟩
  · obtain ⟨answer, rfl, same⟩ := (runs _ _).1 h
    cases same
    exact .inr ⟨_, rfl, shown, token_after act answer _, posts⟩

/-! ## All acts -/

namespace Sent

def token? (s : Sent) : Option String := s.act.token? s.turn.answer

/-- The token that the last answer which carried one brought. -/
def latest? (log : List Sent) : Option String := log.reverse.findSome? token?

variable {s : Sent} {log earlier later : List Sent}

theorem latest?_cons (s : Sent) (log : List Sent) :
    latest? (s :: log) = (latest? log).or s.token? := by
  rw [latest?, List.reverse_cons, List.findSome?_append, List.findSome?_singleton, latest?]

theorem token?_eq_none_iff : s.token? = none ↔ ∀ other, ¬ Carries s.act s.turn.answer other := by
  rw [Option.eq_none_iff_forall_ne_some]
  exact forall_congr' fun other => not_congr Act.token?_eq_some_iff

theorem latest?_eq_some_iff :
    latest? log = some token ↔ ∃ front t back, log = front ++ t :: back ∧
    Carries t.act t.turn.answer token ∧
      ∀ u ∈ back, ∀ other, ¬ Carries u.act u.turn.answer other := by
  rw [latest?, List.findSome?_eq_some_iff]
  constructor
  · rintro ⟨back, t, front, hlog, carries, none_⟩
    refine ⟨front.reverse, t, back.reverse, ?_, Act.token?_eq_some_iff.1 carries, fun u hu => ?_⟩
    · rw [← List.reverse_reverse log, hlog]
      simp
    · exact token?_eq_none_iff.1 (none_ u (List.mem_reverse.1 hu))
  · rintro ⟨front, t, back, rfl, carries, none_⟩
    refine ⟨back.reverse, t, front.reverse, by simp, Act.token?_eq_some_iff.2 carries,
      fun u hu => ?_⟩
    exact token?_eq_none_iff.2 (none_ u (List.mem_reverse.1 hu))

end Sent

open Sent

variable {log : List Sent}

/-- What a request shows is what the client kept of the answers before it. -/
theorem shown_of_history (history : History c log c') {earlier later : List Sent} {s : Sent}
    (split : log = earlier ++ s :: later) :
    s.turn.question.token = s.act.shown ((latest? earlier).or c.token) ∧
      (s.turn.question.token ≠ none → s.turn.question.method = .post) := by
  induction history generalizing earlier with
  | nil => exact absurd split (by simp)
  | act run _ ih =>
    rcases sent_of_perform run with ⟨rfl, kept⟩ | ⟨t, rfl, shown, kept, posts⟩
    · rw [← kept]
      exact ih split
    -- The request is the one of this act, or it is sent later, and this act is one of those before
    -- it.
    · cases earlier with
      | nil =>
        obtain ⟨rfl, -⟩ := List.cons.inj split
        exact ⟨shown, posts⟩
      | cons first earlier =>
        obtain ⟨rfl, split'⟩ := List.cons.inj split
        rw [latest?_cons, Option.or_assoc, show (Sent.mk _ t).token?.or _ = _ from kept.symm]
        exact ih split'

/-- **The token that a client shows.** However many logins, listings, changes and logouts are asked
of a client that has no token yet, and whatever is answered to them: a request for a change shows
the token of the last answer before it that carried one, and none if no answer did. No other request
shows a token. -/
theorem token_of_reorder {base : Url} {platform : Platform} {connection : Connection}
    (history : History ⟨base, platform, none, connection⟩ log c')
    {earlier later : List Sent} {s : Sent} (split : log = earlier ++ s :: later) :
    (∀ site ruleset updates, s.act = .reorder site ruleset updates →
      ∀ token, s.turn.question.token = some token ↔
        ∃ front t back, earlier = front ++ t :: back ∧ Carries t.act t.turn.answer token ∧
          ∀ u ∈ back, ∀ other, ¬ Carries u.act u.turn.answer other) ∧
    ((∀ site ruleset updates, s.act ≠ .reorder site ruleset updates) →
      s.turn.question.token = none) ∧
    (s.turn.question.token ≠ none → s.turn.question.method = .post) := by
  obtain ⟨shown, posts⟩ := shown_of_history history split
  rw [Option.or_none] at shown
  refine ⟨fun site ruleset updates hact token => ?_, fun other => ?_, posts⟩
  · rw [shown, hact]
    exact latest?_eq_some_iff
  · rw [shown]
    cases hact : s.act with
    | reorder site ruleset updates => exact absurd hact (other site ruleset updates)
    | login | list | logout => rfl

/-- The acts of a client over a network with a script: what was sent for them, and the client after
them. -/
def play (n : Network) (c : Client) : List Act → List Sent × Client
  | [] => ([], c)
  | act :: acts =>
    let after := n.run (act.perform c)
    let rest := play after.2 after.1.2 acts
    (((act.perform c).turnsWith Network.answer n).map (Sent.mk act) ++ rest.1, rest.2)

theorem history_play (n : Network) (c : Client) (acts : List Act) :
    History c (play n c acts).1 (play n c acts).2 := by
  induction acts generalizing n c with
  | nil => exact .nil c
  | cons act acts ih => exact .act (run_interpret _ _ n) (ih _ _)

/-- A device that offers a token with every reply: with a refusal, with a login, with a listing that
it forbids and where it renews the token, with a logout, and, behind one that cannot be read, with
another listing. -/
def generous : Network :=
  ⟨fun _ => true, [.reply ⟨401, [("X-CSRF-Token", "zero")], some ""⟩,
    .reply ⟨200, [("x-csrf-token", "one")], some ""⟩,
    .reply ⟨403, [("X-CSRF-Token", "one"), ("X-Updated-CSRF-Token", "two")], none⟩,
    .reply ⟨200, [("X-CSRF-Token", "three")], some ""⟩,
    .reply ⟨200, [("X-Updated-CSRF-Token", "\u00e9"), ("X-CSRF-Token", "four")], some ""⟩, .drop],
    []⟩

/-- All that somebody sends to that device, a change of nothing at the end. -/
def rotation : List Sent :=
  (play generous ⟨Endpoint.ofDevice [""], .unifiOs, none, ⟨none⟩⟩
    [.login "admin" "wrong", .login "admin" "secret", .list "default", .logout, .list "default",
      .reorder "default" "LAN_IN" []]).1

/-- The change shows the token that came with the listing that was forbidden. -/
theorem token_of_reorder_rotation :
    ∃ _ : 5 < rotation.length, rotation[5].act = .reorder "default" "LAN_IN" [] ∧
      rotation[5].turn.question.token = some "two" := by
  have long : 5 < rotation.length := by decide +kernel
  have split : rotation = rotation.take 5 ++ rotation[5] :: rotation.drop 6 := by
    rw [← List.drop_eq_getElem_cons long, List.take_append_drop]
  have reorders : rotation[5].act = .reorder "default" "LAN_IN" [] := by rfl
  have carried : rotation[2].token? = some "two" := by rfl
  have silent : ∀ u ∈ (rotation.take 5).drop 3, u.token? = none := by decide +kernel
  obtain ⟨shows, -⟩ := token_of_reorder (history_play generous _ _) split
  refine ⟨long, reorders,
    (shows _ _ _ reorders "two").2 ⟨rotation.take 2, rotation[2], _, by rfl, ?_, ?_⟩⟩
  · exact Act.token?_eq_some_iff.1 carried
  · exact fun u hu => token?_eq_none_iff.1 (silent u hu)

end FirewallOrder.Client
