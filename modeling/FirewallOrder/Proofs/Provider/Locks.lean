import Mathlib.Data.List.Nodup
import FirewallOrder.Proofs.Provider.LockTable

/-!
# Locks exclude

The locks of many clients go as a table of their guards says (`LockScene.Represents`): as far as the
library of locks keeps what it promises (`Mutex.Lawful`), a lock is taken exactly if a guard of it
is out, and nobody stands in line for it. Every step preserves this (`LockScene.Represents.step`),
so every sequence of steps is answered as the table answers it (`LockScene.Represents.history_eq`).
From this come the laws of the locks (`LockScene.locks_exclude`).
-/

namespace FirewallOrder

variable {mutex : Mutex} {taken : mutex.State → Bool} {waiting : mutex.State → Nat}
  {kind kind' : SettingsKind}

/-! ## The two locks of a client -/

namespace SettingsLocks

variable {locks : SettingsLocks mutex} {state : mutex.State}

@[simp] theorem get_new : (new : SettingsLocks mutex).get kind = mutex.new := by
  cases kind <;> rfl

@[simp] theorem get_set : (locks.set kind state).get kind = state := by
  cases kind <;> rfl

theorem get_set_of_ne (other : kind' ≠ kind) :
    (locks.set kind state).get kind' = locks.get kind' := by
  cases kind <;> cases kind' <;> first | rfl | exact absurd rfl other

/-- Who asks for a lock and does not wait gets it exactly if nobody has it. Then somebody has it,
and the line is as long as it was. -/
theorem ask_of_lawful (lawful : mutex.Lawful taken waiting) (locks : SettingsLocks mutex)
    (kind : SettingsKind) (call : LockCall) :
    (locks.ask kind call).1 = !taken (locks.get kind) ∧
      ∃ state, (locks.ask kind call).2 = locks.set kind state ∧ taken state = true ∧
        waiting state = waiting (locks.get kind) := by
  cases call with
  | tryLock =>
    exact ⟨lawful.tryLock_answer _, _, rfl, lawful.tryLock_taken _, lawful.tryLock_waiting _⟩
  | lock =>
    have answer := lawful.lock_answer (locks.get kind)
    have line := lawful.lock_waiting (locks.get kind)
    have held := lawful.lock_taken (locks.get kind)
    rw [ask, lock]
    cases asked : mutex.lock (locks.get kind) with
    | mk granted state =>
      rw [asked] at answer line held
      cases granted with
      | true =>
        have free : taken (locks.get kind) = false := by simpa using answer
        rw [free, if_neg Bool.false_ne_true] at line
        exact ⟨answer, state, rfl, held, line⟩
      | false =>
        -- The last in the line is who asked, and leaves it at once.
        have busy : taken (locks.get kind) = true := by simpa using answer
        rw [if_pos busy] at line
        have someone : 0 < waiting state := line ▸ Nat.succ_pos _
        refine ⟨answer, mutex.giveUp state, ?_, ?_, ?_⟩
        · cases kind <;> rfl
        · rw [lawful.giveUp_taken someone, held]
        · rw [lawful.giveUp_waiting someone, line, Nat.add_sub_cancel]

end SettingsLocks

namespace LockScene

variable {ι : Type} [DecidableEq ι] {scene : LockScene mutex ι} {lock lock' : Lock ι}

/-- What a lock of the scene is. -/
def state (scene : LockScene mutex ι) (lock : Lock ι) : mutex.State :=
  (scene.locks lock.client).get lock.kind

/-- The locks that a step is about: the one that it asks for, or those that it gives back. -/
def about (scene : LockScene mutex ι) : LockStep ι → List (Lock ι)
  | .acquire _ _ lock => [lock]
  | .release name => (scene.guards.filter fun g => g.1 == name).map (·.2)

/-- A step as it goes in the scene. -/
def event (scene : LockScene mutex ι) (s : LockStep ι) : LockEvent ι :=
  ⟨s, (scene.step s).1, scene.about s⟩

/-- The scene after some steps. -/
def after (scene : LockScene mutex ι) : List (LockStep ι) → LockScene mutex ι
  | [] => scene
  | s :: rest => (scene.step s).2.after rest

/-- Some steps as they go, one after the other. -/
def history (scene : LockScene mutex ι) : List (LockStep ι) → List (LockEvent ι)
  | [] => []
  | s :: rest => scene.event s :: (scene.step s).2.history rest

theorem map_answer_history (scene : LockScene mutex ι) (steps : List (LockStep ι)) :
    (scene.history steps).map (·.answer) = scene.run steps := by
  induction steps generalizing scene with
  | nil => rfl
  | cons s rest ih =>
    rw [history, List.map_cons, ih]
    rfl

/-! ## Scenes after a change -/

/-- The scene after something was done with a lock. -/
def put (scene : LockScene mutex ι) (lock : Lock ι) (state : mutex.State) : LockScene mutex ι :=
  scene.set lock.client ((scene.locks lock.client).set lock.kind state)

theorem state_put {state : mutex.State} :
    (scene.put lock state).state lock' = if lock' = lock then state else scene.state lock' := by
  obtain ⟨client, kind⟩ := lock
  obtain ⟨client', kind'⟩ := lock'
  simp only [LockScene.state, put, set, Lock.mk.injEq]
  by_cases same : client' = client
  · subst same
    by_cases same : kind' = kind
    · subst same
      simp
    · simp [same, SettingsLocks.get_set_of_ne same]
  · simp [same]

theorem state_unlock :
    (scene.unlock lock).state lock' =
      if lock' = lock then mutex.unlock (scene.state lock) else scene.state lock' :=
  state_put

theorem guards_foldl_unlock (locks : List (Lock ι)) (scene : LockScene mutex ι) :
    (locks.foldl unlock scene).guards = scene.guards := by
  induction locks generalizing scene with
  | nil => rfl
  | cons lock locks ih => exact ih _

/-- Dropping guards of different locks changes these locks, each once. -/
theorem state_foldl_unlock {locks : List (Lock ι)} (distinct : locks.Nodup)
    (scene : LockScene mutex ι) :
    (locks.foldl unlock scene).state lock =
      if lock ∈ locks then mutex.unlock (scene.state lock) else scene.state lock := by
  induction locks generalizing scene with
  | nil => simp
  | cons first locks ih =>
    obtain ⟨fresh, distinct⟩ := List.nodup_cons.1 distinct
    rw [List.foldl_cons, ih distinct, state_unlock]
    by_cases same : lock = first
    · subst same
      simp [fresh]
    · simp [same]

/-- Who asks for a lock gets it unless it is taken. Either way it is taken then, and its line is as
long as it was. -/
theorem exists_step_acquire (lawful : mutex.Lawful taken waiting) (scene : LockScene mutex ι)
    (call : LockCall) (name : String) (lock : Lock ι) :
    ∃ state, taken state = true ∧ waiting state = waiting (scene.state lock) ∧
      scene.step (.acquire call name lock) =
        if taken (scene.state lock) then (false, scene.put lock state)
        else (true, { scene.put lock state with guards := (name, lock) :: scene.guards }) := by
  obtain ⟨answer, state, locks, held, line⟩ :=
    (scene.locks lock.client).ask_of_lawful lawful lock.kind call
  refine ⟨state, held, line, ?_⟩
  change _ = !taken (scene.state lock) at answer
  rw [step]
  cases asked : (scene.locks lock.client).ask lock.kind call with
  | mk granted after =>
    rw [asked] at answer locks
    subst locks
    cases busy : taken (scene.state lock) with
    | true =>
      obtain rfl : granted = false := by simpa [busy] using answer
      rfl
    | false =>
      obtain rfl : granted = true := by simpa [busy] using answer
      rfl

theorem step_release (scene : LockScene mutex ι) (name : String) : scene.step (.release name) =
    (!(scene.guards.filter fun g => g.1 == name).isEmpty,
      (scene.about (.release name)).foldl unlock
        { scene with guards := scene.guards.filter fun g => g.1 != name }) := by
  rw [step, List.partition_eq_filter_filter]
  rfl

/-! ## Scenes and tables -/

/-- The guards that are out are those that the table holds, no two of one lock. A lock is taken
exactly if the table holds it, and nobody stands in line. -/
structure Represents (taken : mutex.State → Bool) (waiting : mutex.State → Nat)
    (scene : LockScene mutex ι) (t : LockTable ι) : Prop where
  guards_eq : scene.guards = t.held
  distinct : (t.held.map (·.2)).Nodup
  taken_eq (lock : Lock ι) : taken (scene.state lock) = t.isHeld lock
  waiting_eq (lock : Lock ι) : waiting (scene.state lock) = 0

theorem represents_new (lawful : mutex.Lawful taken waiting) :
    (ofLocks fun _ : ι => (.new : SettingsLocks mutex)).Represents taken waiting .empty where
  guards_eq := rfl
  distinct := List.nodup_nil
  taken_eq lock := by rw [state, ofLocks, SettingsLocks.get_new, lawful.new_taken]; rfl
  waiting_eq lock := by rw [state, ofLocks, SettingsLocks.get_new, lawful.new_waiting]

namespace Represents

variable {t : LockTable ι} {s : LockStep ι}

theorem about_eq (r : scene.Represents taken waiting t) (s : LockStep ι) :
    scene.about s = t.about s := by
  cases s with
  | acquire => rfl
  | release name => rw [about, LockTable.about, r.guards_eq]

theorem acquire (lawful : mutex.Lawful taken waiting) (r : scene.Represents taken waiting t)
    (call : LockCall) (name : String) (lock : Lock ι) :
    (scene.step (.acquire call name lock)).1 = (t.step (.acquire call name lock)).1 ∧
      (scene.step (.acquire call name lock)).2.Represents taken waiting
        (t.step (.acquire call name lock)).2 := by
  obtain ⟨state, held, line, goes⟩ := exists_step_acquire lawful scene call name lock
  rw [r.taken_eq lock] at goes
  have waiting_eq (lock' : Lock ι) : waiting ((scene.put lock state).state lock') = 0 := by
    rw [state_put]
    split
    · exact line.trans (r.waiting_eq lock)
    · exact r.waiting_eq lock'
  cases isHeld : t.isHeld lock with
  | true =>
    rw [goes, isHeld, if_pos rfl, LockTable.acquire_of_isHeld isHeld]
    refine ⟨rfl, r.guards_eq, r.distinct, fun lock' => ?_, waiting_eq⟩
    rw [state_put]
    split
    · next same => rw [same, held, isHeld]
    · exact r.taken_eq lock'
  | false =>
    rw [goes, isHeld, if_neg Bool.false_ne_true, LockTable.acquire_of_not_isHeld isHeld]
    refine ⟨rfl, congrArg _ r.guards_eq, ?_, fun lock' => ?_, waiting_eq⟩
    · refine List.nodup_cons.2 ⟨fun h => ?_, r.distinct⟩
      obtain ⟨g, hg, same⟩ := List.mem_map.1 h
      rw [LockTable.isHeld_iff.2 ⟨g, hg, same⟩] at isHeld
      cases isHeld
    · refine Eq.trans (congrArg taken state_put) ?_
      rw [LockTable.isHeld, List.any_cons, ← LockTable.isHeld, ← r.taken_eq lock']
      split
      · next same => simp [same, held]
      · next other => simp [Ne.symm other]

/-- A lock that gives back nothing under the name is held as before, any other one not at all. -/
theorem isHeld_release (r : scene.Represents taken waiting t) (name : String) (lock : Lock ι) :
    (t.step (.release name)).2.isHeld lock =
      if lock ∈ t.about (.release name) then false else t.isHeld lock := by
  have after : (t.step (.release name)).2.isHeld lock = true ↔
      ∃ g ∈ t.held, g.1 ≠ name ∧ g.2 = lock := by
    rw [LockTable.isHeld_iff, LockTable.held_release]
    simp only [List.mem_filter, bne_iff_ne, and_assoc]
  have given : lock ∈ t.about (.release name) ↔ ∃ g ∈ t.held, g.1 = name ∧ g.2 = lock := by
    simp only [LockTable.about, List.mem_map, List.mem_filter, beq_iff_eq, and_assoc]
  rw [Bool.eq_iff_iff, after]
  split
  · next dropped =>
    refine iff_of_false ?_ Bool.false_ne_true
    rintro ⟨g, hg, other, same⟩
    obtain ⟨h, hh, named, same'⟩ := given.1 dropped
    -- A lock has one guard only.
    obtain rfl := List.inj_on_of_nodup_map r.distinct hg hh (same.trans same'.symm)
    exact other named
  · next kept =>
    rw [LockTable.isHeld_iff]
    refine exists_congr fun g => and_congr_right fun hg => ?_
    refine ⟨And.right, fun same => ⟨fun named => ?_, same⟩⟩
    exact kept (given.2 ⟨g, hg, named, same⟩)

theorem release (lawful : mutex.Lawful taken waiting) (r : scene.Represents taken waiting t)
    (name : String) :
    (scene.step (.release name)).1 = (t.step (.release name)).1 ∧
      (scene.step (.release name)).2.Represents taken waiting (t.step (.release name)).2 := by
  have dropped : (t.about (.release name)).Nodup := (List.filter_sublist.map _).nodup r.distinct
  have state_eq (lock : Lock ι) : (scene.step (.release name)).2.state lock =
      if lock ∈ t.about (.release name) then mutex.unlock (scene.state lock)
      else scene.state lock := by
    rw [step_release, r.about_eq, state_foldl_unlock dropped]
    rfl
  have held {lock : Lock ι} (given : lock ∈ t.about (.release name)) :
      taken (scene.state lock) = true := by
    obtain ⟨g, hg, same⟩ := List.mem_map.1 given
    rw [r.taken_eq, LockTable.isHeld_iff]
    exact ⟨g, (List.mem_filter.1 hg).1, same⟩
  refine ⟨?_, ?_, ?_, fun lock => ?_, fun lock => ?_⟩
  · rw [step_release, r.guards_eq, Bool.eq_iff_iff, LockTable.release_iff]
    simp
  · rw [step_release, guards_foldl_unlock, r.guards_eq, LockTable.held_release]
  · rw [LockTable.held_release]
    exact (List.filter_sublist.map _).nodup r.distinct
  · rw [state_eq, r.isHeld_release]
    split
    · next given => rw [lawful.unlock_taken (held given), r.waiting_eq]; rfl
    · exact r.taken_eq lock
  · rw [state_eq]
    split
    · next given => rw [lawful.unlock_waiting (held given), r.waiting_eq]
    · exact r.waiting_eq lock

/-- Scene and table answer a step alike, and the table still represents the scene. -/
theorem step (lawful : mutex.Lawful taken waiting) (r : scene.Represents taken waiting t)
    (s : LockStep ι) :
    (scene.step s).1 = (t.step s).1 ∧ (scene.step s).2.Represents taken waiting (t.step s).2 := by
  cases s with
  | acquire call name lock => exact r.acquire lawful call name lock
  | release name => exact r.release lawful name

theorem after (lawful : mutex.Lawful taken waiting) (r : scene.Represents taken waiting t)
    (steps : List (LockStep ι)) : (scene.after steps).Represents taken waiting (t.after steps) := by
  induction steps generalizing scene t with
  | nil => exact r
  | cons s rest ih => exact ih (r.step lawful s).2

/-- **The scene goes as the table says.** -/
theorem history_eq (lawful : mutex.Lawful taken waiting) (r : scene.Represents taken waiting t)
    (steps : List (LockStep ι)) : scene.history steps = t.history steps := by
  induction steps generalizing scene t with
  | nil => rfl
  | cons s rest ih =>
    obtain ⟨answer, r'⟩ := r.step lawful s
    rw [history, LockTable.history, ih r', event, LockTable.event, answer, r.about_eq]

end Represents

/-- **Locks exclude.** The locks of the clients of any number of providers are locks of their own.
For a library of locks that keeps what it promises, and for every sequence of steps on such locks:

* at no point are two guards of one lock held; a lock is taken exactly if a guard of it is held, and
  nobody stands in line;
* a step gets a lock exactly if no guard of this lock is held before it, and a name can be released
  exactly if a guard is held under it;
* a step in vain, such as a wait that was given up, leaves no trace: without it all other steps go
  as they went;
* the steps on a lock are answered the same whichever other steps are left out: all, or only those
  on locks of other clients, or only those on the other lock of the client. -/
theorem locks_exclude (lawful : mutex.Lawful taken waiting) (steps : List (LockStep ι)) :
    let start : LockScene mutex ι := .ofLocks fun _ => .new
    let history := start.history steps
    (∀ (config : ι → Access) (machine : ι → Machine),
      LockScene.ofLocks (fun i => (ProviderClient.new (config i) (machine i)).locks) = start) ∧
    history.map (·.step) = steps ∧ history.map (·.answer) = start.run steps ∧
    (∀ past later, history = past ++ later → ∀ lock,
      (∀ name place name' place', Guard past name lock place → Guard past name' lock place' →
        name = name' ∧ place = place') ∧
      (taken ((start.after (past.map (·.step))).state lock) = true ↔
        ∃ name place, Guard past name lock place) ∧
      waiting ((start.after (past.map (·.step))).state lock) = 0) ∧
    (∀ past e later, history = past ++ e :: later →
      (∀ call name lock, e.step = .acquire call name lock →
        (e.answer = true ↔ ∀ holder place, ¬ Guard past holder lock place)) ∧
      (∀ name, e.step = .release name →
        (e.answer = true ↔ ∃ lock place, Guard past name lock place)) ∧
      (e.answer = false → start.history ((past ++ later).map (·.step)) = past ++ later)) ∧
    ∀ lock (keep : LockEvent ι → Bool), (∀ e ∈ history, e.isOn lock = true → keep e = true) →
      ((start.history ((history.filter keep).map (·.step))).filter (·.isOn lock)).map (·.reply) =
        (history.filter (·.isOn lock)).map (·.reply) := by
  intro start history
  have fresh : start.Represents taken waiting .empty := represents_new lawful
  have same (steps : List (LockStep ι)) : start.history steps = LockTable.empty.history steps :=
    fresh.history_eq lawful steps
  refine ⟨fun _ _ => rfl, ?_, map_answer_history start steps, ?_, ?_, ?_⟩
  · exact (congrArg _ (same steps)).trans (LockTable.map_step_history _ _)
  · intro past later h lock
    obtain ⟨before, -, rfl, -⟩ := LockTable.exists_of_history_eq_append ((same steps).symm.trans h)
    have now := fresh.after lawful before
    rw [LockTable.map_step_history]
    refine ⟨fun _ _ _ _ => LockTable.guard_unique, ?_, now.waiting_eq lock⟩
    rw [now.taken_eq, LockTable.isHeld_iff]
    constructor
    · rintro ⟨⟨name, _⟩, held, rfl⟩
      exact ⟨name, (LockTable.mem_held_after_iff before name _).1 held⟩
    · rintro ⟨name, guard⟩
      exact ⟨(name, lock), (LockTable.mem_held_after_iff before name lock).2 guard, rfl⟩
  · intro past e later h
    obtain ⟨before, rest, rfl, hrest⟩ :=
      LockTable.exists_of_history_eq_append ((same steps).symm.trans h)
    cases rest with
    | nil => cases hrest
    | cons s rest =>
      obtain ⟨rfl, rfl⟩ := List.cons.inj hrest
      refine ⟨?_, ?_, ?_⟩
      · rintro call name lock rfl
        exact LockTable.acquire_answer_iff before call name lock
      · rintro name rfl
        exact LockTable.release_answer_iff before name
      · intro refused
        rw [LockTable.step_of_refused refused, ← LockTable.history_append,
          LockTable.map_step_history, same]
  · intro lock keep kept
    have goes : history = LockTable.empty.history steps := same steps
    rw [goes] at kept ⊢
    rw [same]
    exact LockTable.replies_of_kept rfl kept

/-- Three names want one lock, while the other locks of two clients are taken and given back. -/
def dispute : List (LockStep Nat) :=
  [.acquire .lock "a" wanted, .acquire .tryLock "b" ⟨1, .usg⟩, .acquire .lock "c" wanted,
    .acquire .tryLock "d" ⟨0, .radius⟩, .release "b", .release "a", .release "a",
    .acquire .tryLock "e" wanted]
where
  wanted : Lock Nat := ⟨0, .usg⟩

theorem locks_exclude_dispute :
    let start : LockScene .fair Nat := .ofLocks fun _ => .new
    let wanted := dispute.wanted
    let alone := start.history [.acquire .lock "a" wanted, .acquire .lock "c" wanted, .release "a",
      .acquire .tryLock "e" wanted]
    start.run dispute = [true, true, false, true, true, true, false, true] ∧
    (alone.filter (·.isOn wanted)).map (·.reply) =
      [(.acquire .lock "a" wanted, true), (.acquire .lock "c" wanted, false), (.release "a", true),
        (.acquire .tryLock "e" wanted, true)] ∧
    start.history (dispute.eraseIdx 2) = (start.history dispute).eraseIdx 2 ∧
    Guard ((start.history dispute).take 2) "a" wanted 0 ∧
    ¬ Guard ((start.history dispute).take 2) "b" wanted 1 := by
  intro start wanted alone
  obtain ⟨-, -, answers, points, laws, own⟩ := locks_exclude Mutex.fair_lawful dispute
  have guard : Guard ((start.history dispute).take 2) "a" wanted 0 :=
    ⟨⟨_, rfl, ⟨_, rfl⟩, rfl⟩, by decide⟩
  have parts : start.history dispute = (start.history dispute).take 2 ++ _ :: _ := rfl
  refine ⟨answers.symm.trans (by decide), ?_, (laws _ _ _ parts).2.2 rfl, guard, ?_⟩
  · exact (own wanted (·.isOn wanted) fun _ _ on => on).trans (by decide)
  · intro other
    obtain ⟨-, same⟩ := (points _ _ parts wanted).1 _ _ _ _ guard other
    cases same

end LockScene

end FirewallOrder
