import Mathlib.Data.List.Induction
import FirewallOrder.Provider.Locks

/-!
# Who holds which lock

What became of a sequence of steps on locks is its history. Who holds a lock can be read off the
history alone: a guard is held from the step that took it until a step that gives it back (`Guard`).
A table that only says which guards are held answers the steps (`LockTable.step`), and says the same
as its history at every point (`LockTable.mem_held_after_iff`). Two guards of one lock are never
held at a time (`LockTable.guard_unique`), and no step on another lock makes a difference
(`LockTable.replies_of_kept`).
-/

namespace FirewallOrder

variable {ι : Type}

/-- A step of a history: what it answered, and the locks that it was about. -/
structure LockEvent (ι : Type) where
  step : LockStep ι
  answer : Bool
  about : List (Lock ι)
  deriving DecidableEq, Repr

namespace LockEvent

/-- The step was on this lock: it asked for it, or gave it back. -/
def isOn [DecidableEq ι] (lock : Lock ι) (e : LockEvent ι) : Bool := e.about.contains lock

/-- What was asked, and what was answered. -/
def reply (e : LockEvent ι) : LockStep ι × Bool := (e.step, e.answer)

end LockEvent

/-- After some events a guard of the lock is held under a name: it was taken at a place among the
events, and the name has not been released since. -/
structure Guard (past : List (LockEvent ι)) (name : String) (lock : Lock ι) (place : Nat) :
    Prop where
  taken : ∃ e, past[place]? = some e ∧ (∃ call, e.step = .acquire call name lock) ∧ e.answer = true
  kept : ∀ e ∈ past.drop (place + 1), e.step ≠ .release name

theorem guard_concat_iff {past : List (LockEvent ι)} {e : LockEvent ι} {name : String}
    {lock : Lock ι} {place : Nat} : Guard (past ++ [e]) name lock place ↔
      (Guard past name lock place ∧ e.step ≠ .release name) ∨
        (place = past.length ∧ (∃ call, e.step = .acquire call name lock) ∧ e.answer = true) := by
  constructor
  · rintro ⟨⟨f, hf, hstep, hanswer⟩, kept⟩
    rcases Nat.lt_trichotomy place past.length with before | rfl | behind
    · rw [List.getElem?_append_left before] at hf
      rw [List.drop_append_of_le_length before] at kept
      refine .inl ⟨⟨⟨f, hf, hstep, hanswer⟩, fun x hx => kept x (List.mem_append_left _ hx)⟩, ?_⟩
      exact kept e (List.mem_append_right _ List.mem_cons_self)
    · rw [List.getElem?_concat_length] at hf
      obtain rfl := Option.some.inj hf
      exact .inr ⟨rfl, hstep, hanswer⟩
    · have hlt := (List.getElem?_eq_some_iff.1 hf).1
      rw [List.length_append, List.length_singleton] at hlt
      omega
  · rintro (⟨⟨⟨f, hf, hstep, hanswer⟩, kept⟩, last⟩ | ⟨rfl, hstep, hanswer⟩)
    · have before := (List.getElem?_eq_some_iff.1 hf).1
      refine ⟨⟨f, (List.getElem?_append_left before).trans hf, hstep, hanswer⟩, ?_⟩
      rw [List.drop_append_of_le_length before]
      intro x hx
      rcases List.mem_append.1 hx with hx | hx
      · exact kept x hx
      · rwa [List.mem_singleton.1 hx]
    · refine ⟨⟨e, List.getElem?_concat_length, hstep, hanswer⟩, fun x hx => ?_⟩
      rw [List.drop_of_length_le (by simp)] at hx
      cases hx

/-- The locks that are held, each under the name that its guard is kept under. -/
@[ext] structure LockTable (ι : Type) where
  held : List (String × Lock ι)

namespace LockTable

variable [DecidableEq ι]

def empty : LockTable ι := ⟨[]⟩

def isHeld (t : LockTable ι) (lock : Lock ι) : Bool :=
  t.held.any fun h => h.2 == lock

/-- The table after a step, and whether the step did what it says. -/
def step (t : LockTable ι) : LockStep ι → Bool × LockTable ι
  | .acquire _ name lock =>
    if t.isHeld lock then (false, t) else (true, ⟨(name, lock) :: t.held⟩)
  | .release name =>
    if t.held.any fun h => h.1 == name then
      (true, ⟨t.held.filter fun h => h.1 != name⟩)
    else (false, t)

/-- The locks that a step is about: the one that it asks for, or those that it gives back. -/
def about (t : LockTable ι) : LockStep ι → List (Lock ι)
  | .acquire _ _ lock => [lock]
  | .release name => (t.held.filter fun h => h.1 == name).map (·.2)

/-- A step as it goes when the locks are held as the table says. -/
def event (t : LockTable ι) (s : LockStep ι) : LockEvent ι := ⟨s, (t.step s).1, t.about s⟩

/-- The table after some steps. -/
def after (t : LockTable ι) : List (LockStep ι) → LockTable ι
  | [] => t
  | s :: rest => (t.step s).2.after rest

/-- Some steps as they go, one after the other. -/
def history (t : LockTable ι) : List (LockStep ι) → List (LockEvent ι)
  | [] => []
  | s :: rest => t.event s :: (t.step s).2.history rest

variable {t : LockTable ι} {call : LockCall} {name : String} {lock : Lock ι}

@[simp] theorem step_event (t : LockTable ι) (s : LockStep ι) : (t.event s).step = s := rfl

/-! ## Single steps -/

theorem isHeld_iff : t.isHeld lock = true ↔ ∃ h ∈ t.held, h.2 = lock := by
  simp [isHeld]

theorem acquire_of_isHeld (h : t.isHeld lock = true) :
    t.step (.acquire call name lock) = (false, t) := by
  rw [step, if_pos h]

theorem acquire_of_not_isHeld (h : t.isHeld lock = false) :
    t.step (.acquire call name lock) = (true, ⟨(name, lock) :: t.held⟩) := by
  rw [step, if_neg (by rw [h]; exact Bool.false_ne_true)]

theorem acquire_iff : (t.step (.acquire call name lock)).1 = true ↔ ∀ h ∈ t.held, h.2 ≠ lock := by
  have answer : (t.step (.acquire call name lock)).1 = !t.isHeld lock := by
    rw [step]
    cases t.isHeld lock with
    | true => rfl
    | false => rfl
  rw [answer, Bool.not_eq_true', ← Bool.not_eq_true, isHeld_iff, not_exists]
  exact forall_congr' fun h => not_and

theorem release_iff : (t.step (.release name)).1 = true ↔ ∃ h ∈ t.held, h.1 = name := by
  rw [step]
  split
  · next found =>
    simpa using found
  · next none =>
    simpa using none

/-- After a release no guard is held under the name, and every other one is. -/
theorem held_release : (t.step (.release name)).2.held = t.held.filter fun h => h.1 != name := by
  rw [step]
  split
  · rfl
  · next none =>
    refine (List.filter_eq_self.2 fun h hmem => ?_).symm
    simp only [List.any_eq_true, beq_iff_eq, not_exists, not_and] at none
    exact bne_iff_ne.2 (none h hmem)

/-- A step that is answered with no leaves the table as it is. -/
theorem step_of_refused {s : LockStep ι} (refused : (t.step s).1 = false) : (t.step s).2 = t := by
  cases s with
  | acquire call name lock =>
    cases held : t.isHeld lock with
    | true => rw [acquire_of_isHeld held]
    | false =>
      rw [acquire_of_not_isHeld held] at refused
      cases refused
  | release name =>
    rw [step] at refused ⊢
    split at refused
    · cases refused
    · next none => rw [if_neg none]

/-- The guards that are held after a step: those from before that it does not give back, and the one
that it takes. -/
theorem mem_held_step_iff {s : LockStep ι} : (name, lock) ∈ (t.step s).2.held ↔
    ((name, lock) ∈ t.held ∧ s ≠ .release name) ∨
    ((∃ call, s = .acquire call name lock) ∧ (t.step s).1 = true) := by
  cases s with
  | acquire call asker asked =>
    cases held : t.isHeld asked with
    | true => simp [acquire_of_isHeld held]
    | false => simp [acquire_of_not_isHeld held, or_comm, eq_comm]
  | release releaser =>
    rw [held_release, List.mem_filter, bne_iff_ne, ne_comm]
    simp

/-! ## Histories -/

variable {steps : List (LockStep ι)}

theorem map_step_history (t : LockTable ι) (steps : List (LockStep ι)) :
    (t.history steps).map (·.step) = steps := by
  induction steps generalizing t with
  | nil => rfl
  | cons s rest ih => rw [history, List.map_cons, ih, event]

theorem history_append (t : LockTable ι) (first second : List (LockStep ι)) :
    t.history (first ++ second) = t.history first ++ (t.after first).history second := by
  induction first generalizing t with
  | nil => rfl
  | cons s rest ih => rw [List.cons_append, history, ih, history, List.cons_append, after]

theorem after_append (t : LockTable ι) (first second : List (LockStep ι)) :
    t.after (first ++ second) = (t.after first).after second := by
  induction first generalizing t with
  | nil => rfl
  | cons s rest ih => rw [List.cons_append, after, ih, after]

/-- A part of a history is the history of some of the steps. -/
theorem exists_of_history_eq_append {past later : List (LockEvent ι)}
    (h : t.history steps = past ++ later) :
    ∃ before rest, past = t.history before ∧ later = (t.after before).history rest := by
  induction past generalizing t steps with
  | nil => exact ⟨[], steps, rfl, h.symm⟩
  | cons e past ih =>
    cases steps with
    | nil => cases h
    | cons s steps =>
      obtain ⟨rfl, hrest⟩ := List.cons.inj h
      obtain ⟨before, rest, rfl, rfl⟩ := ih hrest
      exact ⟨s :: before, rest, rfl, rfl⟩

/-! ## Guards -/

/-- The table holds just the guards that are held by the history. -/
theorem mem_held_after_iff (steps : List (LockStep ι)) (name : String) (lock : Lock ι) :
    (name, lock) ∈ (empty.after steps).held ↔
      ∃ place, Guard (empty.history steps) name lock place := by
  induction steps using List.reverseRecOn with
  | nil =>
    constructor
    · rintro ⟨⟩
    · rintro ⟨place, ⟨e, he, -⟩, -⟩
      cases he
  | append_singleton steps s ih =>
    have last : (empty.after steps).history [s] = [(empty.after steps).event s] := rfl
    rw [after_append, history_append, last, exists_congr fun _ => guard_concat_iff, exists_or,
      exists_and_right, exists_eq_left, ← ih]
    exact mem_held_step_iff

/-- A lock is given exactly if no guard of it is held. -/
theorem acquire_answer_iff (steps : List (LockStep ι)) (call : LockCall) (name : String)
    (lock : Lock ι) : ((empty.after steps).step (.acquire call name lock)).1 = true ↔
      ∀ holder place, ¬ Guard (empty.history steps) holder lock place := by
  rw [acquire_iff]
  constructor
  · intro free holder place guard
    exact free _ ((mem_held_after_iff steps holder lock).2 ⟨place, guard⟩) rfl
  · rintro free ⟨holder, _⟩ held rfl
    obtain ⟨place, guard⟩ := (mem_held_after_iff steps holder _).1 held
    exact free holder place guard

theorem release_answer_iff (steps : List (LockStep ι)) (name : String) :
    ((empty.after steps).step (.release name)).1 = true ↔
      ∃ lock place, Guard (empty.history steps) name lock place := by
  rw [release_iff]
  constructor
  · rintro ⟨⟨_, lock⟩, held, rfl⟩
    exact ⟨lock, (mem_held_after_iff steps _ lock).1 held⟩
  · rintro ⟨lock, guard⟩
    exact ⟨_, (mem_held_after_iff steps name lock).2 guard, rfl⟩

/-- No two guards of a lock are held at a time. -/
theorem guard_unique {name' : String} {place place' : Nat}
    (h : Guard (empty.history steps) name lock place)
    (h' : Guard (empty.history steps) name' lock place') : name = name' ∧ place = place' := by
  induction steps using List.reverseRecOn with
  | nil =>
    obtain ⟨⟨e, he, -⟩, -⟩ := h
    cases he
  | append_singleton steps s ih =>
    have last : (empty.after steps).history [s] = [(empty.after steps).event s] := rfl
    rw [history_append, last] at h h'
    rcases guard_concat_iff.1 h with ⟨old, -⟩ | ⟨hplace, hstep, hanswer⟩
    · rcases guard_concat_iff.1 h' with ⟨old', -⟩ | ⟨-, hstep', hanswer'⟩
      · exact ih old old'
      · obtain ⟨call, rfl⟩ : ∃ call, s = .acquire call name' lock := hstep'
        exact absurd old ((acquire_answer_iff steps call name' lock).1 hanswer' name place)
    · obtain ⟨call, rfl⟩ : ∃ call, s = .acquire call name lock := hstep
      rcases guard_concat_iff.1 h' with ⟨old', -⟩ | ⟨hplace', hstep', -⟩
      · exact absurd old' ((acquire_answer_iff steps call name lock).1 hanswer name' place')
      · obtain ⟨call', same⟩ := hstep'
        cases same
        exact ⟨rfl, hplace.trans hplace'.symm⟩

/-! ## Steps on other locks -/

/-- The table with the guards of one lock only. -/
def only (t : LockTable ι) (lock : Lock ι) : LockTable ι := ⟨t.held.filter fun h => h.2 == lock⟩

theorem isOn_acquire_iff {asked : Lock ι} :
    (t.event (.acquire call name asked)).isOn lock = true ↔ asked = lock := by
  simp [event, about, LockEvent.isOn, eq_comm]

theorem isOn_release_iff : (t.event (.release name)).isOn lock = true ↔ (name, lock) ∈ t.held := by
  simp [event, about, LockEvent.isOn]

theorem isHeld_only (t : LockTable ι) (lock : Lock ι) :
    (t.only lock).isHeld lock = t.isHeld lock := by
  rw [Bool.eq_iff_iff, isHeld_iff, isHeld_iff]
  simp [only]

/-- A step on the lock goes as if no other lock were held. -/
theorem only_step {s : LockStep ι} (on : (t.event s).isOn lock = true) :
    (t.only lock).step s = ((t.step s).1, (t.step s).2.only lock) := by
  cases s with
  | acquire call name asked =>
    obtain rfl := isOn_acquire_iff.1 on
    cases held : t.isHeld asked with
    | true => rw [acquire_of_isHeld held, acquire_of_isHeld ((isHeld_only t asked).trans held)]
    | false =>
      rw [acquire_of_not_isHeld held, acquire_of_not_isHeld ((isHeld_only t asked).trans held)]
      simp [only]
  | release name =>
    have given : (name, lock) ∈ t.held := isOn_release_iff.1 on
    have kept : (name, lock) ∈ (t.only lock).held :=
      List.mem_filter.2 ⟨given, beq_self_eq_true lock⟩
    refine Prod.ext ?_ (LockTable.ext ?_)
    · exact (release_iff.2 ⟨_, kept, rfl⟩).trans (release_iff.2 ⟨_, given, rfl⟩).symm
    · rw [held_release, only, only, held_release, List.filter_filter, List.filter_filter]
      exact List.filter_congr fun h _ => Bool.and_comm _ _

/-- A step that is not on the lock leaves the guards of the lock as they are. -/
theorem only_step_of_not_isOn {s : LockStep ι} (other : (t.event s).isOn lock = false) :
    (t.step s).2.only lock = t.only lock := by
  rw [← Bool.not_eq_true] at other
  cases s with
  | acquire call name asked =>
    have hne : asked ≠ lock := fun same => other (isOn_acquire_iff.2 same)
    cases held : t.isHeld asked with
    | true => rw [acquire_of_isHeld held]
    | false =>
      rw [acquire_of_not_isHeld held]
      simp [only, hne]
  | release name =>
    refine LockTable.ext ?_
    rw [only, only, held_release, List.filter_filter]
    refine List.filter_congr fun h hmem => ?_
    by_cases hlock : h.2 = lock
    · have hname : h.1 ≠ name := by
        rintro rfl
        exact other (isOn_release_iff.2 (by rwa [← hlock]))
      simp [hlock, hname]
    · simp [hlock]

/-- Whether a step is on the lock depends on the guards of this lock alone. -/
theorem isOn_congr {u : LockTable ι} (same : t.only lock = u.only lock) (s : LockStep ι) :
    (t.event s).isOn lock = (u.event s).isOn lock := by
  rw [Bool.eq_iff_iff]
  cases s with
  | acquire call name asked => rw [isOn_acquire_iff, isOn_acquire_iff]
  | release name =>
    have mem (v : LockTable ι) : (name, lock) ∈ v.held ↔ (name, lock) ∈ (v.only lock).held := by
      simp [only]
    rw [isOn_release_iff, isOn_release_iff, mem t, mem u, same]

/-- Whichever steps that are not on the lock are left out, those on it go as they went. -/
theorem replies_of_kept {u : LockTable ι} (same : t.only lock = u.only lock)
    {keep : LockEvent ι → Bool} (kept : ∀ e ∈ t.history steps, e.isOn lock = true → keep e = true) :
    ((u.history (((t.history steps).filter keep).map (·.step))).filter
        (·.isOn lock)).map (·.reply) =
      ((t.history steps).filter (·.isOn lock)).map (·.reply) := by
  induction steps generalizing t u with
  | nil => rfl
  | cons s rest ih =>
    obtain ⟨keeps, kept⟩ := List.forall_mem_cons.1 kept
    cases on : (t.event s).isOn lock with
    | true =>
      have on' := (isOn_congr same s).symm.trans on
      -- Both tables answer the step alike, and still agree about the lock.
      have goes := only_step on
      rw [same, only_step on'] at goes
      obtain ⟨answer, after⟩ := Prod.mk.inj goes
      simp only [history, List.filter_cons_of_pos, keeps on, on, on', List.map_cons, step_event]
      rw [ih after.symm kept, LockEvent.reply, LockEvent.reply, event, event, answer]
    | false =>
      have on' := (isOn_congr same s).symm.trans on
      have still := only_step_of_not_isOn on
      cases keeping : keep (t.event s) with
      | true =>
        have still' := only_step_of_not_isOn on'
        simp only [history, List.filter_cons, keeping, on, on', if_true,
          Bool.false_eq_true, if_false, List.map_cons, step_event]
        exact ih (still.trans (same.trans still'.symm)) kept
      | false =>
        simp only [history, List.filter_cons, keeping, on, Bool.false_eq_true, if_false]
        exact ih (still.trans same) kept

end LockTable

end FirewallOrder
