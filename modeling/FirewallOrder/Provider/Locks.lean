import FirewallOrder.Provider.Basic
/-!
# Locks

Two settings of a controller are shared by all who change them, so whoever changes one of them holds
its lock. Each client of a provider has its own two locks. The locks come from a library, of which
no more is known than what it says about mutual exclusion (`Mutex.Lawful`).

Who asks for a lock may be ready to wait for it. What is looked at here (`LockScene`) are clients
that do not wait in the end: who would have to wait gives up.
-/

namespace FirewallOrder

/-! ## Mutual exclusion -/

/-- Locks of a library, and what is done with one of them. -/
structure Mutex where
  State : Type
  new : State
  /-- Takes the lock if nobody has it: whether it was taken. -/
  tryLock : State → Bool × State
  /-- Asks for the lock, and stands in line for it if somebody has it: whether it was taken at
  once. -/
  lock : State → Bool × State
  /-- The last in the line leaves it. -/
  giveUp : State → State
  /-- Whoever has the lock gives it back: the first in the line has it then. -/
  unlock : State → State

/-- What the library promises, in terms of whether somebody has a lock and how many stand in
line. -/
structure Mutex.Lawful (mutex : Mutex) (taken : mutex.State → Bool) (waiting : mutex.State → Nat) :
    Prop where
  new_taken : taken mutex.new = false
  new_waiting : waiting mutex.new = 0
  tryLock_answer (s : mutex.State) : (mutex.tryLock s).1 = !taken s
  tryLock_taken (s : mutex.State) : taken (mutex.tryLock s).2 = true
  tryLock_waiting (s : mutex.State) : waiting (mutex.tryLock s).2 = waiting s
  lock_answer (s : mutex.State) : (mutex.lock s).1 = !taken s
  lock_taken (s : mutex.State) : taken (mutex.lock s).2 = true
  lock_waiting (s : mutex.State) :
    waiting (mutex.lock s).2 = if taken s then waiting s + 1 else waiting s
  giveUp_taken {s : mutex.State} (line : 0 < waiting s) : taken (mutex.giveUp s) = taken s
  giveUp_waiting {s : mutex.State} (line : 0 < waiting s) :
    waiting (mutex.giveUp s) = waiting s - 1
  unlock_taken {s : mutex.State} (held : taken s = true) :
    taken (mutex.unlock s) = decide (0 < waiting s)
  unlock_waiting {s : mutex.State} (held : taken s = true) :
    waiting (mutex.unlock s) = waiting s - 1

namespace Mutex

/-- Whether somebody has a lock, and how many stand in line for it. -/
structure Line where
  taken : Bool
  waiting : Nat
  deriving DecidableEq, Repr

/-- The lock that keeps nothing but its line. -/
def fair : Mutex where
  State := Line
  new := ⟨false, 0⟩
  tryLock := fun s => (!s.taken, { s with taken := true })
  lock := fun s => (!s.taken, ⟨true, if s.taken then s.waiting + 1 else s.waiting⟩)
  giveUp := fun s => { s with waiting := s.waiting - 1 }
  unlock := fun s => ⟨decide (0 < s.waiting), s.waiting - 1⟩

theorem fair_lawful : fair.Lawful Line.taken Line.waiting where
  new_taken := rfl
  new_waiting := rfl
  tryLock_answer _ := rfl
  tryLock_taken _ := rfl
  tryLock_waiting _ := rfl
  lock_answer _ := rfl
  lock_taken _ := rfl
  lock_waiting _ := rfl
  giveUp_taken _ := rfl
  giveUp_waiting _ := rfl
  unlock_taken _ := rfl
  unlock_waiting _ := rfl

end Mutex

/-! ## The locks of a client -/

/-- The settings that have a lock. -/
inductive SettingsKind
  | usg
  | radius
  deriving DecidableEq, Repr

/-- The two locks. -/
structure SettingsLocks (mutex : Mutex) where
  usg : mutex.State
  radius : mutex.State

namespace SettingsLocks

variable {mutex : Mutex}

def new : SettingsLocks mutex := ⟨mutex.new, mutex.new⟩

/-- The lock of a setting. -/
def get (locks : SettingsLocks mutex) : SettingsKind → mutex.State
  | .usg => locks.usg
  | .radius => locks.radius

/-- The locks after something was done with the lock of a setting. -/
def set (locks : SettingsLocks mutex) (kind : SettingsKind) (state : mutex.State) :
    SettingsLocks mutex :=
  match kind with
  | .usg => { locks with usg := state }
  | .radius => { locks with radius := state }

def tryLock (locks : SettingsLocks mutex) (kind : SettingsKind) : Bool × SettingsLocks mutex :=
  (mutex.tryLock (locks.get kind)).map id (locks.set kind)

def lock (locks : SettingsLocks mutex) (kind : SettingsKind) : Bool × SettingsLocks mutex :=
  (mutex.lock (locks.get kind)).map id (locks.set kind)

def giveUp (locks : SettingsLocks mutex) (kind : SettingsKind) : SettingsLocks mutex :=
  locks.set kind (mutex.giveUp (locks.get kind))

def unlock (locks : SettingsLocks mutex) (kind : SettingsKind) : SettingsLocks mutex :=
  locks.set kind (mutex.unlock (locks.get kind))

end SettingsLocks

/-- A provider with its locks. -/
structure ProviderClient (mutex : Mutex) where
  provider : Provider
  locks : SettingsLocks mutex

/-- A client that has not spoken to its controller yet. -/
def ProviderClient.new {mutex : Mutex} (config : Access) (machine : Machine) :
    ProviderClient mutex :=
  ⟨.start config machine, .new⟩

/-! ## Many clients -/

/-- One of the locks of many clients. -/
structure Lock (ι : Type) where
  client : ι
  kind : SettingsKind
  deriving DecidableEq, Repr

/-- How somebody asks for a lock. -/
inductive LockCall
  | tryLock
  /-- Who would have to wait gives up. -/
  | lock
  deriving DecidableEq, Repr

inductive LockStep (ι : Type)
  /-- Asks for a lock; its guard is kept under a name. -/
  | acquire (call : LockCall) (name : String) (lock : Lock ι)
  /-- Drops what is kept under a name. -/
  | release (name : String)
  deriving DecidableEq, Repr

/-- The locks of many clients, and the guards that are out. -/
structure LockScene (mutex : Mutex) (ι : Type) where
  locks : ι → SettingsLocks mutex
  guards : List (String × Lock ι)

/-- Asks for the lock of a setting, without waiting for it. -/
def SettingsLocks.ask {mutex : Mutex} (locks : SettingsLocks mutex) (kind : SettingsKind) :
    LockCall → Bool × SettingsLocks mutex
  | .tryLock => locks.tryLock kind
  | .lock =>
    match locks.lock kind with
    | (true, locks) => (true, locks)
    | (false, locks) => (false, locks.giveUp kind)

namespace LockScene

variable {mutex : Mutex} {ι : Type} [DecidableEq ι]

/-- Locks that no guard is out of. -/
def ofLocks (locks : ι → SettingsLocks mutex) : LockScene mutex ι := ⟨locks, []⟩

/-- The scene after something was done with the locks of a client. -/
def set (scene : LockScene mutex ι) (client : ι) (locks : SettingsLocks mutex) :
    LockScene mutex ι :=
  { scene with locks := fun i => if i = client then locks else scene.locks i }

/-- A guard of the lock is dropped. -/
def unlock (scene : LockScene mutex ι) (lock : Lock ι) : LockScene mutex ι :=
  scene.set lock.client ((scene.locks lock.client).unlock lock.kind)

/-- The scene after a step, and whether the step did what it says. -/
def step (scene : LockScene mutex ι) : LockStep ι → Bool × LockScene mutex ι
  | .acquire call name lock =>
    match (scene.locks lock.client).ask lock.kind call with
    | (true, locks) =>
      (true, { scene.set lock.client locks with guards := (name, lock) :: scene.guards })
    | (false, locks) => (false, scene.set lock.client locks)
  | .release name =>
    let (dropped, kept) := scene.guards.partition fun g => g.1 == name
    (!dropped.isEmpty, (dropped.map (·.2)).foldl unlock { scene with guards := kept })

/-- What each of the steps answers, in order. -/
def run (scene : LockScene mutex ι) : List (LockStep ι) → List Bool
  | [] => []
  | s :: rest => (scene.step s).1 :: (scene.step s).2.run rest

end LockScene

end FirewallOrder
