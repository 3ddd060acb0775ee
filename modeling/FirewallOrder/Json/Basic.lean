import FirewallOrder.Number.Shortest
/-!
# JSON values

A value is null, a truth value, a number, a text, an array or an object. The members of an object
have an order, but that order means nothing: the *canonical* form of a value lists every object's
members by ascending name and keeps one member for each name, the last one given. Names are compared
by code points, which is the order of their bytes in UTF-8.

`Json.Object` is an object in canonical form. The members that a rule carries beside its own are
kept in one.
-/

namespace FirewallOrder

/-- A number: whole as long as it fits into 64 bits, otherwise a double. -/
inductive JsonNumber
  | int (n : Int)
  | float (x : Binary64)
  deriving DecidableEq, Repr

inductive Json
  | null
  | bool (b : Bool)
  | number (n : JsonNumber)
  | str (s : String)
  | arr (items : List Json)
  | obj (members : List (String × Json))
  deriving Repr, Inhabited

namespace Json

/-! ## Equality -/

mutual

/-- Whether two values are the same is decidable. -/
def decideEq : (a b : Json) → Decidable (a = b)
  | .null, .null => isTrue rfl
  | .bool a, .bool b => decidable_of_iff (a = b) (by simp)
  | .number a, .number b => decidable_of_iff (a = b) (by simp)
  | .str a, .str b => decidable_of_iff (a = b) (by simp)
  | .arr a, .arr b =>
    match decideItemsEq a b with
    | isTrue h => isTrue (by rw [h])
    | isFalse h => isFalse (by simpa using h)
  | .obj a, .obj b =>
    match decideMembersEq a b with
    | isTrue h => isTrue (by rw [h])
    | isFalse h => isFalse (by simpa using h)
  | .null, .bool _ | .null, .number _ | .null, .str _ | .null, .arr _ | .null, .obj _
  | .bool _, .null | .bool _, .number _ | .bool _, .str _ | .bool _, .arr _ | .bool _, .obj _
  | .number _, .null | .number _, .bool _ | .number _, .str _ | .number _, .arr _
  | .number _, .obj _
  | .str _, .null | .str _, .bool _ | .str _, .number _ | .str _, .arr _ | .str _, .obj _
  | .arr _, .null | .arr _, .bool _ | .arr _, .number _ | .arr _, .str _ | .arr _, .obj _
  | .obj _, .null | .obj _, .bool _ | .obj _, .number _ | .obj _, .str _ | .obj _, .arr _ =>
    isFalse (by simp)

def decideItemsEq : (a b : List Json) → Decidable (a = b)
  | [], [] => isTrue rfl
  | [], _ :: _ | _ :: _, [] => isFalse (by simp)
  | x :: xs, y :: ys =>
    match decideEq x y, decideItemsEq xs ys with
    | isTrue h, isTrue t => isTrue (by rw [h, t])
    | isFalse h, _ => isFalse (by simp [h])
    | _, isFalse t => isFalse (by simp [t])

def decideMembersEq : (a b : List (String × Json)) → Decidable (a = b)
  | [], [] => isTrue rfl
  | [], _ :: _ | _ :: _, [] => isFalse (by simp)
  | (k, x) :: xs, (l, y) :: ys =>
    match decEq k l, decideEq x y, decideMembersEq xs ys with
    | isTrue g, isTrue h, isTrue t => isTrue (by rw [g, h, t])
    | isFalse g, _, _ => isFalse (by simp [g])
    | _, isFalse h, _ => isFalse (by simp [h])
    | _, _, isFalse t => isFalse (by simp [t])

end

instance : DecidableEq Json := decideEq

/-! ## Members by name -/

/-- The members with one of them set: it takes its place in ascending order of names, or replaces
the member of the same name. -/
def setMember (name : String) (value : Json) : List (String × Json) → List (String × Json)
  | [] => [(name, value)]
  | (k, v) :: rest =>
    if name < k then (name, value) :: (k, v) :: rest
    else if name = k then (name, value) :: rest
    else (k, v) :: setMember name value rest

/-- The members by ascending name, the last of each name. -/
def sortMembers (members : List (String × Json)) : List (String × Json) :=
  members.foldl (fun sorted m => setMember m.1 m.2 sorted) []

/-- The value of the first member with this name. -/
def member? (name : String) (members : List (String × Json)) : Option Json :=
  (members.find? fun m => m.1 == name).map (·.2)

/-- The value of the member with this name, when the value is an object. -/
def get? (name : String) : Json → Option Json
  | .obj members => member? name members
  | _ => none

/-! ## The canonical form -/

mutual

/-- The value with the members of every object by ascending name, the last of each name. -/
def canonicalize : Json → Json
  | .arr items => .arr (canonicalizeItems items)
  | .obj members => .obj (sortMembers (canonicalizeMembers members))
  | .null => .null
  | .bool b => .bool b
  | .number n => .number n
  | .str s => .str s

def canonicalizeItems : List Json → List Json
  | [] => []
  | x :: xs => canonicalize x :: canonicalizeItems xs

def canonicalizeMembers : List (String × Json) → List (String × Json)
  | [] => []
  | (k, x) :: xs => (k, canonicalize x) :: canonicalizeMembers xs

end

/-- The names ascend strictly. -/
def namesAscend (members : List (String × Json)) : Prop :=
  members.Pairwise fun a b => a.1 < b.1

instance (members : List (String × Json)) : Decidable (namesAscend members) :=
  inferInstanceAs (Decidable (members.Pairwise _))

mutual

/-- Every object in the value lists its members by strictly ascending name. -/
def IsCanonical : Json → Prop
  | .arr items => AreCanonical items
  | .obj members => namesAscend members ∧ MembersCanonical members
  | .null | .bool _ | .number _ | .str _ => True

def AreCanonical : List Json → Prop
  | [] => True
  | x :: xs => IsCanonical x ∧ AreCanonical xs

def MembersCanonical : List (String × Json) → Prop
  | [] => True
  | (_, x) :: xs => IsCanonical x ∧ MembersCanonical xs

end

/-- The members of an object in canonical form. -/
structure Object where
  members : List (String × Json)
  ascend : namesAscend members
  canonical : MembersCanonical members

instance : Inhabited Object := ⟨⟨[], List.Pairwise.nil, trivial⟩⟩

theorem Object.ext {a b : Object} (h : a.members = b.members) : a = b := by
  cases a
  cases b
  simp_all

instance : DecidableEq Object := fun a b =>
  decidable_of_iff (a.members = b.members) ⟨Object.ext, fun h => by rw [h]⟩

/-! ## Laws -/

theorem mem_setMember {name : String} {value : Json} {members : List (String × Json)}
    {m : String × Json} (h : m ∈ setMember name value members) :
    m = (name, value) ∨ m ∈ members := by
  induction members with
  | nil => simpa [setMember] using h
  | cons head rest ih =>
    obtain ⟨k, v⟩ := head
    unfold setMember at h
    split at h
    · simpa using h
    · split at h
      · rcases List.mem_cons.1 h with h | h
        · exact .inl h
        · exact .inr (List.mem_cons_of_mem _ h)
      · rcases List.mem_cons.1 h with h | h
        · exact .inr (h ▸ List.mem_cons_self)
        · exact (ih h).imp_right (List.mem_cons_of_mem _)

theorem membersCanonical_iff {members : List (String × Json)} :
    MembersCanonical members ↔ ∀ m ∈ members, IsCanonical m.2 := by
  induction members with
  | nil => simp [MembersCanonical]
  | cons head rest ih => simp [MembersCanonical, ih]

theorem namesAscend_setMember {members : List (String × Json)} (h : namesAscend members)
    (name : String) (value : Json) : namesAscend (setMember name value members) := by
  induction members with
  | nil => simp [setMember, namesAscend]
  | cons head rest ih =>
    obtain ⟨k, v⟩ := head
    have hk : ∀ m ∈ rest, k < m.1 := fun _ hm => List.rel_of_pairwise_cons h hm
    have hr := List.Pairwise.of_cons h
    unfold setMember
    split
    · rename_i hlt
      refine List.Pairwise.cons (fun m hm => ?_) h
      rcases List.mem_cons.1 hm with rfl | hm
      · exact hlt
      · exact String.lt_trans hlt (hk m hm)
    · split
      · rename_i heq
        subst heq
        exact List.Pairwise.cons (fun m hm => hk m hm) hr
      · rename_i hnlt hne
        refine List.Pairwise.cons (fun m hm => ?_) (ih hr)
        rcases mem_setMember hm with rfl | hm
        · exact Decidable.byContradiction fun hge =>
            hne (String.le_antisymm (String.not_lt.1 hge) (String.not_lt.1 hnlt))
        · exact hk m hm

theorem namesAscend_foldl_setMember (members : List (String × Json)) :
    ∀ {sorted : List (String × Json)}, namesAscend sorted →
      namesAscend (members.foldl (fun s m => setMember m.1 m.2 s) sorted) := by
  induction members with
  | nil => exact fun h => h
  | cons m rest ih => exact fun h => ih (namesAscend_setMember h m.1 m.2)

theorem namesAscend_sortMembers (members : List (String × Json)) :
    namesAscend (sortMembers members) :=
  namesAscend_foldl_setMember members List.Pairwise.nil

theorem mem_foldl_setMember (members : List (String × Json)) :
    ∀ {sorted : List (String × Json)} {m : String × Json},
      m ∈ members.foldl (fun s m => setMember m.1 m.2 s) sorted → m ∈ members ∨ m ∈ sorted := by
  induction members with
  | nil => exact fun h => .inr h
  | cons x rest ih =>
    intro sorted m h
    rcases ih h with h | h
    · exact .inl (List.mem_cons_of_mem _ h)
    · rcases mem_setMember h with rfl | h
      · exact .inl List.mem_cons_self
      · exact .inr h

/-- Sorting invents no member. -/
theorem mem_of_mem_sortMembers {members : List (String × Json)} {m : String × Json}
    (h : m ∈ sortMembers members) : m ∈ members :=
  (mem_foldl_setMember members h).elim id (fun h => by simp at h)

mutual

theorem isCanonical_canonicalize : (v : Json) → IsCanonical v.canonicalize
  | .null | .bool _ | .number _ | .str _ => by simp [canonicalize, IsCanonical]
  | .arr items => by
    simp only [canonicalize, IsCanonical]
    exact areCanonical_canonicalizeItems items
  | .obj members => by
    simp only [canonicalize, IsCanonical]
    exact ⟨namesAscend_sortMembers _, membersCanonical_iff.2 fun m hm =>
      membersCanonical_iff.1 (membersCanonical_canonicalizeMembers members) m
        (mem_of_mem_sortMembers hm)⟩

theorem areCanonical_canonicalizeItems : (items : List Json) →
    AreCanonical (canonicalizeItems items)
  | [] => trivial
  | x :: xs => ⟨isCanonical_canonicalize x, areCanonical_canonicalizeItems xs⟩

theorem membersCanonical_canonicalizeMembers : (members : List (String × Json)) →
    MembersCanonical (canonicalizeMembers members)
  | [] => trivial
  | (_, x) :: xs => ⟨isCanonical_canonicalize x, membersCanonical_canonicalizeMembers xs⟩

end

/-! ## Objects in canonical form -/

namespace Object

def empty : Object := ⟨[], List.Pairwise.nil, trivial⟩

/-- The object with one member set to the canonical form of a value. -/
def insert (o : Object) (name : String) (value : Json) : Object where
  members := setMember name value.canonicalize o.members
  ascend := namesAscend_setMember o.ascend name value.canonicalize
  canonical := membersCanonical_iff.2 fun m hm =>
    (mem_setMember hm).elim (fun e => e ▸ isCanonical_canonicalize value)
      (membersCanonical_iff.1 o.canonical m)

/-- The value of the member with this name. -/
def get? (o : Object) (name : String) : Option Json := member? name o.members

end Object

end Json

end FirewallOrder
