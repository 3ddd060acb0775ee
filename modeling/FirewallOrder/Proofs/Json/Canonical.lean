import FirewallOrder.Json.Document
import FirewallOrder.Proofs.Result
import Mathlib.Data.List.Sort

/-!
# Values in canonical form

A list of members that ascend by name is determined by the members that it holds (`eq_of_mem_iff`).
So the order in which members are set does not matter as long as their names are different, and a
value in canonical form stays as it is. What is taken out of a document is in canonical form.
-/

namespace FirewallOrder.Json

/-! ## Ascending members -/

section Members

variable {name : String} {value : Json} {m : String × Json} {ms ns : List (String × Json)}

theorem namesAscend.nodup (ascend : namesAscend ms) : (ms.map (·.1)).Nodup := by
  rw [List.Nodup, List.pairwise_map]
  refine List.Pairwise.imp (fun lt => ?_) ascend
  exact fun same => String.lt_irrefl _ (lt.trans_eq same.symm)

/-- Ascending members are told apart by what they are, not by where they stand. -/
theorem eq_of_mem_iff (ascend : namesAscend ms) (ascend' : namesAscend ns)
    (same : ∀ m, m ∈ ms ↔ m ∈ ns) : ms = ns := by
  have perm : ms.Perm ns :=
    (List.perm_ext_iff_of_nodup ascend.nodup.of_map ascend'.nodup.of_map).2 same
  exact perm.eq_of_pairwise
    (fun a b _ _ hab hba => absurd (String.lt_trans hab hba) (String.lt_irrefl _)) ascend ascend'

theorem mem_setMember_iff (ascend : namesAscend ms) :
    m ∈ setMember name value ms ↔ m = (name, value) ∨ m ∈ ms ∧ m.1 ≠ name := by
  induction ms with
  | nil => simp [setMember]
  | cons first rest ih =>
    obtain ⟨k, v⟩ := first
    have behind : ∀ n ∈ rest, k < n.1 := fun _ hn => List.rel_of_pairwise_cons ascend hn
    rw [setMember]
    by_cases before : name < k
    · rw [if_pos before]
      have other : ∀ n ∈ (k, v) :: rest, n.1 ≠ name := by
        rintro n hn rfl
        rcases List.mem_cons.1 hn with rfl | hn
        · exact String.lt_irrefl _ before
        · exact String.lt_irrefl _ (String.lt_trans before (behind n hn))
      rw [List.mem_cons]
      exact or_congr_right ⟨fun h => ⟨h, other m h⟩, fun h => h.1⟩
    · rw [if_neg before]
      by_cases same : name = k
      · subst same
        have other : ∀ n ∈ rest, n.1 ≠ name :=
          fun n hn same => String.lt_irrefl _ (same ▸ behind n hn)
        rw [if_pos rfl, List.mem_cons, List.mem_cons]
        refine or_congr_right ⟨fun h => ⟨.inr h, other m h⟩, ?_⟩
        rintro ⟨rfl | h, hne⟩
        · exact absurd rfl hne
        · exact h
      · rw [if_neg same, List.mem_cons, ih ascend.of_cons, List.mem_cons]
        constructor
        · rintro (rfl | rfl | ⟨h, hne⟩)
          · exact .inr ⟨.inl rfl, fun h => same h.symm⟩
          · exact .inl rfl
          · exact .inr ⟨.inr h, hne⟩
        · rintro (rfl | ⟨rfl | h, hne⟩)
          · exact .inr (.inl rfl)
          · exact .inl rfl
          · exact .inr (.inr ⟨h, hne⟩)

theorem setMember_comm (ascend : namesAscend ms) {name' : String} (apart : name ≠ name')
    (value' : Json) :
    setMember name value (setMember name' value' ms) =
      setMember name' value' (setMember name value ms) := by
  have left := namesAscend_setMember ascend name value
  have right := namesAscend_setMember ascend name' value'
  refine eq_of_mem_iff (namesAscend_setMember right _ _)
    (namesAscend_setMember left _ _) fun m => ?_
  rw [mem_setMember_iff right, mem_setMember_iff ascend, mem_setMember_iff left,
    mem_setMember_iff ascend]
  constructor
  · rintro (rfl | ⟨rfl | ⟨h, hne'⟩, hne⟩)
    · exact .inr ⟨.inl rfl, apart⟩
    · exact .inl rfl
    · exact .inr ⟨.inr ⟨h, hne⟩, hne'⟩
  · rintro (rfl | ⟨rfl | ⟨h, hne⟩, hne'⟩)
    · exact .inr ⟨.inl rfl, apart.symm⟩
    · exact .inl rfl
    · exact .inr ⟨.inr ⟨h, hne'⟩, hne⟩

theorem filter_setMember (ascend : namesAscend ms) (p : String → Bool) :
    (setMember name value ms).filter (fun m => p m.1) =
      if p name then setMember name value (ms.filter fun m => p m.1)
      else ms.filter fun m => p m.1 := by
  have part : namesAscend (ms.filter fun m => p m.1) := ascend.filter _
  by_cases kept : p name = true
  · rw [if_pos kept]
    refine eq_of_mem_iff ((namesAscend_setMember ascend _ _).filter _)
      (namesAscend_setMember part _ _) fun m => ?_
    rw [List.mem_filter, mem_setMember_iff ascend, mem_setMember_iff part, List.mem_filter]
    constructor
    · rintro ⟨rfl | ⟨h, hne⟩, hp⟩
      exacts [.inl rfl, .inr ⟨⟨h, hp⟩, hne⟩]
    · rintro (rfl | ⟨⟨h, hp⟩, hne⟩)
      exacts [⟨.inl rfl, kept⟩, ⟨.inr ⟨h, hne⟩, hp⟩]
  · rw [if_neg kept]
    refine eq_of_mem_iff ((namesAscend_setMember ascend _ _).filter _) part fun m => ?_
    rw [List.mem_filter, mem_setMember_iff ascend, List.mem_filter]
    constructor
    · rintro ⟨rfl | ⟨h, hne⟩, hp⟩
      exacts [absurd hp kept, ⟨h, hp⟩]
    · rintro ⟨h, hp⟩
      exact ⟨.inr ⟨h, fun same => kept (same ▸ hp)⟩, hp⟩

theorem filter_foldl_setMember (p : String → Bool) (ascend : namesAscend ns) :
    (ms.foldl (fun sorted m => setMember m.1 m.2 sorted) ns).filter (fun m => p m.1) =
      (ms.filter fun m => p m.1).foldl (fun sorted m => setMember m.1 m.2 sorted)
        (ns.filter fun m => p m.1) := by
  induction ms generalizing ns with
  | nil => rfl
  | cons m ms ih =>
    rw [List.foldl_cons, ih (namesAscend_setMember ascend _ _), filter_setMember ascend]
    by_cases kept : p m.1 = true
    · rw [if_pos kept, List.filter_cons_of_pos (by exact kept), List.foldl_cons]
    · rw [if_neg kept, List.filter_cons_of_neg (by exact kept)]

theorem filter_sortMembers (p : String → Bool) :
    (sortMembers ms).filter (fun m => p m.1) = sortMembers (ms.filter fun m => p m.1) :=
  filter_foldl_setMember p List.Pairwise.nil

theorem mem_foldl_setMember_iff (ascend : namesAscend ns) (distinct : (ms.map (·.1)).Nodup)
    (apart : ∀ x ∈ ms, ∀ n ∈ ns, n.1 ≠ x.1) :
    m ∈ ms.foldl (fun sorted m => setMember m.1 m.2 sorted) ns ↔ m ∈ ns ∨ m ∈ ms := by
  induction ms generalizing ns with
  | nil => simp
  | cons x ms ih =>
    obtain ⟨fresh, apart⟩ := List.forall_mem_cons.1 apart
    rw [List.map_cons, List.nodup_cons] at distinct
    have apart' : ∀ y ∈ ms, ∀ n ∈ setMember x.1 x.2 ns, n.1 ≠ y.1 := by
      intro y hy n hn
      rcases (mem_setMember_iff ascend).1 hn with rfl | ⟨hn, -⟩
      · exact fun same => distinct.1 (List.mem_map.2 ⟨y, hy, same.symm⟩)
      · exact apart y hy n hn
    rw [List.foldl_cons, ih (namesAscend_setMember ascend _ _) distinct.2 apart',
      mem_setMember_iff ascend, List.mem_cons]
    constructor
    · rintro ((rfl | ⟨h, -⟩) | h)
      exacts [.inr (.inl rfl), .inl h, .inr (.inr h)]
    · rintro (h | rfl | h)
      exacts [.inl (.inr ⟨h, fresh m h⟩), .inl (.inl rfl), .inr h]

theorem mem_sortMembers_iff (distinct : (ms.map (·.1)).Nodup) : m ∈ sortMembers ms ↔ m ∈ ms := by
  rw [sortMembers, mem_foldl_setMember_iff List.Pairwise.nil distinct fun _ _ _ h => nomatch h]
  simp

theorem sortMembers_perm (distinct : (ms.map (·.1)).Nodup) : (sortMembers ms).Perm ms :=
  (List.perm_ext_iff_of_nodup (namesAscend_sortMembers ms).nodup.of_map distinct.of_map).2
    fun _ => mem_sortMembers_iff distinct

theorem sortMembers_of_ascend (ascend : namesAscend ms) : sortMembers ms = ms :=
  eq_of_mem_iff (namesAscend_sortMembers ms) ascend fun _ => mem_sortMembers_iff ascend.nodup

end Members

theorem Object.insert_comm (o : Object) {name name' : String} (apart : name ≠ name')
    (value value' : Json) :
    (o.insert name' value').insert name value = (o.insert name value).insert name' value' :=
  Object.ext (setMember_comm o.ascend apart _)

/-- The object with each of these members set, one after the other. -/
def Object.insertAll (o : Object) (members : List (String × Json)) : Object :=
  members.foldl (fun o m => o.insert m.1 m.2) o

theorem Object.get?_eq_none_iff {o : Object} {name : String} :
    o.get? name = none ↔ name ∉ o.members.map (·.1) := by
  rw [Object.get?, member?, Option.map_eq_none_iff, List.find?_eq_none]
  constructor
  · intro h present
    obtain ⟨m, hm, rfl⟩ := List.mem_map.1 present
    simpa using h m hm
  · intro h m hm same
    exact h (List.mem_map.2 ⟨m, hm, beq_iff_eq.1 same⟩)

/-! ## The canonical form -/

mutual

/-- A value in canonical form is its own canonical form. -/
theorem canonicalize_of_isCanonical : (v : Json) → IsCanonical v → v.canonicalize = v
  | .null, _ | .bool _, _ | .number _, _ | .str _, _ => by simp only [canonicalize]
  | .arr items, h => by
    rw [IsCanonical] at h
    rw [canonicalize, canonicalizeItems_of_areCanonical items h]
  | .obj members, h => by
    rw [IsCanonical] at h
    rw [canonicalize, canonicalizeMembers_of_membersCanonical members h.2,
      sortMembers_of_ascend h.1]

theorem canonicalizeItems_of_areCanonical :
    (items : List Json) → AreCanonical items → canonicalizeItems items = items
  | [], _ => rfl
  | x :: xs, h => by
    rw [AreCanonical] at h
    rw [canonicalizeItems, canonicalize_of_isCanonical x h.1,
      canonicalizeItems_of_areCanonical xs h.2]

theorem canonicalizeMembers_of_membersCanonical :
    (members : List (String × Json)) → MembersCanonical members →
    canonicalizeMembers members = members
  | [], _ => rfl
  | (k, x) :: xs, h => by
    rw [MembersCanonical] at h
    rw [canonicalizeMembers, canonicalize_of_isCanonical x h.1,
      canonicalizeMembers_of_membersCanonical xs h.2]

end

theorem canonicalizeMembers_eq_map (members : List (String × Json)) :
    canonicalizeMembers members = members.map fun m => (m.1, m.2.canonicalize) := by
  induction members with
  | nil => rfl
  | cons m members ih => rw [canonicalizeMembers, ih, List.map_cons]

theorem Object.members_insertAll (o : Object) (members : List (String × Json)) :
    (o.insertAll members).members =
    (canonicalizeMembers members).foldl (fun sorted m => setMember m.1 m.2 sorted) o.members := by
  induction members generalizing o with
  | nil => rfl
  | cons m members ih => exact ih (o.insert m.1 m.2)

theorem Object.members_insertAll_empty {members : List (String × Json)}
    (canonical : MembersCanonical members) :
    (Object.empty.insertAll members).members = sortMembers members := by
  rw [members_insertAll, canonicalizeMembers_of_membersCanonical members canonical]
  rfl

theorem Object.insertAll_empty_self (o : Object) : Object.empty.insertAll o.members = o :=
  Object.ext ((members_insertAll_empty o.canonical).trans (sortMembers_of_ascend o.ascend))

theorem membersCanonical_sortMembers {members : List (String × Json)}
    (canonical : MembersCanonical members) : MembersCanonical (sortMembers members) :=
  membersCanonical_iff.2 fun m hm => membersCanonical_iff.1 canonical m (mem_of_mem_sortMembers hm)

/-- The canonical form of an object has the same members, if their names are different. -/
theorem Object.exists_perm {members : List (String × Json)} (canonical : MembersCanonical members)
    (distinct : (members.map (·.1)).Nodup) :
    ∃ o : Object, (obj members).canonicalize = .obj o.members ∧ o.members.Perm members := by
  refine ⟨⟨sortMembers members, namesAscend_sortMembers members,
    membersCanonical_sortMembers canonical⟩, ?_, sortMembers_perm distinct⟩
  rw [canonicalize, canonicalizeMembers_of_membersCanonical members canonical]

namespace Document

mutual

/-- What is taken out of a document is in canonical form. -/
theorem isCanonical_of_toJson : (document : Document) → {origin : Origin} → {v : Json} →
    toJson origin document = .ok v → IsCanonical v
  | null, _, v, h => by
    cases h
    trivial
  | bool b, _, v, h => by
    cases h
    trivial
  | number n, _, v, h => by
    obtain ⟨_, -, rfl⟩ := map_eq_ok_iff.1 h
    trivial
  | str s, _, v, h => by
    obtain ⟨_, -, rfl⟩ := map_eq_ok_iff.1 h
    trivial
  | arr items ending, _, v, h => by
    rw [toJson] at h
    obtain ⟨inner, -, h⟩ := bind_eq_ok_iff.1 h
    obtain ⟨values, taken, h⟩ := bind_eq_ok_iff.1 h
    obtain ⟨_, -, h⟩ := bind_eq_ok_iff.1 h
    cases h
    exact areCanonical_of_toItems items taken
  | obj members ending, _, v, h => by
    rw [toJson] at h
    obtain ⟨inner, -, h⟩ := bind_eq_ok_iff.1 h
    obtain ⟨values, taken, h⟩ := bind_eq_ok_iff.1 h
    obtain ⟨_, -, h⟩ := bind_eq_ok_iff.1 h
    cases h
    refine ⟨namesAscend_sortMembers values, membersCanonical_iff.2 fun m hm => ?_⟩
    exact membersCanonical_iff.1 (membersCanonical_of_toMembers members taken) m
      (mem_of_mem_sortMembers hm)
  | broken fault, _, v, h => by cases h
  | missing fault, _, v, h => by cases h

theorem areCanonical_of_toItems :
    (items : List Document) → {origin : Origin} → {values : List Json} →
    toItems origin items = .ok values → AreCanonical values
  | [], _, values, h => by
    cases h
    trivial
  | x :: xs, _, values, h => by
    rw [toItems] at h
    obtain ⟨value, first, h⟩ := bind_eq_ok_iff.1 h
    obtain ⟨values, rest, h⟩ := bind_eq_ok_iff.1 h
    cases h
    exact ⟨isCanonical_of_toJson x first, areCanonical_of_toItems xs rest⟩

theorem membersCanonical_of_toMembers : (members : List (Key × Document)) → {origin : Origin} →
    {values : List (String × Json)} → toMembers origin members = .ok values →
    MembersCanonical values
  | [], _, values, h => by
    cases h
    trivial
  | (.name k, x) :: xs, _, values, h => by
    rw [toMembers] at h
    obtain ⟨value, first, h⟩ := bind_eq_ok_iff.1 h
    obtain ⟨values, rest, h⟩ := bind_eq_ok_iff.1 h
    cases h
    exact ⟨isCanonical_of_toJson x first, membersCanonical_of_toMembers xs rest⟩
  | (.flawed flaw, _) :: _, _, values, h => by cases h
  | (.stray, _) :: _, _, values, h => by cases h

end

theorem ofMembers_eq_map (members : List (String × Json)) :
    ofMembers members = members.map fun m => (.name m.1, ofJson m.2) := by
  induction members with
  | nil => rfl
  | cons m members ih => rw [ofMembers, ih, List.map_cons]

theorem ofItems_eq_map (items : List Json) : ofItems items = items.map ofJson := by
  induction items with
  | nil => rfl
  | cons x items ih => rw [ofItems, ih, List.map_cons]

theorem toJson_ofJson_of_isCanonical {v : Json} (h : IsCanonical v) :
    toJson .value (ofJson v) = .ok v := by
  rw [toJson_ofJson, canonicalize_of_isCanonical v h]

end Document

end FirewallOrder.Json
