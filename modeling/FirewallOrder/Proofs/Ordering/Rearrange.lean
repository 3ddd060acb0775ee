import Mathlib.Data.List.Forall2
import FirewallOrder.Proofs.Ordering.Reindex

/-!
# Rules that move within the bands

Rules of a site, some of which moved from one index of the bands to another (`Ruleset.Rearranged`).
It makes no difference what moved them: a plan, part of a plan, or several plans each of which was
made when the rules sat elsewhere (`Reindexed.rearranged`).

No rule enters the bands in this way, and none leaves them. So the same identities can be put in
order (`Rearranged.managed_ids`), and the same orders are refused, with the same report
(`Rearranged.report?_eq`).
-/

namespace FirewallOrder

/-! ## Rules that move -/

namespace Ruleset

variable {ruleset : Ruleset}

/-- A rule afterwards: nothing of it has changed but its index, it is in the bands if it was, and it
is as it was unless it could be put in order. -/
def Moved (ruleset : Ruleset) (r r' : Rule) : Prop :=
  r' = { r with index := r'.index } ∧ (Band.Covers r'.index ↔ Band.Covers r.index) ∧
    (¬ (r.ruleset = ruleset.spelling ∧ Band.Covers r.index) → r' = r)

/-- The rules of a site afterwards, each in its place of the list. -/
def Rearranged (ruleset : Ruleset) (old new : List Rule) : Prop :=
  List.Forall₂ ruleset.Moved old new

namespace Moved

variable {r s t : Rule}

theorem refl (r : Rule) : ruleset.Moved r r := ⟨rfl, Iff.rfl, fun _ => rfl⟩

theorem id_eq (h : ruleset.Moved r s) : s.id = r.id := by rw [h.1]

theorem ruleset_eq (h : ruleset.Moved r s) : s.ruleset = r.ruleset := by rw [h.1]

theorem trans (h : ruleset.Moved r s) (h' : ruleset.Moved s t) : ruleset.Moved r t := by
  obtain ⟨same, covers, stays⟩ := h
  obtain ⟨same', covers', stays'⟩ := h'
  refine ⟨?_, covers'.trans covers, fun unmanaged => ?_⟩
  · rw [same', same]
  · obtain rfl := stays unmanaged
    exact stays' unmanaged

end Moved

namespace Rearranged

variable {old mid new : List Rule}

theorem refl (rules : List Rule) : ruleset.Rearranged rules rules :=
  List.forall₂_same.2 fun r _ => .refl r

theorem trans (h : ruleset.Rearranged old mid) (h' : ruleset.Rearranged mid new) :
    ruleset.Rearranged old new := by
  induction h generalizing new with
  | nil => exact h'
  | cons first rest ih =>
    cases h' with
    | cons first' rest' => exact .cons (first.trans first') (ih rest')

theorem map_id (h : ruleset.Rearranged old new) : new.map (·.id) = old.map (·.id) := by
  induction h with
  | nil => rfl
  | cons first rest ih => rw [List.map_cons, List.map_cons, first.id_eq, ih]

/-- No rule goes to another ruleset. -/
theorem own (h : ruleset.Rearranged old new) (r : Ruleset) :
    ruleset.Rearranged (r.own old) (r.own new) := by
  refine List.rel_filter (fun a b hab => ?_) h
  beta_reduce
  rw [hab.ruleset_eq]

/-- No rule enters the bands, and none leaves them. -/
theorem managed (h : ruleset.Rearranged old new) (r : Ruleset) :
    ruleset.Rearranged (r.managed old) (r.managed new) := by
  refine List.rel_filter (fun a b hab => ?_) (h.own r)
  beta_reduce
  rw [decide_eq_true_iff, decide_eq_true_iff, hab.2.1]

theorem own_ids (h : ruleset.Rearranged old new) :
    (ruleset.own new).map (·.id) = (ruleset.own old).map (·.id) := (h.own ruleset).map_id

theorem managed_ids (h : ruleset.Rearranged old new) :
    (ruleset.managed new).map (·.id) = (ruleset.managed old).map (·.id) :=
      (h.managed ruleset).map_id

theorem ids_perm (h : ruleset.Rearranged old new) :
    ((Snapshot.ofSite ruleset new).ids true true).Perm
      ((Snapshot.ofSite ruleset old).ids true true) := by
  have now := Snapshot.ids_perm ruleset new
  rw [h.managed_ids] at now
  exact now.trans (Snapshot.ids_perm ruleset old).symm

end Rearranged

end Ruleset

/-- Updates to indices of the bands, for rules that can be put in order, move these rules within the
bands, wherever the rules sat when the updates were thought of. -/
theorem Reindexed.rearranged {ruleset : Ruleset} {updates : List IndexUpdate} {old new : List Rule}
    (distinct : ((ruleset.own old).map (·.id)).Nodup)
    (covered : ∀ u ∈ updates, Band.Covers u.index ∧ u.id ∈ (ruleset.managed old).map (·.id))
    (h : Reindexed ruleset updates old new) : ruleset.Rearranged old new := by
  have kept := (List.forall₂_and_left old new).2 ⟨fun r hr => hr, h.kept⟩
  refine kept.imp fun r r' hrr' => ?_
  obtain ⟨hr, same | ⟨own, u, hu, hid, same⟩⟩ := hrr'
  · rw [same]
    exact .refl r
  · obtain ⟨hindex, hmanaged⟩ := covered u hu
    rw [hid] at hmanaged
    have hown : r ∈ ruleset.own old := Ruleset.mem_own.2 ⟨hr, own⟩
    obtain ⟨-, -, hcovers⟩ :=
      Ruleset.mem_managed.1 (Ruleset.mem_managed_of_id distinct hown hmanaged)
    rw [same]
    exact ⟨rfl, iff_of_true hindex hcovers, fun unmanaged => absurd ⟨own, hcovers⟩ unmanaged⟩

/-! ## Orders that are refused -/

/-- What an error reports to differ. -/
def OrderingError.report? : OrderingError → Option Drift
  | drift _ _ report => some report
  | _ => none

namespace Snapshot

variable {s : Snapshot} {o : RuleOrder} {error : OrderingError}

/-- What differs between the rules and an order, if anything does. -/
def report? (s : Snapshot) (o : RuleOrder) : Option Drift :=
  if (s.drift o).isEmpty then none else some (s.drift o)

theorem report?_of_moveFrom_error {ruleset : Ruleset} {index : Int} {ids : List String}
    (h : s.moveFrom ruleset index ids = .error error) : error.report? = none := by
  induction ids generalizing index with
  | nil => cases h
  | cons id ids ih =>
    rw [moveFrom] at h
    rcases bind_eq_error_iff.1 h with h | ⟨first, -, h⟩
    · rw [move] at h
      cases hindex : s.indexOf? id with
      | none =>
        rw [hindex] at h
        cases h
        rfl
      | some n =>
        rw [hindex] at h
        cases h
    · rcases bind_eq_error_iff.1 h with h | ⟨rest, -, h⟩
      · exact ih h
      · cases h

theorem report?_of_updatesIn_error {ruleset : Ruleset} {b : Band} {ids : List String}
    (h : s.updatesIn ruleset b ids = .error error) : error.report? = none := by
  rw [updatesIn] at h
  by_cases overflow : Band.width < ids.length
  · rw [if_pos overflow] at h
    cases h
    rfl
  · rw [if_neg overflow] at h
    exact report?_of_moveFrom_error h

theorem report?_of_updates_error {ruleset : Ruleset} (h : s.updates ruleset o = .error error) :
    error.report? = none := by
  rw [updates] at h
  rcases bind_eq_error_iff.1 h with h | ⟨before, -, h⟩
  · exact report?_of_updatesIn_error h
  · rcases bind_eq_error_iff.1 h with h | ⟨after, -, h⟩
    · exact report?_of_updatesIn_error h
    · cases h

/-- Planning reports a difference exactly if there is one. -/
theorem report?_of_plan_error {id : RulesetId} (h : s.plan id o = .error error) :
    error.report? = s.report? o := by
  rw [plan] at h
  by_cases empty : (s.drift o).isEmpty = true
  · rw [if_pos empty] at h
    rw [report?, if_pos empty]
    exact report?_of_updates_error h
  · rw [if_neg empty] at h
    cases h
    rw [report?, if_neg empty]
    rfl

theorem report?_of_plan_ok {id : RulesetId} {updates : List IndexUpdate}
    (h : s.plan id o = .ok updates) : s.report? o = none := by
  have fits := (plan_eq_ok_iff.1 h).1
  have empty : (s.drift o).isEmpty = true :=
    Drift.isEmpty_compare_iff.2 ⟨fits.distinct, fits.nodup_ids, fits.perm⟩
  rw [report?, if_pos empty]

end Snapshot

theorem Ruleset.Rearranged.report?_eq {ruleset : Ruleset} {old new : List Rule}
    (h : ruleset.Rearranged old new) (o : RuleOrder) :
    (Snapshot.ofSite ruleset new).report? o = (Snapshot.ofSite ruleset old).report? o := by
  have same : (Snapshot.ofSite ruleset new).drift o = (Snapshot.ofSite ruleset old).drift o :=
    Drift.compare_congr h.ids_perm o.ids
  rw [Snapshot.report?, Snapshot.report?, same]

end FirewallOrder
