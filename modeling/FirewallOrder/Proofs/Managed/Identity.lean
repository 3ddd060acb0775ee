import FirewallOrder.Proofs.Managed.Session

/-!
# The identity of an object

An object is made by a creation or an import, and then read and updated, each time with a state that
an earlier operation returned. A career is a run of such operations, with a configuration for each.
A state names its ruleset twice, in its identifier and by site and ruleset, and the two agree all
along; and the ruleset of an object is always the one that it was made of (`identity_kept`).
-/

namespace FirewallOrder

open Dialogue Operation Called

/-- An operation that is over, with its configuration and the controller before and after it. -/
structure Done (σ : Type) where
  act : Act
  config : RulesetConfig
  before : σ
  entry : Entry
  after : σ

/-- An operation as it is performed in a state of the controller. -/
def Act.done {σ : Type} (answer : (call : Call) → σ → call.Answer × σ) (defaultSite : String)
    (config : RulesetConfig) (s : σ) (act : Act) : Done σ where
  act := act
  config := config
  before := s
  entry := act.entry answer defaultSite config s
  after := (act.perform answer defaultSite config s).2.2

/-- Operations performed one after the other, each with its own configuration. -/
def career {σ : Type} (answer : (call : Call) → σ → call.Answer × σ) (defaultSite : String) :
    σ → List (Act × RulesetConfig) → List (Done σ)
  | _, [] => []
  | s, (act, config) :: acts =>
    act.done answer defaultSite config s ::
      career answer defaultSite (act.done answer defaultSite config s).after acts

/-- Every state that an operation is given is known, or was returned by an operation before it. -/
def Grounded {σ : Type} : List RulesetState → List (Done σ) → Prop
  | _, [] => True
  | known, d :: log =>
    (∀ object ∈ d.act.object?, object ∈ known) ∧ Grounded (known ++ d.entry.state?.toList) log

instance Grounded.decide {σ : Type} : (known : List RulesetState) → (log : List (Done σ)) →
    Decidable (Grounded known log)
  | _, [] => .isTrue trivial
  | known, d :: log =>
    have := Grounded.decide (known ++ d.entry.state?.toList) log
    inferInstanceAs (Decidable ((∀ object ∈ d.act.object?, object ∈ known) ∧ _))

/-- The identifier of the state is that of its site and ruleset, and an operation of the log made an
object of this ruleset. -/
structure RulesetState.Stems {σ : Type} (defaultSite : String) (log : List (Done σ))
    (state : RulesetState) : Prop where
  id_eq : state.id = state.target.display
  root : ∃ e ∈ log, e.act.root? defaultSite e.config = some state.target

section Careers

variable {σ : Type} {answer : (call : Call) → σ → call.Answer × σ} {defaultSite : String}
  {config : RulesetConfig} {s : σ} {act : Act} {state object : RulesetState}
  {known : List RulesetState} {past earlier later : List (Done σ)} {d : Done σ}

theorem RulesetState.Stems.append (stems : state.Stems defaultSite past) (more : List (Done σ)) :
    state.Stems defaultSite (past ++ more) := by
  obtain ⟨e, he, root⟩ := stems.root
  exact ⟨stems.id_eq, e, List.mem_append_left more he, root⟩

/-- What an operation returns of an object that it was given is of the same ruleset. -/
theorem Act.target_of_object (given : object ∈ act.object?)
    (h : (act.entry answer defaultSite config s).state? = some state) :
    state.target = object.target := by
  obtain ⟨id, rules, rfl, made | same⟩ := exists_ofListing_of_state? h
  · cases act with
    | create | importId _ | plan _ => cases given
    | update _ | read _ | delete _ => cases made
  · rw [given, Option.map_some] at same
    exact (Option.some.inj same).symm

/-- If the object that an operation is given stems from the log, so does the state that is
returned. -/
theorem Act.stems_of_state? (given : ∀ object ∈ act.object?, object.Stems defaultSite past)
    (h : (act.entry answer defaultSite config s).state? = some state) :
    state.Stems defaultSite (past ++ [act.done answer defaultSite config s]) := by
  obtain ⟨id, rules, rfl, made | same⟩ := exists_ofListing_of_state? h
  · exact ⟨rfl, _, List.mem_append_right past List.mem_cons_self, made⟩
  · obtain ⟨object, hobject, rfl⟩ := Option.map_eq_some_iff.1 same
    obtain ⟨e, he, root⟩ := (given object hobject).root
    exact ⟨rfl, e, List.mem_append_left _ he, root⟩

/-- In a career, every object that an operation is given stems from the operations before it. -/
theorem stems_of_grounded {acts : List (Act × RulesetConfig)}
    (stems : ∀ object ∈ known, object.Stems defaultSite past)
    (grounded : Grounded known (career answer defaultSite s acts))
    (split : career answer defaultSite s acts = earlier ++ d :: later) :
    d = d.act.done answer defaultSite d.config d.before ∧
      ∀ object ∈ d.act.object?, object.Stems defaultSite (past ++ earlier) := by
  induction acts generalizing s known past earlier with
  | nil => cases earlier <;> cases split
  | cons next acts ih =>
    obtain ⟨act, config⟩ := next
    obtain ⟨given, grounded⟩ := grounded
    cases earlier with
    | nil =>
      obtain ⟨rfl, -⟩ := List.cons.inj split
      rw [List.append_nil]
      exact ⟨rfl, fun object h => stems object (given object h)⟩
    | cons first earlier =>
      obtain ⟨rfl, rest⟩ := List.cons.inj split
      -- What is known after the first operation stems from the log that ends with it.
      have stems' : ∀ object ∈ known ++ (act.entry answer defaultSite config s).state?.toList,
          object.Stems defaultSite (past ++ [act.done answer defaultSite config s]) := by
        intro object hobject
        rcases List.mem_append.1 hobject with hobject | hobject
        · exact (stems object hobject).append _
        · exact Act.stems_of_state? (fun object h => stems object (given object h))
            (Option.mem_toList.1 hobject)
      obtain ⟨same, hd⟩ := ih stems' grounded rest
      rw [List.append_assoc] at hd
      exact ⟨same, hd⟩

end Careers

/-- **An object keeps its identity.** Let operations with arbitrary configurations be performed one
after the other on whatever controller, each update and each reading with a state that was returned
before it.

* Every state that is returned, by a success or as what a failure left behind, has the identifier of
  its site and its ruleset. These are those of the object that the operation was given, if any, and
  those that an import or a creation, this or an earlier one, made an object of.
* An update whose configuration means another ruleset, or another site, is refused, with no call and
  no state; one whose configuration means the same is a creation in all that it returns, asks and
  leaves behind. -/
theorem identity_kept {σ : Type} (answer : (call : Call) → σ → call.Answer × σ)
    (defaultSite : String) (start : σ) (acts : List (Act × RulesetConfig))
    (grounded : Grounded [] (career answer defaultSite start acts)) :
    ∀ earlier d later, career answer defaultSite start acts = earlier ++ d :: later →
      (∀ state, d.entry.state? = some state →
        state.id = state.site ++ ":" ++ state.ruleset.spelling ∧
        (∀ object ∈ d.act.object?,
          state.id = object.id ∧ state.site = object.site ∧ state.ruleset = object.ruleset) ∧
        ∃ e ∈ earlier ++ [d], e.act.root? defaultSite e.config = some ⟨state.site, state.ruleset⟩) ∧
      ∀ prior, d.act = .update prior →
        let id := d.config.target defaultSite
        (id ≠ ⟨prior.site, prior.ruleset⟩ →
          d.entry =
            ⟨.changed (.error ⟨.invalid ("cannot move firewall ruleset " ++ prior.site ++ ":" ++
              prior.ruleset.spelling ++ " to " ++ id.display ++
              "; site and ruleset are fixed"), none⟩), []⟩ ∧
          d.after = d.before) ∧
        (id = ⟨prior.site, prior.ruleset⟩ →
          (d.entry.outcome, d.entry.calls, d.after) =
            Act.create.perform answer defaultSite d.config d.before) := by
  intro earlier d later split
  have known : ∀ object ∈ ([] : List RulesetState), object.Stems defaultSite ([] : List (Done σ)) :=
    fun object h => nomatch h
  obtain ⟨same, given⟩ := stems_of_grounded known grounded split
  rw [List.nil_append] at given
  have entry : d.act.entry answer defaultSite d.config d.before = d.entry :=
    (congrArg Done.entry same).symm
  have after : (d.act.perform answer defaultSite d.config d.before).2.2 = d.after :=
    (congrArg Done.after same).symm
  refine ⟨fun state hstate => ?_, fun prior update => ?_⟩
  · rw [← entry] at hstate
    have stems := Act.stems_of_state? given hstate
    rw [← same] at stems
    refine ⟨stems.id_eq, fun object hobject => ?_, stems.root⟩
    have target := Act.target_of_object hobject hstate
    refine ⟨?_, congrArg RulesetId.site target, congrArg RulesetId.ruleset target⟩
    rw [stems.id_eq, target, (given object hobject).id_eq]
  · have performed := Act.perform_update answer defaultSite d.config d.before prior
    have hprior : prior.id = prior.site ++ ":" ++ prior.ruleset.spelling :=
      (given prior (by rw [update]; rfl)).id_eq
    rw [← update, hprior] at performed
    refine ⟨fun other => ?_, fun unmoved => ?_⟩
    · rw [← entry, ← after, Act.entry, performed.trans (if_neg other)]
      exact ⟨rfl, rfl⟩
    · rw [← entry, ← after, ← performed.trans (if_pos unmoved)]
      rfl

/-- An import, a creation that does not fit the rules, an update of what it left behind, an update
to another site, and a reading. -/
def Memory.moves : List (Act × RulesetConfig) :=
  [(.importId "default:lan_in", crossing), (.create, { crossing with order := ⟨["b"], []⟩ }),
    (.update (here ⟨["a", "c"], ["b"]⟩), crossing),
    (.update (here crossing.order), { crossing with site := some "branch" }),
    (.read (here crossing.order), crossing)]
where
  here (order : RuleOrder) : RulesetState := .ofOrder (crossing.target "default") order

theorem identity_kept_moves :
    let log := career Memory.answer "default" Memory.crossed Memory.moves
    Grounded [] log ∧ ∃ d, log[3]? = some d ∧
      d.entry = ⟨.changed (.error ⟨.invalid ("cannot move firewall ruleset default:LAN_IN to " ++
        "branch:LAN_IN; site and ruleset are fixed"), none⟩), []⟩ := by
  have imported : ((Act.importId "default:lan_in").done Memory.answer "default" Memory.crossing
      Memory.crossed).after = Memory.crossed :=
    (Act.perform_of_not_isChange "default" Memory.crossing Memory.crossed
      (fun site m => Memory.answer_list_snd m site) rfl).1
  have refused : (Act.create.done Memory.answer "default"
      { Memory.crossing with order := ⟨["b"], []⟩ } Memory.crossed).after = Memory.crossed := by
    cbv
  have left : (Act.create.entry Memory.answer "default"
      { Memory.crossing with order := ⟨["b"], []⟩ } Memory.crossed).state? =
        some (Memory.moves.here ⟨["a", "c"], ["b"]⟩) := by
    cbv
  have arranged : ((Act.update (Memory.moves.here ⟨["a", "c"], ["b"]⟩)).entry Memory.answer
      "default" Memory.crossing Memory.crossed).state? =
        some (Memory.moves.here Memory.crossing.order) := by
    cbv
  -- The update is given what the failed creation left behind; the move and the reading are given
  -- what the update returned.
  have grounded : Grounded [] (career Memory.answer "default" Memory.crossed Memory.moves) := by
    simp only [Memory.moves, career, imported, refused]
    refine ⟨?_, ?_, ?_, ?_, ?_, trivial⟩
    · simp [Act.done, Act.object?]
    · simp [Act.done, Act.object?]
    · simp [Act.done, Act.object?, left]
    · simp [Act.done, Act.object?, arranged]
    · simp [Act.done, Act.object?, arranged]
  refine ⟨grounded, _, rfl, ?_⟩
  have kept := identity_kept Memory.answer "default" Memory.crossed Memory.moves grounded
    ((career Memory.answer "default" Memory.crossed Memory.moves).take 3) _ _ rfl
  exact ((kept.2 _ rfl).1 (by decide)).1

end FirewallOrder
