import PromptCanvas.Proofs.Graph.Execution
import PromptCanvas.Proofs.Session.Kept

set_option autoImplicit false

/-! # The execution of nodes in a session

The graphs of a session form a trail, so that the statuses of every node are a walk through its execution.
What is refused leaves the session as it is. A failure is told of failed nodes only; and where no node is
moved by hand, of all of them. -/

namespace PromptCanvas

namespace Graph

variable {g g' : Graph} {id : NodeId}

/-- A failure is told of failed nodes, and of all of them. -/
def Explained (g : Graph) : Prop := g.Executes fun status failure => failure ≠ none ↔ status = .failed

/-- The run of a node that fails tells why. -/
theorem keeps_explained : Keeps Explained where
  quiet := by
    intro g g' change hsound hquiet step h
    refine step.executes hsound (by decide) (by decide) (fun id status failure hchange => ?_) h
    rw [hchange] at hquiet
    exact Bool.noConfusion hquiet
  begins := fun hsound hbegin h =>
    (Step.begin hbegin).executes hsound (by decide) (by decide)
      (fun _ _ _ hchange => Change.noConfusion hchange) h
  ends := by
    intro g g' id hsound hends h
    cases hends with
    | failed failure hset =>
        refine (Step.setStatus hset).executes hsound (by decide) (by decide)
          (fun _ status told hchange => ?_) h
        obtain ⟨rfl, rfl, rfl⟩ := Change.setStatus.inj hchange
        simp
    | ready _ hedit hset =>
        have hedited : Explained _ := (Step.edit hedit).executes hsound (by decide) (by decide)
          (fun _ _ _ hchange => Change.noConfusion hchange) h
        refine (Step.setStatus hset).executes ((Step.edit hedit).sound hsound) (by decide) (by decide)
          (fun _ status told hchange => ?_) hedited
        obtain ⟨rfl, rfl, rfl⟩ := Change.setStatus.inj hchange
        simp

theorem setStatusNamed_eq_ok_iff {status : Json} {failure : Option Failure} :
    g.setStatusNamed id status failure = .ok g' ↔
      ∃ later, statusOf? status = some later ∧ g.setStatus id later failure = .ok g' := by
  unfold Graph.setStatusNamed
  split
  · cases statusOf? status with
    | none => simp
    | some later => simp
  · next hhas =>
      refine ⟨fun h => by simp at h, ?_⟩
      rintro ⟨later, _, hset⟩
      obtain ⟨node, hnode, _⟩ := setStatus_eq_ok_iff.1 hset
      exact absurd (has_iff_mem_ids.2 (mem_ids_of_get? hnode)) hhas

/-- Setting a status is refused unless it is the name of one that may follow the status of a live node. -/
theorem setStatusNamed_refused_iff {status : Json} {failure : Option Failure} :
    (∃ r, g.setStatusNamed id status failure = .error r) ↔
      ¬ ∃ node later, g.get? id = some node ∧ statusOf? status = some later ∧
        later ∈ node.status.next := by
  have hok : (∃ g', g.setStatusNamed id status failure = .ok g') ↔
      ∃ node later, g.get? id = some node ∧ statusOf? status = some later ∧ later ∈ node.status.next := by
    simp only [setStatusNamed_eq_ok_iff, setStatus_eq_ok_iff]
    constructor
    · rintro ⟨_, later, hnamed, node, hnode, hnext, _⟩
      exact ⟨node, later, hnode, hnamed, hnext⟩
    · rintro ⟨node, later, hnode, hnamed, hnext⟩
      exact ⟨_, later, hnamed, node, hnode, hnext, rfl⟩
  rw [← hok]
  cases g.setStatusNamed id status failure <;> simp

theorem begin_refused_iff :
    (∃ r, g.begin id = .error r) ↔ ¬ ∃ node, g.get? id = some node ∧ Status.running ∈ node.status.next := by
  have hok : (∃ g', g.begin id = .ok g') ↔
      ∃ node, g.get? id = some node ∧ Status.running ∈ node.status.next := by
    simp only [begin_eq_ok_iff, Status.running_mem_next_iff]
    constructor
    · rintro ⟨_, node, hnode, hstatus, _⟩
      exact ⟨node, hnode, hstatus⟩
    · rintro ⟨node, hnode, hstatus⟩
      exact ⟨_, node, hnode, hstatus, rfl⟩
  rw [← hok]
  cases g.begin id <;> simp

end Graph

namespace Session

variable {session : Session}

/-- What happens in a session leaves a trail of graphs that passes through those between the moves. -/
theorem exists_trail (hsound : session.graph.Sound) (moves : List Move) :
    ∃ trail, (session.graph :: trail).IsChain Graph.Then ∧
      (session.graph :: trail).getLast? = some (session.after moves).graph ∧
      (session.shown moves).Sublist (session.graph :: trail) := by
  induction moves generalizing session with
  | nil => exact ⟨[], List.isChain_singleton _, rfl, List.Sublist.refl _⟩
  | cons move moves ih =>
      obtain ⟨changes, path, _⟩ := step_path hsound move
      obtain ⟨first, hchain, hlast⟩ := path.exists_trail
      obtain ⟨rest, hchain', hlast', hshown⟩ := ih (sound_step hsound move)
      refine ⟨first ++ (session.step move).graph :: rest, ?_, ?_, ?_⟩
      · -- the trail of the move ends where the trail of the others starts
        refine List.isChain_append.2 ⟨hchain, hchain', fun before hbefore next hnext => ?_⟩
        rw [hlast] at hbefore
        rw [← Option.some.inj hbefore, ← Option.some.inj hnext]
        exact Graph.then_refl _
      · rw [← List.cons_append, List.getLast?_append, hlast']
        rfl
      · exact (hshown.trans (List.sublist_append_right _ _)).cons_cons session.graph

theorem step_perform_refused {operation : Operation}
    (h : session.studio.perform operation = (session.studio, none)) :
    session.step (.perform operation) = session :=
  (congrArg session.enter h).trans enter_idle

/-- The graphs of a session form a trail on which the statuses of every node are a walk from idle along the
    statuses that may follow each other, and failures are told of failed nodes only. Setting a status and
    beginning a run by hand are refused where the status may not follow, and then leave the session as it
    is. Where no node is moved by hand, a failure is told of every failed node. -/
theorem execution_walks (settings : Settings) (registry : Registry) (strict : Bool) (draws : Draws)
    (moves : List Move) :
    let start := opening settings registry strict draws
    let reached := start.after moves
    (∃ trail, trail.head? = some start.graph ∧ trail.getLast? = some reached.graph ∧
        trail.IsChain Graph.Then ∧ (start.shown moves).Sublist trail ∧
        (∀ id, Status.Walk (Graph.statuses id trail)) ∧
        ∀ g ∈ trail, ∀ node ∈ g.nodes, node.failure ≠ none → node.status = .failed) ∧
      (∀ id status failure,
        ((∃ r, reached.graph.setStatusNamed id status failure = .error r) ↔
          ¬ ∃ node later, reached.graph.get? id = some node ∧ Graph.statusOf? status = some later ∧
            later ∈ node.status.next) ∧
        ((∃ r, reached.graph.setStatusNamed id status failure = .error r) →
          reached.step (.perform (.setStatus id status failure)) = reached)) ∧
      (∀ id,
        ((∃ r, reached.graph.begin id = .error r) ↔
          ¬ ∃ node, reached.graph.get? id = some node ∧ Status.running ∈ node.status.next) ∧
        ((∃ r, reached.graph.begin id = .error r) → reached.step (.perform (.begin id)) = reached)) ∧
      ((∀ move ∈ moves, move.isIndirect = true) →
        ∀ node ∈ reached.graph.nodes, node.failure ≠ none ↔ node.status = .failed) := by
  intro start reached
  have hsound : start.graph.Sound := sound_opening settings registry strict draws
  have hempty : ∀ node ∈ start.graph.nodes, False := fun _ hnode => List.not_mem_nil hnode
  refine ⟨?_, fun id status failure => ⟨Graph.setStatusNamed_refused_iff, ?_⟩,
    fun id => ⟨Graph.begin_refused_iff, ?_⟩, fun hindirect => ?_⟩
  · obtain ⟨trail, hchain, hlast, hshown⟩ := exists_trail hsound moves
    refine ⟨start.graph :: trail, rfl, hlast, hchain, hshown, fun id => ?_, ?_⟩
    · exact Graph.walk_statuses hchain hsound rfl
    · -- every change keeps graphs sound, and failures told of failed nodes only
      have hkept := Graph.forall_mem_of_isChain (fun g => g.Sound ∧ g.FailuresTold)
        (fun g g' ⟨hsound, htold⟩ ⟨_, step⟩ => ⟨step.sound hsound, step.failuresTold hsound htold⟩) hchain
        ⟨hsound, fun node hnode => (hempty node hnode).elim⟩
      exact fun g hg => (hkept g hg).2
  · rintro ⟨r, hr⟩
    exact step_perform_refused (by simp only [Studio.perform, hr, Studio.accept])
  · rintro ⟨r, hr⟩
    exact step_perform_refused (by simp only [Studio.perform, hr, Studio.accept])
  · exact Graph.keeps_explained.after hsound (fun node hnode => (hempty node hnode).elim) moves hindirect

/-- A node whose run had no prompt has failed, and its failure is told. -/
theorem execution_walks_blank_prompt :
    let moves : List Move :=
      [.perform (.add (.str "source-generate") none []),
        .perform (.run "node-000000000001" none none)]
    let reached := (opening {} {} false { given := ["000000000001", "first"] }).after moves
    (∀ move ∈ moves, move.isIndirect = true) ∧ reached.graph.nodes.map Node.status = [.failed] ∧
      ∀ node ∈ reached.graph.nodes, node.failure ≠ none ↔ node.status = .failed := by
  intro moves reached
  have hindirect : ∀ move ∈ moves, move.isIndirect = true := by decide
  exact ⟨hindirect, by decide +kernel, (execution_walks {} {} false _ moves).2.2.2 hindirect⟩

end Session

end PromptCanvas
