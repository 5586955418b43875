import PromptCanvas.Proofs.Session.Run
import PromptCanvas.Proofs.Studio.Recipe

set_option autoImplicit false

/-! # Recipes and the runs of a session

The record of a session's registry grows by the kinds for which runs, and previews of prompts, ask in vain,
and by nothing else. If the table of recipes is covered, no run leaves a record: the kinds that are declared
recipe-free are those that runs are begun of without a recipe. -/

namespace PromptCanvas

/-- Whether a move asks for the prompt of a node without running it. -/
def Move.isPreview (move : Move) : Bool :=
  match move.operation? with
  | some (.preview _ _) => true
  | _ => false

namespace Session

variable {session : Session}

/-- The kinds that a session has recorded as lacking a recipe, in order. -/
abbrev anomalies (session : Session) : List NodeKind := session.studio.registry.anomalies

/-- The kind for which a move asks in vain. -/
def missed (session : Session) (move : Move) : Option NodeKind :=
  move.operation?.bind session.studio.missed

/-- The kinds for which moves ask in vain, in order. -/
def allMissed (session : Session) : List Move → List NodeKind
  | [] => []
  | move :: moves => (session.missed move).toList ++ (session.step move).allMissed moves

/-! ## One move -/

theorem registry_step (hsound : session.graph.Sound) (move : Move) :
    (session.step move).studio.registry = session.studio.registry.recording (session.missed move) := by
  unfold missed
  rcases step_cases hsound move with ⟨operation, hoperation, hstep⟩ |
    ⟨hnone, hstep | rfl | ⟨place, service, seen, errand, rfl, hplace⟩⟩
  · rw [hstep, hoperation]
    exact Studio.registry_perform hsound operation
  · rw [hstep, hnone]
    exact session.studio.registry.recording_none.symm
  · refine Eq.trans ?_ session.studio.registry.recording_none.symm
    simp only [Session.step, Studio.takeUp?]
    cases session.studio.pending <;> rfl
  · refine Eq.trans ?_ session.studio.registry.recording_none.symm
    simp only [Session.step, hplace]
    exact Studio.registry_resume service seen errand

/-- Apart from previews, the moves that ask in vain are those that run a live node that is not running and
    whose kind the table lacks. -/
theorem missed_eq_some_iff {move : Move} (hrun : move.isPreview = false) {kind : NodeKind} :
    session.missed move = some kind ↔
      ∃ id custom aspectRatio, (move.operation? = some (.run id custom aspectRatio) ∨
          move.operation? = some (.start id custom aspectRatio)) ∧
        session.studio.lacking id = some kind := by
  unfold Move.isPreview at hrun
  unfold missed
  cases hoperation : move.operation? with
  | none => simp
  | some operation =>
      rw [hoperation] at hrun
      cases operation with
      | run id | start id => simp [Studio.missed]
      | preview => simp at hrun
      | add | update | begin | setStatus | delete | invalidate | upload | enhance | animation =>
          simp [Studio.missed]

/-- With a covered table a move asks in vain only for the preview of a prompt. -/
theorem missed_of_covered (h : coverage session.studio.registry.table recipeFree = []) {move : Move}
    (hrun : move.isPreview = false) : session.missed move = none := by
  rw [Option.eq_none_iff_forall_ne_some]
  intro kind hmissed
  obtain ⟨id, _, _, _, hlacking⟩ := (missed_eq_some_iff hrun).1 hmissed
  rw [Studio.lacking_of_covered h] at hlacking
  simp at hlacking

/-! ## Moves one after the other -/

/-- Moves leave records of the kinds for which they ask in vain, and the table as it is. -/
theorem registry_after (hsound : session.graph.Sound) (moves : List Move) :
    (session.after moves).studio.registry
      = { session.studio.registry with anomalies := session.anomalies ++ session.allMissed moves } := by
  induction moves generalizing session with
  | nil =>
      simp only [allMissed, List.append_nil]
      rfl
  | cons move moves ih =>
      rw [after_cons, ih (sound_step hsound move)]
      simp only [anomalies, registry_step hsound move, Registry.recording, allMissed, List.append_assoc]

/-- With a covered table, moves leave no record unless they ask for the preview of a prompt. -/
theorem allMissed_of_covered (hsound : session.graph.Sound)
    (h : coverage session.studio.registry.table recipeFree = []) {moves : List Move}
    (hruns : ∀ move ∈ moves, move.isPreview = false) : session.allMissed moves = [] := by
  induction moves generalizing session with
  | nil => rfl
  | cons move moves ih =>
      obtain ⟨hmove, hmoves⟩ := List.forall_mem_cons.1 hruns
      have htable : (session.step move).studio.registry.table = session.studio.registry.table := by
        rw [registry_step hsound move]
        rfl
      rw [← htable] at h
      rw [allMissed, ih (sound_step hsound move) h hmoves, missed_of_covered (htable ▸ h) hmove]
      rfl

/-- The record of a session grows by the kinds for which its moves ask in vain, one for each such move.
    Apart from previews of prompts, these are the moves that begin a run of a live node that is not running
    and whose kind is neither recipe-free nor in the table. Such a run submits the base prompt of the node,
    unless that is blank. With a covered table no run leaves a record. -/
theorem anomalies_of_runs (settings : Settings) (registry : Registry) (strict : Bool) (draws : Draws)
    (moves : List Move) :
    let start := opening settings registry strict draws
    let reached := start.after moves
    reached.anomalies = registry.anomalies ++ start.allMissed moves ∧
      (∀ move, (reached.step move).anomalies = reached.anomalies ++ (reached.missed move).toList) ∧
      (∀ move, move.isPreview = false → ∀ kind,
        (reached.missed move = some kind ↔
          ∃ id custom aspectRatio node, (move.operation? = some (.run id custom aspectRatio) ∨
              move.operation? = some (.start id custom aspectRatio)) ∧
            reached.graph.get? id = some node ∧ node.status ≠ .running ∧
            node.kind ∉ recipeFree ∧ registry.table.has node.kind = false ∧ kind = node.kind)) ∧
      (∀ id node, reached.graph.get? id = some node → node.status ≠ .running →
        node.kind ∉ recipeFree → registry.table.has node.kind = false → ∀ custom aspectRatio,
          ∃ issued after, reached.studio.begin id custom aspectRatio = .ok (issued, after) ∧
            after.registry.anomalies = reached.anomalies ++ [node.kind] ∧
            issued.map Ticket.request
              = if Text.blank (node.basePrompt.getD "") then none
                else some (.image (node.basePrompt.getD "")
                  (node.applyAll (Studio.parameterEdits custom aspectRatio)).aspectRatio)) ∧
      (coverage registry.table recipeFree = [] →
        (∀ move, move.isPreview = false → (reached.step move).anomalies = reached.anomalies) ∧
          ((∀ move ∈ moves, move.isPreview = false) → reached.anomalies = registry.anomalies)) := by
  intro start reached
  have hstart : start.graph.Sound := sound_opening settings registry strict draws
  have hsound : reached.graph.Sound := sound_after hstart moves
  have hregistry : reached.studio.registry
      = { registry with anomalies := registry.anomalies ++ start.allMissed moves } :=
    registry_after hstart moves
  have htable : reached.studio.registry.table = registry.table := by rw [hregistry]
  have hafter : reached.anomalies = registry.anomalies ++ start.allMissed moves := by
    show reached.studio.registry.anomalies = _
    rw [hregistry]
  have hstep : ∀ move, (reached.step move).anomalies = reached.anomalies ++ (reached.missed move).toList := by
    intro move
    show (reached.step move).studio.registry.anomalies = _
    rw [registry_step hsound move]
    rfl
  refine ⟨hafter, hstep, ?_, ?_, ?_⟩
  · intro move hrun kind
    rw [missed_eq_some_iff hrun]
    simp only [Studio.lacking_eq_some_iff, htable, RecipeTable.lacks_eq_true_iff, and_assoc,
      exists_and_left]
  · intro id node hnode hstatus hfree hmissing
    refine Studio.begin_of_lacks hsound hnode hstatus ?_
    rw [htable]
    exact RecipeTable.lacks_eq_true_iff.2 ⟨hfree, hmissing⟩
  · intro hcovered
    refine ⟨fun move hrun => ?_, fun hruns => ?_⟩
    · rw [hstep, missed_of_covered (htable ▸ hcovered) hrun]
      exact List.append_nil _
    · rw [hafter, allMissed_of_covered hstart hcovered hruns]
      exact List.append_nil _

/-- A run of a kind that an empty table lacks submits the base prompt and is recorded; with the recipes of
    the palette the same run leaves no record. -/
theorem anomalies_of_runs_without_recipe :
    let draws : Draws := { given := ["000000000001", "first"] }
    let moves : List Move :=
      [.perform (.add (.str "source-generate") none [("base_prompt", .str "a cat")])]
    let run : Move := .perform (.run "node-000000000001" (some "in the rain") none)
    let bare := (opening {} { table := [] } false draws).after moves
    let stocked := (opening {} {} false draws).after moves
    (∃ node, bare.graph.get? "node-000000000001" = some node ∧ node.status ≠ .running ∧
        node.kind = .sourceGenerate ∧
        ∃ issued after,
          bare.studio.begin "node-000000000001" (some "in the rain") none = .ok (issued, after) ∧
          after.registry.anomalies = bare.anomalies ++ [.sourceGenerate] ∧
          issued.map Ticket.request = some (.image "a cat" "1:1")) ∧
      run.isPreview = false ∧ coverage RecipeTable.palette recipeFree = [] ∧
      (stocked.step run).anomalies = [] := by
  intro draws moves run bare stocked
  have hview : (bare.graph.get? "node-000000000001").map
      (fun n => (n.kind, n.status, n.basePrompt, n.aspectRatio))
        = some (.sourceGenerate, .idle, some "a cat", "1:1") := by decide +kernel
  obtain ⟨node, hnode, hfields⟩ := Option.map_eq_some_iff.1 hview
  simp only [Prod.mk.injEq] at hfields
  obtain ⟨hkind, hidle, hbase, hratio⟩ := hfields
  have hstatus : node.status ≠ .running := by rw [hidle]; decide
  obtain ⟨_, _, _, hbegin, _⟩ := anomalies_of_runs {} { table := [] } false draws moves
  obtain ⟨_, _, _, _, hcovered⟩ := anomalies_of_runs {} {} false draws moves
  obtain ⟨issued, after, hbegun, hrecord, hrequest⟩ := hbegin "node-000000000001" node hnode hstatus
    (by rw [hkind]; decide) rfl (some "in the rain") none
  rw [hkind] at hrecord
  have hran : (node.applyAll (Studio.parameterEdits (some "in the rain") none)).aspectRatio = "1:1" := hratio
  rw [hbase, hran] at hrequest
  have hempty : stocked.anomalies = [] := by decide +kernel
  refine ⟨⟨node, hnode, hstatus, hkind, issued, after, hbegun, hrecord, hrequest.trans (by decide)⟩, rfl,
    by decide, ?_⟩
  rw [(hcovered (by decide)).1 run rfl]
  exact hempty

end Session

end PromptCanvas
