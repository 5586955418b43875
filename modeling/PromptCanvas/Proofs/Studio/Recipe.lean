import PromptCanvas.Proofs.Recipe.Registry
import PromptCanvas.Proofs.Studio.Begin
import PromptCanvas.Proofs.Studio.Operation
import PromptCanvas.Proofs.Studio.Reply

set_option autoImplicit false

/-! # Recipes that runs ask for

The beginning of a run asks the registry for a recipe unless the kind of its node needs none: the kinds that
are dispatched otherwise are the recipe-free ones. So a run leaves a record exactly when the table lacks the
kind of its node, and what it submits is then the base prompt as it stands. Beside runs, only a preview of a
prompt asks for a recipe. -/

namespace PromptCanvas.Studio

variable {studio : Studio} {id : NodeId} {node : Node}

/-! ## Plans -/

/-- The prompt of a node with a script needs no recipe; that of any other node leaves a record if there is
    none. -/
theorem buildPrompt_snd (registry : Registry) (node : Node) (custom : Option String) :
    (buildPrompt registry node custom).2
      = registry.recording
          (if node.kind = .sourceImagescript || registry.table.has node.kind then none
            else some node.kind) := by
  unfold buildPrompt
  by_cases hscript : node.kind = .sourceImagescript
  · simp only [hscript, if_true, decide_true, Bool.true_or]
    exact registry.recording_none.symm
  · simp only [hscript, if_false, decide_false, Bool.false_or]
    exact registry.resolve_snd node.kind _ _

theorem plan_snd (registry : Registry) (node : Node) (custom : Option String) :
    (plan registry node custom).2
      = registry.recording (if registry.table.lacks node.kind then some node.kind else none) := by
  unfold plan
  split
  · next hkind => exact (registry.recording_of_free (by rw [hkind]; decide)).symm
  · next hkind =>
      simp only
      split <;> exact (registry.recording_of_free (by rw [hkind]; decide)).symm
  · next hkind => split <;> exact (registry.recording_of_free (by rw [hkind]; decide)).symm
  · next hvideo hpodcast hupload =>
      have hfree : node.kind ∈ recipeFree ↔ node.kind = .sourceImagescript := by
        simp only [recipeFree, List.mem_cons, List.not_mem_nil, or_false]
        constructor
        · rintro (hkind | hkind | hkind | hkind)
          · exact (hupload hkind).elim
          · exact hkind
          · exact (hpodcast hkind).elim
          · exact (hvideo hkind).elim
        · exact fun hkind => Or.inr (Or.inl hkind)
      have hlacks : (if node.kind = .sourceImagescript || registry.table.has node.kind then none
          else some node.kind) = if registry.table.lacks node.kind then some node.kind else none := by
        unfold RecipeTable.lacks
        simp only [hfree]
        by_cases hscript : node.kind = .sourceImagescript
        · simp [hscript]
        · cases registry.table.has node.kind <;> simp [hscript]
      rw [← hlacks, ← buildPrompt_snd registry node custom]
      simp only
      split <;> rfl

/-- A node whose kind is lacking is run with its base prompt as it stands, unless that is blank. -/
theorem plan_of_lacks {registry : Registry} (h : registry.table.lacks node.kind = true)
    (custom : Option String) :
    (plan registry node custom).1
      = if Text.blank (node.basePrompt.getD "") then .refuse blankPrompt
        else .submit (.image (node.basePrompt.getD "") node.aspectRatio) := by
  obtain ⟨hkinds, hmissing⟩ := RecipeTable.lacks_eq_true_iff.1 h
  simp only [recipeFree, List.mem_cons, List.not_mem_nil, or_false, not_or] at hkinds
  obtain ⟨hupload, hscript, hpodcast, hvideo⟩ := hkinds
  have hprompt : (buildPrompt registry node custom).1 = node.basePrompt.getD "" := by
    unfold buildPrompt
    rw [if_neg hscript]
    exact registry.resolve_fst_of_missing hmissing _ _
  unfold plan
  split
  · next hkind => exact absurd hkind hvideo
  · next hkind => exact absurd hkind hpodcast
  · next hkind => exact absurd hkind hupload
  · simp only [hprompt]
    split <;> rfl

/-! ## Beginning a run -/

/-- The kind for which a run of a node asks in vain: that of a live node that is not running, if the table
    lacks it. -/
def lacking (studio : Studio) (id : NodeId) : Option NodeKind :=
  match studio.graph.get? id with
  | some node =>
      if node.status ≠ .running ∧ studio.registry.table.lacks node.kind = true then some node.kind
      else none
  | none => none

theorem lacking_of_idle (hnode : studio.graph.get? id = some node) (hstatus : node.status ≠ .running) :
    studio.lacking id = if studio.registry.table.lacks node.kind then some node.kind else none := by
  simp [lacking, hnode, hstatus]

theorem lacking_eq_some_iff {kind : NodeKind} :
    studio.lacking id = some kind ↔
      ∃ node, studio.graph.get? id = some node ∧ node.status ≠ .running ∧
        studio.registry.table.lacks node.kind = true ∧ kind = node.kind := by
  cases hnode : studio.graph.get? id with
  | none => simp [lacking, hnode]
  | some node =>
      simp only [lacking, hnode]
      constructor
      · intro h
        split at h
        · next hlacks => exact ⟨node, rfl, hlacks.1, hlacks.2, (Option.some.inj h).symm⟩
        · simp at h
      · rintro ⟨found, hfound, hstatus, hlacks, rfl⟩
        obtain rfl : node = found := Option.some.inj hfound
        rw [if_pos ⟨hstatus, hlacks⟩]

/-- With a covered table no run asks in vain. -/
theorem lacking_of_covered (h : coverage studio.registry.table recipeFree = []) (id : NodeId) :
    studio.lacking id = none := by
  rw [Option.eq_none_iff_forall_ne_some]
  intro kind hlacking
  obtain ⟨node, _, _, hlacks, _⟩ := lacking_eq_some_iff.1 hlacking
  exact Bool.noConfusion (hlacks.symm.trans (lacks_eq_false_of_coverage h node.kind))

/-- A run that begins leaves a record of the kind that it asks for in vain. -/
theorem registry_begin (hsound : studio.graph.Sound) {after : Studio} {issued : Option Ticket}
    {custom aspectRatio : Option String}
    (h : studio.begin id custom aspectRatio = .ok (issued, after)) :
    after.registry = studio.registry.recording (studio.lacking id) := by
  obtain ⟨before, _, _, _, hbefore, hstatus, _⟩ := begun_of_begin h
  obtain ⟨begun, name, tick, _, _, heq⟩ := begin_eq hsound hbefore hstatus custom aspectRatio
  rw [heq] at h
  have hkind : (running before custom aspectRatio name tick).kind = before.kind := before.applyAll_kind _
  rw [(carryOut_cases h).1, lacking_of_idle hbefore hstatus, ← hkind]
  exact plan_snd _ _ _

theorem lacking_of_error (hsound : studio.graph.Sound) {custom aspectRatio : Option String} {r : Rejection}
    (h : studio.begin id custom aspectRatio = .error r) : studio.lacking id = none := by
  cases hnode : studio.graph.get? id with
  | none => simp only [lacking, hnode]
  | some node =>
      by_cases hstatus : node.status = .running
      · simp [lacking, hnode, hstatus]
      · obtain ⟨issued, after, hbegin⟩ := exists_begin hsound hnode hstatus custom aspectRatio
        rw [h] at hbegin
        simp at hbegin

/-- A run of a node whose kind is lacking begins, leaves a record of the kind, and submits the base prompt
    of the node, unless that is blank. -/
theorem begin_of_lacks (hsound : studio.graph.Sound) (hnode : studio.graph.get? id = some node)
    (hstatus : node.status ≠ .running) (hlacks : studio.registry.table.lacks node.kind = true)
    (custom aspectRatio : Option String) :
    ∃ issued after, studio.begin id custom aspectRatio = .ok (issued, after) ∧
      after.registry.anomalies = studio.registry.anomalies ++ [node.kind] ∧
      issued.map Ticket.request
        = if Text.blank (node.basePrompt.getD "") then none
          else some (.image (node.basePrompt.getD "")
            (node.applyAll (parameterEdits custom aspectRatio)).aspectRatio) := by
  obtain ⟨issued, after, hbegin⟩ := exists_begin hsound hnode hstatus custom aspectRatio
  refine ⟨issued, after, hbegin, ?_, ?_⟩
  · rw [registry_begin hsound hbegin, lacking_of_idle hnode hstatus, hlacks]
    rfl
  · obtain ⟨begun, name, tick, _, hbegun, heq⟩ := begin_eq hsound hnode hstatus custom aspectRatio
    have hkind : (running node custom aspectRatio name tick).kind = node.kind := node.applyAll_kind _
    have hplan := plan_of_lacks (hkind ▸ hlacks) custom
    rw [heq, hplan, running_basePrompt] at hbegin
    by_cases hblank : Text.blank (node.basePrompt.getD "") = true
    · rw [if_pos hblank] at hbegin ⊢
      obtain ⟨_, _, hrefused, _⟩ := @carryOut_refuse { studio with graph := begun, registry := _ } id _
        hbegun rfl name blankPrompt
      rw [hrefused, Except.ok.injEq, Prod.mk.injEq] at hbegin
      rw [← hbegin.1]
      rfl
    · rw [if_neg hblank] at hbegin ⊢
      rw [carryOut, Except.ok.injEq, Prod.mk.injEq] at hbegin
      rw [← hbegin.1]
      rfl

/-! ## Operations -/

/-- The kind for which an operation asks in vain. Runs ask for what their node lacks. An upload runs upload
    nodes only, which need no recipe. A preview asks even for kinds that are run without one, unless the
    prompt is that of a script. -/
def missed (studio : Studio) : Operation → Option NodeKind
  | .run id _ _ => studio.lacking id
  | .start id _ _ => studio.lacking id
  | .preview id _ =>
      match studio.graph.get? id with
      | some node =>
          if node.kind = .sourceImagescript || studio.registry.table.has node.kind then none
          else some node.kind
      | none => none
  | _ => none

theorem registry_run (hsound : studio.graph.Sound) (id : NodeId) (custom aspectRatio : Option String) :
    (studio.run id custom aspectRatio).left.1.registry = studio.registry.recording (studio.lacking id) := by
  cases hbegin : studio.begin id custom aspectRatio with
  | error r =>
      rw [left_run_of_error hbegin, lacking_of_error hsound hbegin]
      exact studio.registry.recording_none.symm
  | ok launched =>
      obtain ⟨issued, after⟩ := launched
      rw [left_run_of_ok hbegin]
      exact registry_begin hsound hbegin

/-- A picture is attached to an upload, and the run of an upload needs no recipe. -/
theorem lacking_of_attach {attached : Studio} {data : Bytes} {mimeType : String}
    (h : studio.attach id data mimeType = .ok attached) : attached.lacking id = none := by
  obtain ⟨node, graph, hnode, hkind, _, hedit, rfl⟩ := edit_of_attach h
  obtain ⟨_, rfl⟩ := Graph.edit_eq_ok_iff.1 hedit
  have hpicked := Graph.get?_alter_self (·.applyAll [.inputRef (some (DataUrl.encode data mimeType)),
    .inputMimeType (some mimeType)]) (fun other => other.applyAll_id _) hnode
  have hfree : studio.registry.table.lacks .sourceUpload = false := by
    simp [RecipeTable.lacks, recipeFree]
  simp only [lacking, hpicked, Node.applyAll_kind, hkind, hfree]
  simp

theorem registry_perform (hsound : studio.graph.Sound) (operation : Operation) :
    (studio.perform operation).1.registry = studio.registry.recording (studio.missed operation) := by
  cases operation with
  | add | delete | invalidate => exact studio.registry.recording_none.symm
  | update id updates =>
      simp only [perform, missed, Registry.recording_none]
      cases studio.graph.update id updates <;> rfl
  | begin id =>
      simp only [perform, missed, Registry.recording_none]
      cases studio.graph.begin id <;> rfl
  | setStatus id status failure =>
      simp only [perform, missed, Registry.recording_none]
      cases studio.graph.setStatusNamed id status failure <;> rfl
  | run id custom aspectRatio => exact registry_run hsound id custom aspectRatio
  | start id custom aspectRatio =>
      cases hbegin : studio.begin id custom aspectRatio with
      | error r =>
          simp only [perform, Studio.start, hbegin, missed, lacking_of_error hsound hbegin,
            Registry.recording_none]
      | ok launched =>
          obtain ⟨issued, after⟩ := launched
          cases issued <;>
            · simp only [perform, Studio.start, hbegin]
              exact registry_begin hsound hbegin
  | upload id data mimeType =>
      simp only [perform, Studio.upload, missed, Registry.recording_none]
      cases hattach : studio.attach id data mimeType with
      | error r => rfl
      | ok attached =>
          have hlacking := lacking_of_attach hattach
          obtain ⟨_, graph, _, _, _, hedit, rfl⟩ := edit_of_attach hattach
          have hsound' : { studio with graph := graph }.graph.Sound := (Graph.Step.edit hedit).sound hsound
          have hrun := registry_run hsound' id none none
          rw [hlacking, Registry.recording_none] at hrun
          exact hrun
  | enhance id =>
      simp only [perform, left_enhance id, missed, Registry.recording_none]
  | animation basePrompt instruction frameCount =>
      simp only [perform, left_animation basePrompt instruction frameCount, missed,
        Registry.recording_none]
  | preview id custom =>
      simp only [perform, Studio.promptOf, missed]
      cases studio.graph.get? id with
      | none => exact studio.registry.recording_none.symm
      | some node => exact buildPrompt_snd studio.registry node custom

theorem registry_resume (service : Service) (seen : List Graph) (errand : Errand) :
    (studio.resume service seen errand).2.registry = studio.registry := by
  rw [resume_eq]

end PromptCanvas.Studio
