import PromptCanvas.Proofs.Studio.Run

set_option autoImplicit false

/-! # What operations do to a studio

An operation that begins no run is quiet: it leaves the executions of nodes alone. One that begins a run
launches it, and its ticket is then among those in flight. Either way the operation takes the graph along
a path of changes, which add the node that the operation creates and begin the run that it begins. -/

namespace PromptCanvas.Studio

variable {studio : Studio}

/-- The tickets that an operation leaves in flight, for the studio it was performed on. -/
def leaves (left : Studio × Option Errand) : List Ticket :=
  left.1.pending ++ (left.2.bind Errand.ticket?).toList

theorem manual_cases {operation : Operation} (h : operation.isManual = true) :
    (∃ id, operation = .begin id) ∨ ∃ id status failure, operation = .setStatus id status failure := by
  cases operation with
  | begin id => exact Or.inl ⟨id, rfl⟩
  | setStatus id status failure => exact Or.inr ⟨id, status, failure, rfl⟩
  | add | update | delete | invalidate | run | start | upload | enhance | animation | preview =>
      exact Bool.noConfusion h

/-! ## Operations that begin a run -/

theorem left_run_of_ok {after : Studio} {id : NodeId} {custom aspectRatio : Option String}
    {issued : Option Ticket} (h : studio.begin id custom aspectRatio = .ok (issued, after)) :
    (studio.run id custom aspectRatio).left = (after, issued.map Errand.run) := by
  unfold Studio.run
  rw [h]
  cases issued <;> rfl

theorem left_run_of_error {id : NodeId} {custom aspectRatio : Option String} {r : Rejection}
    (h : studio.begin id custom aspectRatio = .error r) :
    (studio.run id custom aspectRatio).left = (studio, none) := by
  unfold Studio.run
  rw [h]
  rfl

theorem opens_eq_some_iff {id node : NodeId} {custom aspectRatio : Option String}
    {issued : Option Ticket} :
    studio.opens id custom aspectRatio = some (node, issued) ↔
      node = id ∧ ∃ after, studio.begin id custom aspectRatio = .ok (issued, after) := by
  unfold Studio.opens
  split
  · next ticket after h =>
      rw [h, Option.some.injEq, Prod.mk.injEq]
      constructor
      · rintro ⟨rfl, rfl⟩
        exact ⟨rfl, after, rfl⟩
      · rintro ⟨rfl, _, heq⟩
        rw [Except.ok.injEq, Prod.mk.injEq] at heq
        exact ⟨rfl, heq.1⟩
  · next h => simp [h]

/-- A picture is attached to an upload that is not running, by two edits, and nothing else changes. -/
theorem edit_of_attach {attached : Studio} {id : NodeId} {data : Bytes} {mimeType : String}
    (h : studio.attach id data mimeType = .ok attached) :
    ∃ node graph, studio.graph.get? id = some node ∧ node.kind = .sourceUpload ∧
      node.status ≠ .running ∧
      studio.graph.edit id
          [.inputRef (some (DataUrl.encode data mimeType)), .inputMimeType (some mimeType)] = .ok graph ∧
      attached = { studio with graph := graph } := by
  unfold Studio.attach at h
  split at h
  · simp at h
  · next node hnode =>
      split at h
      · simp at h
      · next hkind =>
          split at h
          · simp at h
          · next hstatus =>
              cases hedit : studio.graph.edit id
                  [.inputRef (some (DataUrl.encode data mimeType)), .inputMimeType (some mimeType)] with
              | error r => simp [hedit, Except.map] at h
              | ok graph =>
                  rw [hedit, Except.map, Except.ok.injEq] at h
                  exact ⟨node, graph, hnode, not_not.1 hkind, hstatus, rfl, h.symm⟩

/-- A picture is attached to a node that is not running, and only the input of this upload is written. -/
theorem attach_eq_ok {attached : Studio} {id : NodeId} {data : Bytes} {mimeType : String}
    (hsound : studio.graph.Sound) (h : studio.attach id data mimeType = .ok attached) :
    ∃ node edits, studio.graph.get? id = some node ∧ node.status ≠ .running ∧
      studio.graph.edit id edits = .ok attached.graph ∧
      studio.graph.Orderly (.edit id edits) ∧ attached.pending = studio.pending := by
  obtain ⟨node, graph, hnode, hkind, hstatus, hedit, rfl⟩ := edit_of_attach h
  refine ⟨node, _, hnode, hstatus, hedit, ?_, rfl⟩
  intro edit hmem other hother he
  have hsame : node = other :=
    Option.some.inj (hnode.symm.trans (he ▸ Graph.get?_of_mem hsound.nodup hother))
  have hupload : other.kind = .sourceUpload := hsame ▸ hkind
  simp only [List.mem_cons, List.not_mem_nil, or_false] at hmem
  rcases hmem with rfl | rfl
  · exact ⟨fun _ => hupload, Field.noConfusion⟩
  · exact ⟨Field.noConfusion, Field.noConfusion⟩

theorem run_launches {id node : NodeId} {custom aspectRatio : Option String} {issued : Option Ticket}
    (hsound : studio.graph.Sound) (h : studio.opens id custom aspectRatio = some (node, issued)) :
    studio.graph.Launches node issued (studio.run id custom aspectRatio).left.1.graph ∧
      leaves (studio.run id custom aspectRatio).left = studio.pending ++ issued.toList := by
  obtain ⟨rfl, after, hbegin⟩ := opens_eq_some_iff.1 h
  obtain ⟨hlaunches, hpending⟩ := launches_of_begin hsound hbegin
  rw [left_run_of_ok hbegin]
  refine ⟨hlaunches, ?_⟩
  unfold leaves
  rw [hpending]
  cases issued <;> rfl

/-- An operation that begins a run launches it, and leaves its ticket in flight. -/
theorem perform_launches (hsound : studio.graph.Sound) {operation : Operation}
    (hindirect : operation.isManual = false) {node : NodeId} {issued : Option Ticket}
    (h : studio.beginning operation = some (node, issued)) :
    studio.graph.Launches node issued (studio.perform operation).1.graph ∧
      leaves (studio.perform operation) = studio.pending ++ issued.toList := by
  cases operation with
  | begin | setStatus => exact Bool.noConfusion hindirect
  | run id custom aspectRatio => exact run_launches hsound h
  | start id custom aspectRatio =>
      obtain ⟨rfl, after, hbegin⟩ := opens_eq_some_iff.1 h
      obtain ⟨hlaunches, hpending⟩ := launches_of_begin hsound hbegin
      cases issued with
      | none =>
          simp only [perform, Studio.start, hbegin]
          exact ⟨hlaunches, by simp [leaves, hpending]⟩
      | some ticket =>
          simp only [perform, Studio.start, hbegin]
          exact ⟨hlaunches, by simp [leaves, hpending]⟩
  | upload id data mimeType =>
      simp only [beginning] at h
      split at h
      · next attached hattach =>
          -- the picture is attached first, and the run is launched after that edit
          obtain ⟨_, edits, _, _, hedit, hfit, hpending⟩ := attach_eq_ok hsound hattach
          have hsound' : attached.graph.Sound := (Graph.Step.edit hedit).sound hsound
          simp only [perform, Studio.upload, hattach]
          obtain ⟨hlaunches, hleaves⟩ := run_launches hsound' h
          obtain ⟨rfl, _⟩ := opens_eq_some_iff.1 h
          exact ⟨hlaunches.after_edit hedit hfit, hpending ▸ hleaves⟩
      · simp at h
  | add | update | delete | invalidate | enhance | animation | preview => simp [beginning] at h

/-! ## Operations that begin none -/

/-- The demand on the changes that a quiet operation makes. -/
def Quiet (operation : Operation) (g : Graph) (change : Change) : Prop :=
  change.isQuiet = true ∧ (operation.givesArtifact = false → g.Orderly change)

theorem begin_of_opens_eq_none {id : NodeId} {custom aspectRatio : Option String}
    (h : studio.opens id custom aspectRatio = none) :
    ∃ r, studio.begin id custom aspectRatio = .error r := by
  unfold Studio.opens at h
  split at h
  · simp at h
  · next r hr => exact ⟨r, hr⟩

theorem left_enhance (id : NodeId) :
    (studio.enhance id).left.1 = studio ∧
      (studio.enhance id).left.2.bind Errand.ticket? = none := by
  unfold Studio.enhance
  split
  · exact ⟨rfl, rfl⟩
  · split
    · exact ⟨rfl, rfl⟩
    · split <;> exact ⟨rfl, rfl⟩

theorem left_animation (basePrompt instruction : String) (frameCount : Int) :
    (studio.animation basePrompt instruction frameCount).left.1 = studio ∧
      (studio.animation basePrompt instruction frameCount).left.2.bind Errand.ticket? = none := by
  unfold Studio.animation
  split <;> exact ⟨rfl, rfl⟩

theorem perform_quiet (hsound : studio.graph.Sound) {operation : Operation}
    (hindirect : operation.isManual = false) (h : studio.beginning operation = none) :
    (∃ changes, Graph.Path (Quiet operation) studio.graph changes (studio.perform operation).1.graph ∧
        changes.filterMap Change.added? = (studio.creates operation).toList) ∧
      leaves (studio.perform operation) = studio.pending := by
  have hnil : ∀ operation, Graph.Path (Quiet operation) studio.graph [] studio.graph :=
    fun operation => .nil studio.graph
  cases operation with
  | begin | setStatus => exact Bool.noConfusion hindirect
  | add kind parent fields =>
      obtain ⟨changes, path, hadded⟩ :=
        studio.graph.add_path studio.settings.defaultAspectRatio kind parent fields
      refine ⟨⟨changes, path.mono fun g change hfit => ⟨hfit.1, fun hgives => hfit.2 ?_⟩, ?_⟩, ?_⟩
      · exact (Bool.or_eq_false_iff.1 hgives).1
      · rw [hadded]
        simp only [creates]
        split <;> next heq => rw [heq]; rfl
      · simp [perform, leaves]
  | update id updates =>
      simp only [perform, creates]
      cases hupdate : studio.graph.update id updates with
      | error r => exact ⟨⟨[], hnil _, rfl⟩, List.append_nil _⟩
      | ok graph =>
          obtain ⟨edits, path⟩ := Graph.update_path hupdate
          refine ⟨⟨_, path.mono fun g change hfit => ⟨hfit.1, fun hgives => ?_⟩, rfl⟩, List.append_nil _⟩
          obtain ⟨hinput, houtput⟩ := Bool.or_eq_false_iff.1 hgives
          exact hfit.2 hinput houtput
  | delete id =>
      obtain ⟨changes, path, hadded⟩ := hsound.delete_path id
      exact ⟨⟨changes, path.mono fun _ _ hfit => ⟨hfit.1, fun _ => hfit.2⟩, hadded⟩, List.append_nil _⟩
  | invalidate id =>
      exact ⟨⟨_, (hsound.invalidate_path id).mono fun _ _ hfit => ⟨hfit.1, fun _ => hfit.2⟩, rfl⟩,
        List.append_nil _⟩
  | run id custom aspectRatio =>
      obtain ⟨r, hr⟩ := begin_of_opens_eq_none h
      simp only [perform, left_run_of_error hr]
      exact ⟨⟨[], hnil _, rfl⟩, List.append_nil _⟩
  | start id custom aspectRatio =>
      obtain ⟨r, hr⟩ := begin_of_opens_eq_none h
      simp only [perform, Studio.start, hr]
      exact ⟨⟨[], hnil _, rfl⟩, List.append_nil _⟩
  | upload id data mimeType =>
      simp only [beginning] at h
      split at h
      · next attached hattach =>
          obtain ⟨_, edits, _, _, hedit, hfit, hpending⟩ := attach_eq_ok hsound hattach
          obtain ⟨r, hr⟩ := begin_of_opens_eq_none h
          simp only [perform, Studio.upload, hattach, left_run_of_error hr]
          exact ⟨⟨[.edit id edits], .single (.edit hedit) ⟨rfl, fun _ => hfit⟩, rfl⟩,
            (List.append_nil _).trans hpending⟩
      · next r hr =>
          simp only [perform, Studio.upload, hr]
          exact ⟨⟨[], hnil _, rfl⟩, List.append_nil _⟩
  | enhance id =>
      simp only [perform, leaves, left_enhance id]
      exact ⟨⟨[], hnil _, rfl⟩, List.append_nil _⟩
  | animation basePrompt instruction frameCount =>
      simp only [perform, leaves, left_animation basePrompt instruction frameCount]
      exact ⟨⟨[], hnil _, rfl⟩, List.append_nil _⟩
  | preview id custom =>
      simp only [perform, Studio.promptOf]
      cases studio.graph.get? id with
      | none => exact ⟨⟨[], hnil _, rfl⟩, List.append_nil _⟩
      | some node => exact ⟨⟨[], hnil _, rfl⟩, List.append_nil _⟩

/-! ## All operations -/

theorem perform_path (hsound : studio.graph.Sound) (operation : Operation) :
    ∃ changes, Graph.Path (fun g change => operation.isManual = false →
        operation.givesArtifact = false → g.Orderly change)
        studio.graph changes (studio.perform operation).1.graph ∧
      changes.filterMap Change.added? = (studio.creates operation).toList ∧
      changes.filterMap Change.begun? = ((studio.beginning operation).map Prod.fst).toList := by
  cases hmanual : operation.isManual with
  | false =>
      -- what begins no run is quiet, and what begins one adds no node
      cases hbeginning : studio.beginning operation with
      | none =>
          obtain ⟨⟨changes, path, hadded⟩, _⟩ := perform_quiet hsound hmanual hbeginning
          exact ⟨changes, path.mono fun _ _ hfit _ => hfit.2, hadded,
            path.begun_eq_nil fun _ _ hfit => hfit.1⟩
      | some launched =>
          obtain ⟨node, issued⟩ := launched
          obtain ⟨hlaunches, _⟩ := perform_launches hsound hmanual hbeginning
          obtain ⟨changes, path, hadded, hbegun⟩ := hlaunches.path hsound
          refine ⟨changes, path.mono fun _ _ hfit _ _ => hfit, ?_, hbegun⟩
          rw [hadded]
          cases operation <;> first | rfl | simp [beginning] at hbeginning
  | true =>
      rcases manual_cases hmanual with ⟨id, rfl⟩ | ⟨id, status, failure, rfl⟩
      · simp only [perform, beginning, creates]
        cases hbegin : studio.graph.begin id with
        | error r => exact ⟨[], .nil _, rfl, rfl⟩
        | ok graph =>
            exact ⟨[.begin id], .single (.begin hbegin) fun h => Bool.noConfusion h, rfl, rfl⟩
      · simp only [perform, beginning, creates]
        cases hset : studio.graph.setStatusNamed id status failure with
        | error r => exact ⟨[], .nil _, rfl, rfl⟩
        | ok graph =>
            obtain ⟨later, hlater⟩ := Graph.setStatus_of_named hset
            exact ⟨[_], .single (.setStatus hlater) (fun h => Bool.noConfusion h), rfl, rfl⟩

/-- The tickets in flight after an operation are those before it and the one of the run it begins. -/
theorem leaves_perform (hsound : studio.graph.Sound) (operation : Operation) :
    leaves (studio.perform operation)
      = studio.pending ++ ((studio.beginning operation).bind Prod.snd).toList := by
  cases hmanual : operation.isManual with
  | false =>
      cases hbeginning : studio.beginning operation with
      | none => exact (perform_quiet hsound hmanual hbeginning).2.trans (List.append_nil _).symm
      | some launched => exact (perform_launches hsound hmanual hbeginning).2
  | true =>
      rcases manual_cases hmanual with ⟨id, rfl⟩ | ⟨id, status, failure, rfl⟩
      · simp only [perform, beginning]
        cases studio.graph.begin id <;> rfl
      · simp only [perform, beginning]
        cases studio.graph.setStatusNamed id status failure <;> rfl

/-- The node of which an operation begins a run has a generation, which the ticket of the run names. -/
theorem generation_of_beginning (hsound : studio.graph.Sound) {operation : Operation} {id : NodeId}
    {issued : Option Ticket} (h : studio.beginning operation = some (id, issued)) :
    ∃ node name, (studio.perform operation).1.graph.get? id = some node ∧
      node.generation = some name ∧
        ∀ ticket, issued = some ticket → ticket.node = id ∧ ticket.generation = name := by
  cases hmanual : operation.isManual with
  | false => exact (perform_launches hsound hmanual h).1.generation
  | true =>
      rcases manual_cases hmanual with ⟨target, rfl⟩ | ⟨_, _, _, rfl⟩
      · simp only [beginning] at h
        split at h
        · next graph hbegin =>
            rw [Option.some.injEq, Prod.mk.injEq] at h
            obtain ⟨rfl, rfl⟩ := h
            obtain ⟨_, node, _, _, hnode, _, hname⟩ := Graph.get?_of_begin hbegin
            simp only [perform, hbegin]
            exact ⟨node, _, hnode, hname, fun _ hticket => by simp at hticket⟩
        · simp at h
      · simp [beginning] at h

end PromptCanvas.Studio
