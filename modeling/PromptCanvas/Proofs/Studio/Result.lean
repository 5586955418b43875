import PromptCanvas.Proofs.Studio.Request
import PromptCanvas.Proofs.Studio.Retention

set_option autoImplicit false

/-! # How nodes become ready

A node that is ready after an operation was so before and shows the same, or it is a video that the
operation has completed. After a reply it was so before, or the reply was for its own run, had a result, and
this was written to it. -/

namespace PromptCanvas

/-- What a node shows of its results, beside its kind. -/
def Node.shown (node : Node) : NodeKind × Option String × Option String × Option String × Bool :=
  (node.kind, node.outputRef, node.basePrompt, node.textOutput, node.videoComplete)

namespace Studio

variable {studio : Studio} {id : NodeId}

/-! ## Operations -/

/-- What an operation reads from its caller is not shown, unless it gives results. -/
theorem shown_apply_of_reads {operation : Operation} (hspares : operation.givesResult = false) {edit : Edit}
    (hreads : operation.Reads edit) (node : Node) : (node.apply edit).shown = node.shown := by
  cases operation with
  | update target updates =>
      obtain ⟨value, hvalue, _⟩ := hreads
      have hgiven := Table.has_of_mem updates _ hvalue
      have hnames : edit.field.name ∉ Operation.resultNames := fun hmem =>
        List.any_eq_false.1 hspares _ hmem hgiven
      cases edit <;> first | rfl | exact absurd (by simp [Edit.field, Field.name, Operation.resultNames]) hnames
  | add | begin | setStatus | delete | invalidate | run | start | upload | enhance | animation | preview =>
      exact hreads.elim

theorem mem_ids_of_perform (hsound : studio.graph.Sound) {operation : Operation} {node : Node}
    (hnode : (studio.perform operation).1.graph.get? id = some node) :
    id ∈ studio.graph.ids ∨ node.status = .idle := by
  have hlive := Graph.mem_ids_of_get? hnode
  cases htarget : operation.target? with
  | some target =>
      obtain ⟨_, path⟩ := perform_within hsound htarget
      rw [(path.spares hsound).order] at hlive
      exact Or.inl (List.mem_of_mem_filter hlive)
  | none =>
      rcases perform_of_target?_eq_none htarget with ⟨kind, parent, fields, rfl⟩ | hsame
      · exact Graph.mem_ids_of_add hnode
      · rw [hsame] at hlive
        exact Or.inl hlive

/-- A node that is ready after an operation was ready before and shows what it showed, or is a completed
    video. -/
theorem ready_of_perform (hsound : studio.graph.Sound) {operation : Operation}
    (hindirect : operation.isManual = false) (hspares : operation.givesResult = false) {node : Node}
    (hnode : (studio.perform operation).1.graph.get? id = some node) (hready : node.status = .ready) :
    (∃ before, studio.graph.get? id = some before ∧ before.status = .ready ∧ node.shown = before.shown ∧
        ∀ issued, studio.beginning operation ≠ some (id, issued)) ∨
      (node.kind = .veoVideo ∧ node.videoComplete = true) := by
  by_cases hbegins : ∃ issued, studio.beginning operation = some (id, issued)
  · obtain ⟨issued, hbeginning⟩ := hbegins
    obtain ⟨_, _, _, after, hbegin, hgraph⟩ := begun_of_beginning hindirect hbeginning
    rw [hgraph] at hnode
    exact Or.inr (complete_of_begin hbegin hnode hready)
  · have hnone : ∀ issued, studio.beginning operation ≠ some (id, issued) := not_exists.1 hbegins
    have hlive : id ∈ studio.graph.ids := by
      rcases mem_ids_of_perform hsound hnode with hlive | hidle
      · exact hlive
      · rw [hready] at hidle
        exact Status.noConfusion hidle
    have hretains : Graph.Retains (fun node => (node.status, node.shown)) id studio.graph
        (studio.perform operation).1.graph :=
      retains_perform hsound (Or.inl hlive) hindirect hnone
        (fun _ edit hreads other =>
          congrArg₂ Prod.mk (other.applyAll_status [edit]) (shown_apply_of_reads hspares hreads other))
        fun _ _ => rfl
    obtain ⟨before, hbefore, hview⟩ := hretains node hnode
    obtain ⟨hstatus, hshown⟩ := Prod.mk.inj hview
    exact Or.inl ⟨before, hbefore, hstatus.symm.trans hready, hshown, hnone⟩

/-! ## Replies -/

/-- A current run that leaves its node ready had a result, which was written to the node. -/
theorem settle_ready {α : Type} {ticket : Ticket} {node final : Node} {after : Studio}
    {reply : Except Failure α} {edits : Node → α → List Edit}
    (hcurrent : studio.current? ticket = some node)
    (h : studio.settle ticket reply edits = .ok (some final, after))
    (hready : final.status = .ready) :
    ∃ result tick, reply = .ok result ∧
      final = { Node.moved .ready none (node.applyAll (edits node result)) with tick := tick } := by
  obtain ⟨hnode, _⟩ := current?_eq_some_iff.1 hcurrent
  simp only [settle, hcurrent] at h
  cases reply with
  | error failure =>
      obtain ⟨graph, hset, h⟩ := bind_eq_ok_iff.1 h
      rw [Except.ok.injEq, Prod.mk.injEq] at h
      obtain ⟨_, failed, _, _, hfailed, hstatus, _⟩ := Graph.get?_of_setStatus hset
      rw [h.1, Option.some.injEq] at hfailed
      rw [hfailed, hstatus] at hready
      exact Status.noConfusion hready
  | ok result =>
      obtain ⟨edited, hedit, h⟩ := bind_eq_ok_iff.1 h
      obtain ⟨graph, hset, h⟩ := bind_eq_ok_iff.1 h
      rw [Except.ok.injEq, Prod.mk.injEq] at h
      obtain ⟨_, rfl⟩ := Graph.edit_eq_ok_iff.1 hedit
      obtain ⟨_, _, _, rfl⟩ := Graph.setStatus_eq_ok_iff.1 hset
      have hedited :=
        Graph.get?_alter_self (·.applyAll (edits node result)) (fun n => n.applyAll_id _) hnode
      have hfinal := Graph.get?_alter_self (Node.moved .ready none) (fun _ => rfl) hedited
      exact ⟨result, _, rfl, Option.some.inj (h.1.symm.trans hfinal)⟩

theorem complete_of_resume {ticket : Ticket} {final : Node} {service : Service} {seen : List Graph}
    (h : (studio.resume service seen (.run ticket)).1 = .ok (some final)) :
    ∃ after, studio.complete service ticket = .ok (some final, after) := by
  simp only [resume] at h
  cases hcomplete : studio.complete service ticket with
  | error r => simp [hcomplete, outcome] at h
  | ok completed =>
      obtain ⟨brought, after⟩ := completed
      rw [hcomplete] at h
      exact ⟨after, by rw [Except.ok.inj h]⟩

/-- A node that is ready after a reply was ready before and shows what it showed, or it is what the reply
    to its own run has brought. -/
theorem ready_of_resume (hsound : studio.graph.Sound) {service : Service} {seen : List Graph}
    {errand : Errand} {node : Node}
    (hnode : (studio.resume service seen errand).2.graph.get? id = some node)
    (hready : node.status = .ready) :
    (∃ before, studio.graph.get? id = some before ∧ before.status = .ready ∧ node.shown = before.shown) ∨
      ∃ ticket held, errand = .run ticket ∧ ticket.node = id ∧ studio.current? ticket = some held ∧
        (studio.resume service seen (.run ticket)).1 = .ok (some node) := by
  have hview : Graph.Retains (fun node => (node.status, node.shown)) id studio.graph
        (studio.resume service seen errand).2.graph →
      ∃ before, studio.graph.get? id = some before ∧ before.status = .ready ∧ node.shown = before.shown := by
    intro hretains
    obtain ⟨before, hbefore, hview⟩ := hretains node hnode
    obtain ⟨hstatus, hshown⟩ := Prod.mk.inj hview
    exact ⟨before, hbefore, hstatus.symm.trans hready, hshown⟩
  cases errand with
  | animation => exact Or.inl (hview (.refl _ id _))
  | boost before =>
      exact Or.inl (hview (retains_boost before service seen (fun _ _ => rfl) fun _ _ => rfl))
  | run ticket =>
      rcases studio.resume_run_cases service seen ticket with ⟨_, _, heq⟩ | ⟨_, _, _, heq⟩ |
        ⟨_, held, graph, _, hcurrent, hends, heq⟩
      · rw [heq] at hnode
        exact Or.inl ⟨node, hnode, hready, rfl⟩
      · rw [heq] at hnode
        exact Or.inl ⟨node, hnode, hready, rfl⟩
      · by_cases he : ticket.node = id
        · rw [heq] at hnode
          exact Or.inr ⟨ticket, held, rfl, he, hcurrent, by rw [heq, he, hnode]⟩
        · have hlive : id ∈ studio.graph.ids := by
            rw [heq] at hnode
            rw [← hends.sameBut.ids]
            exact Graph.mem_ids_of_get? hnode
          have hne : (Errand.run ticket).target? ≠ some id := fun htarget => he (Option.some.inj htarget)
          exact Or.inl (hview (retains_resume_of_ne hsound (Or.inl hlive) hne service seen))

/-- What a run shows that has left its node ready, by its request. -/
theorem shown_of_resume {ticket : Ticket} {node final : Node} {service : Service} {seen : List Graph}
    (hcurrent : studio.current? ticket = some node)
    (h : (studio.resume service seen (.run ticket)).1 = .ok (some final))
    (hready : final.status = .ready) :
    final.kind = node.kind ∧
      match ticket.request with
      | .image prompt aspectRatio =>
          ∃ data, service.image prompt aspectRatio = .ok data ∧
            final.outputRef = some (DataUrl.encode data studio.settings.imageMimeType) ∧
            final.basePrompt = some prompt
      | .describe _ _ => final.outputRef = node.inputRef
      | .podcast _ => ∃ text, final.textOutput = some text := by
  obtain ⟨after, hfinal⟩ := complete_of_resume h
  unfold complete at hfinal
  cases hrequest : ticket.request with
  | image prompt aspectRatio =>
      rw [hrequest] at hfinal
      obtain ⟨_, hreceived, hsettle⟩ := bind_eq_ok_iff.1 hfinal
      obtain ⟨data, tick, rfl, rfl⟩ := settle_ready hcurrent hsettle hready
      exact ⟨node.applyAll_kind _, data, reply_of_received hreceived, rfl, rfl⟩
  | describe data mimeType =>
      rw [hrequest] at hfinal
      obtain ⟨_, _, hsettle⟩ := bind_eq_ok_iff.1 hfinal
      obtain ⟨description, tick, _, rfl⟩ := settle_ready hcurrent hsettle hready
      exact ⟨node.applyAll_kind _, rfl⟩
  | podcast prompt =>
      rw [hrequest] at hfinal
      obtain ⟨_, _, hsettle⟩ := bind_eq_ok_iff.1 hfinal
      obtain ⟨text, tick, _, rfl⟩ := settle_ready hcurrent hsettle hready
      exact ⟨node.applyAll_kind _, text, rfl⟩

end Studio

end PromptCanvas
