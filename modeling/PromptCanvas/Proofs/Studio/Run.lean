import PromptCanvas.Proofs.Generation.Classification
import PromptCanvas.Proofs.Generation.Failure
import PromptCanvas.Proofs.Graph.Operation
import PromptCanvas.Studio.Operation

set_option autoImplicit false

/-! # The life of a run

What a run does to a graph, at its beginning and at its end. A run begins after everything below its node
was removed; it ends at once, or with the reply to its ticket. A reply whose run is no longer current
changes nothing. Completing a run fails in one case only: the trouble of the reply holds a container for
which there is no room. Whether that is so is settled before the run is looked at. -/

namespace PromptCanvas

/-! ## How a run ends -/

namespace Graph

/-- A run of a node ends: in a failure, or with results that are written to the node. -/
inductive Ends (g : Graph) (id : NodeId) : Graph → Prop where
  | failed {g' : Graph} (failure : Failure) (h : g.setStatus id .failed (some failure) = .ok g') :
      Ends g id g'
  | ready {edited g' : Graph} {edits : List Edit} (hinput : ∀ edit ∈ edits, edit.field ≠ .inputRef)
      (hedit : g.edit id edits = .ok edited) (h : edited.setStatus id .ready none = .ok g') :
      Ends g id g'

variable {g g' : Graph} {id : NodeId}

theorem running_of_mem_next {status later : Status} (hlater : later ≠ .running)
    (h : later ∈ status.next) : status = .running := by
  cases status with
  | running => rfl
  | idle | ready | failed => exact absurd (List.mem_singleton.1 h) hlater

theorem Ends.sameBut (h : g.Ends id g') : SameBut id g g' := by
  cases h with
  | failed failure h => exact sameBut_of_setStatus h
  | ready _ hedit h => exact (sameBut_of_edit hedit).trans (sameBut_of_setStatus h)

/-- The node of a run that ends was running, and is no longer; it keeps its generation. -/
theorem Ends.stops (h : g.Ends id g') :
    ∃ before node, g.get? id = some before ∧ before.status = .running ∧ g'.get? id = some node ∧
      node.status ≠ .running ∧ node.generation = before.generation := by
  cases h with
  | failed failure h =>
      obtain ⟨before, node, hbefore, hnext, hnode, hstatus, hgeneration⟩ := get?_of_setStatus h
      exact ⟨before, node, hbefore, running_of_mem_next (by decide) hnext, hnode,
        by rw [hstatus]; decide, hgeneration⟩
  | ready _ hedit h =>
      obtain ⟨before, edited, hbefore, hedited, hsame, hkept⟩ := get?_of_edit hedit
      obtain ⟨_, node, hedited', hnext, hnode, hstatus, hgeneration⟩ := get?_of_setStatus h
      rw [hedited, Option.some.injEq] at hedited'
      rw [← hedited', hsame] at hnext
      rw [← hedited', hkept] at hgeneration
      exact ⟨before, node, hbefore, running_of_mem_next (by decide) hnext, hnode,
        by rw [hstatus]; decide, hgeneration⟩

/-- The end of a run is orderly; it adds nothing and begins nothing. -/
theorem Ends.path (h : g.Ends id g') (hsound : g.Sound) :
    ∃ changes, Path Orderly g changes g' ∧ changes.filterMap Change.added? = [] ∧
      changes.filterMap Change.begun? = [] := by
  obtain ⟨node, _, hnode, hrunning, _⟩ := h.stops
  cases h with
  | failed failure h =>
      have hfit : g.Orderly (.setStatus id .failed (some failure)) := Status.noConfusion
      exact ⟨[.setStatus id .failed (some failure)], .single (.setStatus h) hfit, rfl, rfl⟩
  | @ready edited _ edits hinput hedit h =>
      have hfit : ∀ graph : Graph, graph.Orderly (.setStatus id .ready none) :=
        fun _ => Status.noConfusion
      refine ⟨[.edit id edits, .setStatus id .ready none],
        .cons (.edit hedit) ?_ (.single (.setStatus h) (hfit _)), rfl, rfl⟩
      -- the node that is edited is the one that was found running
      intro edit hmem other hother he
      have hsame : node = other :=
        Option.some.inj (hnode.symm.trans (he ▸ get?_of_mem hsound.nodup hother))
      exact ⟨fun hfield => absurd hfield (hinput edit hmem), fun _ => hsame ▸ hrunning⟩

theorem exists_ends_failed {node : Node} (hnode : g.get? id = some node)
    (hrunning : node.status = .running) (failure : Failure) :
    ∃ g', g.setStatus id .failed (some failure) = .ok g' ∧ g.Ends id g' := by
  have hset : g.setStatus id .failed (some failure)
      = .ok (g.alter id (Node.moved .failed (some failure))) :=
    setStatus_eq_ok_iff.2 ⟨node, hnode, by rw [hrunning]; decide, rfl⟩
  exact ⟨_, hset, .failed failure hset⟩

theorem exists_ends_ready {node : Node} (hnode : g.get? id = some node)
    (hrunning : node.status = .running) {edits : List Edit}
    (hinput : ∀ edit ∈ edits, edit.field ≠ .inputRef) :
    ∃ edited g', g.edit id edits = .ok edited ∧ edited.setStatus id .ready none = .ok g' ∧
      g.Ends id g' := by
  have hedit : g.edit id edits = .ok (g.alter id (·.applyAll edits)) :=
    edit_eq_ok_iff.2 ⟨mem_ids_of_get? hnode, rfl⟩
  have hlater := get?_alter_self (·.applyAll edits) (fun n => n.applyAll_id edits) hnode
  have hstatus : (node.applyAll edits).status = .running := (node.applyAll_status edits).trans hrunning
  have hset : (g.alter id (·.applyAll edits)).setStatus id .ready none
      = .ok ((g.alter id (·.applyAll edits)).alter id (Node.moved .ready none)) :=
    setStatus_eq_ok_iff.2 ⟨_, hlater, by simp only [hstatus]; decide, rfl⟩
  exact ⟨_, _, hedit, hset, .ready hinput hedit hset⟩

/-! ## How a run begins -/

/-- A run of a node begins, after quiet changes that leave nothing below the node. -/
def Begins (g : Graph) (id : NodeId) (begun : Graph) : Prop :=
  ∃ changes ready, Path (fun g change => change.isQuiet = true ∧ g.Orderly change) g changes ready ∧
    changes.filterMap Change.added? = [] ∧ (∀ other ∈ ready.nodes, other.parent ≠ some id) ∧
    ready.begin id = .ok begun

/-- A run of a node begins, and either waits with its ticket or ends at once. -/
inductive Launches (g : Graph) (id : NodeId) : Option Ticket → Graph → Prop where
  | waiting {begun : Graph} {node : Node} {name : String} (request : Request)
      (hbegins : g.Begins id begun) (hnode : begun.get? id = some node)
      (hname : node.generation = some name) : Launches g id (some ⟨id, name, request⟩) begun
  | ended {begun g' : Graph} (hbegins : g.Begins id begun) (hends : begun.Ends id g') :
      Launches g id none g'

theorem Launches.begins {issued : Option Ticket} (h : g.Launches id issued g') :
    ∃ begun, g.Begins id begun := by
  cases h with
  | waiting _ hbegins _ _ => exact ⟨g', hbegins⟩
  | @ended begun _ hbegins _ => exact ⟨begun, hbegins⟩

/-- An edit that an orderly change may make can come before. -/
theorem Begins.after_edit {edited begun : Graph} {edits : List Edit} (h : edited.Begins id begun)
    (hedit : g.edit id edits = .ok edited) (hfit : g.Orderly (.edit id edits)) : g.Begins id begun := by
  obtain ⟨changes, ready, path, hadded, hleaf, hbegin⟩ := h
  exact ⟨.edit id edits :: changes, ready, .cons (.edit hedit) ⟨rfl, hfit⟩ path, hadded, hleaf, hbegin⟩

theorem Launches.after_edit {edited : Graph} {edits : List Edit} {issued : Option Ticket}
    (h : edited.Launches id issued g') (hedit : g.edit id edits = .ok edited)
    (hfit : g.Orderly (.edit id edits)) : g.Launches id issued g' := by
  cases h with
  | waiting request hbegins hnode hname =>
      exact .waiting request (hbegins.after_edit hedit hfit) hnode hname
  | ended hbegins hends => exact .ended (hbegins.after_edit hedit hfit) hends

theorem Begins.path {begun : Graph} (h : g.Begins id begun) :
    ∃ changes, Path Orderly g changes begun ∧ changes.filterMap Change.added? = [] ∧
      changes.filterMap Change.begun? = [id] := by
  obtain ⟨changes, ready, path, hadded, hleaf, hbegin⟩ := h
  have hquiet : changes.filterMap Change.begun? = [] := path.begun_eq_nil fun _ _ hfit => hfit.1
  refine ⟨changes ++ [.begin id],
    (path.mono fun _ _ hfit => hfit.2).append (.single (.begin hbegin) (by exact hleaf)), ?_, ?_⟩
  · rw [List.filterMap_append, hadded]
    rfl
  · rw [List.filterMap_append, hquiet]
    rfl

/-- The node of a run that is launched has a generation, which the ticket of the run names. -/
theorem Launches.generation {issued : Option Ticket} (h : g.Launches id issued g') :
    ∃ node name, g'.get? id = some node ∧ node.generation = some name ∧
      ∀ ticket, issued = some ticket → ticket.node = id ∧ ticket.generation = name := by
  cases h with
  | @waiting _ node name request _ hnode hname =>
      refine ⟨node, name, hnode, hname, fun ticket hticket => ?_⟩
      rw [← Option.some.inj hticket]
      exact ⟨rfl, rfl⟩
  | ended hbegins hends =>
      obtain ⟨_, _, _, _, _, hbegin⟩ := hbegins
      obtain ⟨_, begun, _, _, hbegun, _, hname⟩ := get?_of_begin hbegin
      obtain ⟨before, node, hbefore, _, hnode, _, hkept⟩ := hends.stops
      rw [hbegun, Option.some.injEq] at hbefore
      exact ⟨node, _, hnode, by rw [hkept, ← hbefore, hname], fun _ hticket => by simp at hticket⟩

theorem Launches.path {issued : Option Ticket} (h : g.Launches id issued g') (hsound : g.Sound) :
    ∃ changes, Path Orderly g changes g' ∧ changes.filterMap Change.added? = [] ∧
      changes.filterMap Change.begun? = [id] := by
  cases h with
  | waiting _ hbegins _ _ => exact hbegins.path
  | ended hbegins hends =>
      obtain ⟨changes, path, hadded, hbegun⟩ := hbegins.path
      obtain ⟨ending, hpath, hadded', hbegun'⟩ := hends.path (path.sound hsound)
      refine ⟨changes ++ ending, path.append hpath, ?_, ?_⟩
      · rw [List.filterMap_append, hadded, hadded']
        rfl
      · rw [List.filterMap_append, hbegun, hbegun']
        rfl

end Graph

/-! ## Completing a run -/

/-- What the reply of a service to an errand comes to: a failure or none, or a container for which there is no
    room. -/
def Errand.verdict (service : Service) (errand : Errand) : Except Json.Container (Option Failure) :=
  Trouble.verdict service.room errand.purpose (service.trouble? errand.call)

/-- Where a reply cannot be told, there is no room for the trouble of the service. -/
theorem Errand.overruns_of_verdict {service : Service} {errand : Errand} {container : Json.Container}
    (h : errand.verdict service = .error container) :
    ∃ trouble, service.trouble? errand.call = some trouble ∧ trouble.Overruns service.room container := by
  unfold verdict at h
  cases htrouble : service.trouble? errand.call with
  | none => simp [htrouble, Trouble.verdict] at h
  | some trouble =>
      simp only [htrouble, Trouble.verdict] at h
      have hclassified : trouble.classify service.room errand.purpose = .error container := by
        cases hclassified : trouble.classify service.room errand.purpose with
        | ok failure => simp [hclassified, Except.map] at h
        | error found => simpa [hclassified, Except.map] using h
      exact ⟨trouble, rfl, Trouble.classify_eq_error_iff.1 hclassified⟩

namespace Studio

variable {studio : Studio} {ticket : Ticket} {service : Service}

/-- What a ticket's result still belongs to. -/
theorem current?_eq_some_iff {node : Node} :
    studio.current? ticket = some node ↔
      studio.graph.get? ticket.node = some node ∧ node.generation = some ticket.generation ∧
        node.status = .running := by
  unfold Studio.current?
  rw [Option.filter_eq_some_iff, Bool.and_eq_true, beq_iff_eq, beq_iff_eq]

section Received

variable {α : Type} {room : Nat} {purpose : String} {reply : Except Trouble α}

theorem received_of_overrun {container : Json.Container}
    (h : Trouble.verdict room purpose (errorOf? reply) = .error container) :
    received room purpose reply = .error (.overrun container) := by
  cases reply with
  | ok result => simp [errorOf?, Trouble.verdict] at h
  | error trouble =>
      simp only [errorOf?, Trouble.verdict] at h
      cases hclassified : trouble.classify room purpose with
      | ok failure => simp [hclassified, Except.map] at h
      | error found =>
          rw [hclassified] at h
          simp only [received, hclassified, Except.error.inj h]

/-- Where there is room, a reply is received with its result or with the failure that it comes to. -/
theorem received_of_verdict {failure : Option Failure}
    (h : Trouble.verdict room purpose (errorOf? reply) = .ok failure) :
    ∃ settled, received room purpose reply = .ok settled ∧ errorOf? settled = failure := by
  cases reply with
  | ok result => exact ⟨.ok result, rfl, Except.ok.inj h⟩
  | error trouble =>
      simp only [errorOf?, Trouble.verdict] at h
      cases hclassified : trouble.classify room purpose with
      | error found => simp [hclassified, Except.map] at h
      | ok found =>
          rw [hclassified] at h
          exact ⟨.error found, by simp only [received, hclassified], Except.ok.inj h⟩

theorem reply_of_received {result : α} (h : received room purpose reply = .ok (.ok result)) :
    reply = .ok result := by
  cases reply with
  | ok sent => simpa [received] using h
  | error trouble =>
      simp only [received] at h
      split at h <;> simp at h

end Received

theorem complete_of_overrun {container : Json.Container}
    (h : (Errand.run ticket).verdict service = .error container) :
    studio.complete service ticket = .error (.overrun container) := by
  obtain ⟨id, generation, request⟩ := ticket
  unfold Studio.complete
  cases request <;> exact bind_eq_error_iff.2 (Or.inl (received_of_overrun h))

theorem settle_of_stale {α : Type} (reply : Except Failure α) (edits : Node → α → List Edit)
    (h : studio.current? ticket = none) : studio.settle ticket reply edits = .ok (none, studio) := by
  unfold Studio.settle
  rw [h]

theorem complete_of_stale {failure : Option Failure}
    (hverdict : (Errand.run ticket).verdict service = .ok failure) (h : studio.current? ticket = none) :
    studio.complete service ticket = .ok (none, studio) := by
  obtain ⟨id, generation, request⟩ := ticket
  unfold Studio.complete
  cases request <;>
    · obtain ⟨settled, hreceived, _⟩ := received_of_verdict hverdict
      exact bind_eq_ok_iff.2 ⟨settled, hreceived, settle_of_stale settled _ h⟩

theorem settle_of_current {α : Type} {node : Node} (reply : Except Failure α)
    (edits : Node → α → List Edit) (h : studio.current? ticket = some node)
    (hinput : ∀ result, ∀ edit ∈ edits node result, edit.field ≠ .inputRef) :
    ∃ graph, studio.graph.Ends ticket.node graph ∧
      studio.settle ticket reply edits
        = .ok (graph.get? ticket.node, { studio with graph := graph }) := by
  obtain ⟨hnode, _, hrunning⟩ := current?_eq_some_iff.1 h
  cases reply with
  | error failure =>
      obtain ⟨graph, hset, hends⟩ := Graph.exists_ends_failed hnode hrunning failure
      refine ⟨graph, hends, ?_⟩
      simp only [Studio.settle, h, hset]
      rfl
  | ok result =>
      obtain ⟨edited, graph, hedit, hset, hends⟩ :=
        Graph.exists_ends_ready hnode hrunning (hinput result)
      refine ⟨graph, hends, ?_⟩
      simp only [Studio.settle, h]
      exact bind_eq_ok_iff.2 ⟨edited, hedit, bind_eq_ok_iff.2 ⟨graph, hset, rfl⟩⟩

/-- The result of a current run is written to its node. -/
theorem complete_of_current {node : Node} {failure : Option Failure}
    (hverdict : (Errand.run ticket).verdict service = .ok failure) (h : studio.current? ticket = some node) :
    ∃ graph, studio.graph.Ends ticket.node graph ∧
      studio.complete service ticket
        = .ok (graph.get? ticket.node, { studio with graph := graph }) := by
  obtain ⟨id, generation, request⟩ := ticket
  unfold Studio.complete
  cases request with
  | image prompt aspectRatio =>
      obtain ⟨settled, hreceived, _⟩ := received_of_verdict hverdict
      obtain ⟨graph, hends, hsettle⟩ := settle_of_current settled
        (pictureEdits studio.settings.imageMimeType prompt) h fun data edit hedit => by
          simp only [pictureEdits, List.mem_cons, List.not_mem_nil, or_false] at hedit
          rcases hedit with rfl | rfl | rfl <;> exact Field.noConfusion
      exact ⟨graph, hends, bind_eq_ok_iff.2 ⟨settled, hreceived, hsettle⟩⟩
  | describe data mimeType =>
      obtain ⟨settled, hreceived, _⟩ := received_of_verdict hverdict
      obtain ⟨graph, hends, hsettle⟩ := settle_of_current settled
        (fun node description => [.basePrompt (some description), .outputRef node.inputRef]) h
        fun description edit hedit => by
          simp only [List.mem_cons, List.not_mem_nil, or_false] at hedit
          rcases hedit with rfl | rfl <;> exact Field.noConfusion
      exact ⟨graph, hends, bind_eq_ok_iff.2 ⟨settled, hreceived, hsettle⟩⟩
  | podcast prompt =>
      obtain ⟨settled, hreceived, _⟩ := received_of_verdict hverdict
      obtain ⟨graph, hends, hsettle⟩ := settle_of_current settled
        (fun _ script => [.textOutput (some script)]) h fun script edit hedit => by
          rw [List.mem_singleton.1 hedit]
          exact Field.noConfusion
      exact ⟨graph, hends, bind_eq_ok_iff.2 ⟨settled, hreceived, hsettle⟩⟩

/-! ## Beginning a run -/

theorem field_of_mem_parameterEdits {custom aspectRatio : Option String} :
    ∀ edit ∈ parameterEdits custom aspectRatio,
      edit.field = .customText ∨ edit.field = .aspectRatio := by
  intro edit hedit
  unfold parameterEdits at hedit
  rcases List.mem_append.1 hedit with hcustom | hratio
  · cases custom with
    | none => exact absurd hcustom List.not_mem_nil
    | some text => exact Or.inl (congrArg Edit.field (List.mem_singleton.1 hcustom))
  · cases aspectRatio with
    | none => exact absurd hratio List.not_mem_nil
    | some ratio =>
        simp only at hratio
        split at hratio
        · exact absurd hratio List.not_mem_nil
        · exact Or.inr (congrArg Edit.field (List.mem_singleton.1 hratio))

/-- Before a run begins, what is below its node is removed and its parameters are written. -/
theorem begins_of_readied {g ready begun : Graph} (h : g.Sound) {id : NodeId}
    {custom aspectRatio : Option String} (hready : readied g id custom aspectRatio = .ok ready)
    (hbegin : ready.begin id = .ok begun) : g.Begins id begun := by
  have hpruned : ∀ node ∈ (g.invalidate id).2.nodes, node.parent ≠ some id := by
    intro node hnode hparent
    unfold Graph.invalidate at hnode
    rw [h.nodes_remove_of_closed (h.closed_descendants id), List.mem_filter] at hnode
    exact of_decide_eq_true hnode.2 (h.mem_descendants_of_parent hnode.1 hparent (Or.inl rfl))
  -- without parameters nothing is edited
  unfold readied at hready
  simp only at hready
  split at hready
  · have hsame : (g.invalidate id).2 = ready := Except.ok.inj hready
    subst hsame
    exact ⟨_, _, h.invalidate_path id, rfl, hpruned, hbegin⟩
  · refine ⟨_, _, (h.invalidate_path id).append (.single (.edit hready) ⟨rfl, ?_⟩), rfl, ?_, hbegin⟩
    · intro edit hedit node _ _
      rcases field_of_mem_parameterEdits edit hedit with hfield | hfield <;>
        · rw [hfield]
          exact ⟨Field.noConfusion, Field.noConfusion⟩
    · obtain ⟨_, rfl⟩ := Graph.edit_eq_ok_iff.1 hready
      intro node hnode
      rw [Graph.alter_nodes, List.mem_map] at hnode
      obtain ⟨before, hbefore, rfl⟩ := hnode
      unfold Graph.altered
      split
      · simpa using hpruned before hbefore
      · exact hpruned before hbefore

/-- A plan that is carried out leaves a ticket, or ends the run; nothing but the graph changes. -/
theorem carryOut_cases {after : Studio} {id : NodeId} {generation : String} {plan : Plan}
    {issued : Option Ticket} (h : studio.carryOut id generation plan = .ok (issued, after)) :
    after = { studio with graph := after.graph } ∧
      ((∃ request, issued = some ⟨id, generation, request⟩ ∧ after.graph = studio.graph) ∨
        (issued = none ∧ studio.graph.Ends id after.graph)) := by
  cases plan with
  | submit request =>
      rw [carryOut, Except.ok.injEq, Prod.mk.injEq] at h
      obtain ⟨rfl, rfl⟩ := h
      exact ⟨rfl, Or.inl ⟨request, rfl, rfl⟩⟩
  | finishVideo =>
      obtain ⟨edited, hedit, h⟩ := bind_eq_ok_iff.1 h
      obtain ⟨graph, hset, h⟩ := bind_eq_ok_iff.1 h
      rw [Except.ok.injEq, Prod.mk.injEq] at h
      obtain ⟨rfl, rfl⟩ := h
      refine ⟨rfl, Or.inr ⟨rfl, .ready (fun edit hmem => ?_) hedit hset⟩⟩
      rw [List.mem_singleton.1 hmem]
      exact Field.noConfusion
  | refuse message =>
      obtain ⟨graph, hset, h⟩ := bind_eq_ok_iff.1 h
      rw [Except.ok.injEq, Prod.mk.injEq] at h
      obtain ⟨rfl, rfl⟩ := h
      exact ⟨rfl, Or.inr ⟨rfl, .failed _ hset⟩⟩

/-- A run is begun of a live node that is not running: the graph is readied, the node set running, and the
    plan for it carried out. -/
theorem begun_of_begin {after : Studio} {id : NodeId} {custom aspectRatio : Option String}
    {issued : Option Ticket} (h : studio.begin id custom aspectRatio = .ok (issued, after)) :
    ∃ before ready begun node, studio.graph.get? id = some before ∧ before.status ≠ .running ∧
      readied studio.graph id custom aspectRatio = .ok ready ∧ ready.begin id = .ok begun ∧
      begun.get? id = some node ∧
      { studio with graph := begun, registry := (plan studio.registry node custom).2 }.carryOut id
        (node.generation.getD "") (plan studio.registry node custom).1 = .ok (issued, after) := by
  unfold Studio.begin at h
  split at h
  · simp at h
  · next before hbefore =>
      split at h
      · simp at h
      · next hstatus =>
          obtain ⟨ready, hready, h⟩ := bind_eq_ok_iff.1 h
          obtain ⟨begun, hbegin, h⟩ := bind_eq_ok_iff.1 h
          split at h
          · simp at h
          · next node hnode => exact ⟨before, ready, begun, node, hbefore, hstatus, hready, hbegin, hnode, h⟩

theorem launches_of_begin {after : Studio} {id : NodeId} {custom aspectRatio : Option String}
    {issued : Option Ticket} (hsound : studio.graph.Sound)
    (h : studio.begin id custom aspectRatio = .ok (issued, after)) :
    studio.graph.Launches id issued after.graph ∧ after.pending = studio.pending := by
  obtain ⟨_, ready, begun, node, _, _, hready, hbegin, hnode, hcarried⟩ := begun_of_begin h
  have hbegins := begins_of_readied hsound hready hbegin
  obtain ⟨hafter, ⟨request, rfl, hgraph⟩ | ⟨rfl, hends⟩⟩ := carryOut_cases hcarried
  -- the ticket names the generation that the node was found with, which is there
  · refine ⟨?_, by rw [hafter]⟩
    obtain ⟨_, later, _, _, hlater, _, hname⟩ := Graph.get?_of_begin hbegin
    rw [hnode, Option.some.injEq] at hlater
    rw [← hlater] at hname
    rw [hname, hgraph]
    exact .waiting request hbegins hnode hname
  · exact ⟨.ended hbegins hends, by rw [hafter]⟩

end Studio

end PromptCanvas
