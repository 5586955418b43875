import PromptCanvas.Proofs.Studio.Begin
import PromptCanvas.Proofs.Studio.Frame

set_option autoImplicit false

/-! # The requests of runs

The ticket of a run makes a request that the kind of its node calls for: a podcast for a podcast node, the
description of its input for an upload, and for all others a picture of a prompt that is not blank. A run
that is begun leaves its node ready only if it is a video, which is complete at once. -/

namespace PromptCanvas

/-- A request is one that a node calls for. -/
def Node.CallsFor (node : Node) : Request → Prop
  | .image prompt _ =>
      node.kind ∉ [.veoVideo, .generatePodcast, .sourceUpload] ∧ Text.blank prompt = false
  | .describe data mimeType =>
      node.kind = .sourceUpload ∧ DataUrl.decodeRef? node.inputRef = some (data, mimeType)
  | .podcast _ => node.kind = .generatePodcast

/-- What a node's calls depend on. -/
def Node.task (node : Node) : NodeKind × Option String := (node.kind, node.inputRef)

theorem Node.callsFor_congr {node node' : Node} (h : node'.task = node.task) {request : Request}
    (hcalls : node.CallsFor request) : node'.CallsFor request := by
  obtain ⟨hkind, hinput⟩ := Prod.mk.inj h
  cases request <;> simpa only [CallsFor, hkind, hinput] using hcalls

namespace Graph

/-- A ticket suits a graph: its node, if it lives, calls for its request. -/
def Suits (g : Graph) (ticket : Ticket) : Prop :=
  ∀ node, g.get? ticket.node = some node → node.CallsFor ticket.request

theorem Retains.suits {g g' : Graph} {ticket : Ticket} (h : Retains Node.task ticket.node g g')
    (hsuits : g.Suits ticket) : g'.Suits ticket := by
  intro node' hnode'
  obtain ⟨node, hnode, htask⟩ := h node' hnode'
  exact Node.callsFor_congr htask (hsuits node hnode)

end Graph

namespace Studio

variable {studio : Studio} {id : NodeId}

/-! ## Plans -/

theorem callsFor_of_plan {registry : Registry} {node : Node} {custom : Option String} {request : Request}
    (h : (plan registry node custom).1 = .submit request) : node.CallsFor request := by
  unfold plan at h
  split at h
  · simp at h
  · next hkind =>
      simp only at h
      split at h
      · simp at h
      · obtain rfl := Plan.submit.inj h
        exact hkind
  · next hkind =>
      split at h
      · next data mimeType hinput =>
          obtain rfl := Plan.submit.inj h
          exact ⟨hkind, hinput⟩
      · simp at h
  · next hvideo hpodcast hupload =>
      simp only at h
      split at h
      · simp at h
      · next hblank =>
          obtain rfl := Plan.submit.inj h
          refine ⟨?_, Bool.eq_false_iff.2 hblank⟩
          simp only [List.mem_cons, List.not_mem_nil, or_false, not_or]
          exact ⟨hvideo, hpodcast, hupload⟩

theorem kind_of_plan {registry : Registry} {node : Node} {custom : Option String}
    (h : (plan registry node custom).1 = .finishVideo) : node.kind = .veoVideo := by
  unfold plan at h
  split at h
  · next hkind => exact hkind
  · simp only at h
    split at h <;> simp at h
  · split at h <;> simp at h
  · simp only at h
    split at h <;> simp at h

/-! ## Runs that are begun -/

theorem submitted_of_carryOut {generation : String} {plan : Plan} {ticket : Ticket} {after : Studio}
    (h : studio.carryOut id generation plan = .ok (some ticket, after)) :
    after = studio ∧ ticket.node = id ∧ plan = .submit ticket.request := by
  cases plan with
  | submit request =>
      rw [carryOut, Except.ok.injEq, Prod.mk.injEq, Option.some.injEq] at h
      obtain ⟨rfl, rfl⟩ := h
      exact ⟨rfl, rfl, rfl⟩
  | finishVideo =>
      obtain ⟨_, _, h⟩ := bind_eq_ok_iff.1 h
      obtain ⟨_, _, h⟩ := bind_eq_ok_iff.1 h
      simp at h
  | refuse message =>
      obtain ⟨_, _, h⟩ := bind_eq_ok_iff.1 h
      simp at h

theorem suits_of_begin {custom aspectRatio : Option String} {ticket : Ticket} {after : Studio}
    (h : studio.begin id custom aspectRatio = .ok (some ticket, after)) : after.graph.Suits ticket := by
  obtain ⟨_, _, begun, node, _, _, _, _, hnode, hcarried⟩ := begun_of_begin h
  obtain ⟨rfl, rfl, hplan⟩ := submitted_of_carryOut hcarried
  intro found hfound
  obtain rfl : node = found := Option.some.inj (hnode.symm.trans hfound)
  exact callsFor_of_plan hplan

/-- A node that is ready once a run of it was begun is a video, and complete. -/
theorem complete_of_begin {custom aspectRatio : Option String} {issued : Option Ticket} {after : Studio}
    (h : studio.begin id custom aspectRatio = .ok (issued, after)) {node : Node}
    (hnode : after.graph.get? id = some node) (hready : node.status = .ready) :
    node.kind = .veoVideo ∧ node.videoComplete = true := by
  obtain ⟨_, _, begun, running, _, _, _, hbegin, hrunning, hcarried⟩ := begun_of_begin h
  obtain ⟨_, begunNode, _, _, hbegun, hstatus, _⟩ := Graph.get?_of_begin hbegin
  obtain rfl : running = begunNode := Option.some.inj (hrunning.symm.trans hbegun)
  generalize hplan : (plan studio.registry running custom).1 = planned at hcarried
  cases planned with
  | submit request =>
      rw [carryOut, Except.ok.injEq, Prod.mk.injEq] at hcarried
      obtain ⟨_, rfl⟩ := hcarried
      obtain rfl : running = node := Option.some.inj (hrunning.symm.trans hnode)
      rw [hready] at hstatus
      exact Status.noConfusion hstatus
  | refuse message =>
      obtain ⟨graph, hset, hafter⟩ := bind_eq_ok_iff.1 hcarried
      rw [Except.ok.injEq, Prod.mk.injEq] at hafter
      obtain ⟨_, rfl⟩ := hafter
      obtain ⟨_, failed, _, _, hfailed, hended, _⟩ := Graph.get?_of_setStatus hset
      obtain rfl : failed = node := Option.some.inj (hfailed.symm.trans hnode)
      rw [hready] at hended
      exact Status.noConfusion hended
  | finishVideo =>
      obtain ⟨edited, hedit, hafter⟩ := bind_eq_ok_iff.1 hcarried
      obtain ⟨graph, hset, hafter⟩ := bind_eq_ok_iff.1 hafter
      rw [Except.ok.injEq, Prod.mk.injEq] at hafter
      obtain ⟨_, rfl⟩ := hafter
      obtain ⟨_, rfl⟩ := Graph.edit_eq_ok_iff.1 hedit
      obtain ⟨_, _, _, rfl⟩ := Graph.setStatus_eq_ok_iff.1 hset
      have hedited := Graph.get?_alter_self (·.applyAll [.videoComplete true])
        (fun n => n.applyAll_id _) hrunning
      have hended := Graph.get?_alter_self (Node.moved .ready none) (fun _ => rfl) hedited
      obtain rfl := Option.some.inj (hended.symm.trans hnode)
      exact ⟨kind_of_plan hplan, rfl⟩

/-! ## Operations that begin runs -/

/-- An operation that begins a run, not by hand, leaves the graph as `begin` does. -/
theorem begun_of_beginning {operation : Operation} (hindirect : operation.isManual = false)
    {issued : Option Ticket} (h : studio.beginning operation = some (id, issued)) :
    ∃ (ready : Studio) (custom aspectRatio : Option String) (after : Studio),
      ready.begin id custom aspectRatio = .ok (issued, after) ∧
        (studio.perform operation).1.graph = after.graph := by
  cases operation with
  | begin | setStatus => exact Bool.noConfusion hindirect
  | add | update | delete | invalidate | enhance | animation | preview => simp [beginning] at h
  | run target custom aspectRatio =>
      obtain ⟨rfl, after, hbegin⟩ := opens_eq_some_iff.1 h
      exact ⟨studio, custom, aspectRatio, after, hbegin, by simp only [perform, left_run_of_ok hbegin]⟩
  | start target custom aspectRatio =>
      obtain ⟨rfl, after, hbegin⟩ := opens_eq_some_iff.1 h
      refine ⟨studio, custom, aspectRatio, after, hbegin, ?_⟩
      cases issued <;> simp only [perform, Studio.start, hbegin]
  | upload target data mimeType =>
      simp only [beginning] at h
      split at h
      · next attached hattach =>
          obtain ⟨rfl, after, hbegin⟩ := opens_eq_some_iff.1 h
          refine ⟨attached, none, none, after, hbegin, ?_⟩
          simp only [perform, Studio.upload, hattach, left_run_of_ok hbegin]
      · simp at h

/-- The ticket of the run that an operation begins suits the graph. -/
theorem suits_perform {operation : Operation} {ticket : Ticket}
    (h : studio.beginning operation = some (id, some ticket)) :
    (studio.perform operation).1.graph.Suits ticket := by
  cases hmanual : operation.isManual with
  | false =>
      obtain ⟨_, _, _, after, hbegin, hgraph⟩ := begun_of_beginning hmanual h
      rw [hgraph]
      exact suits_of_begin hbegin
  | true =>
      rcases manual_cases hmanual with ⟨target, rfl⟩ | ⟨target, status, failure, rfl⟩
      · simp only [beginning] at h
        split at h <;> simp at h
      · simp [beginning] at h

end Studio

end PromptCanvas
