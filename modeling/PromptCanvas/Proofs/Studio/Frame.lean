import PromptCanvas.Proofs.Graph.Frame
import PromptCanvas.Proofs.Studio.Operation
import PromptCanvas.Proofs.Studio.Reply

set_option autoImplicit false

/-! # Operations and replies within their nodes

An operation changes the graph within the node that it is addressed to, and the reply to an errand within
the node that its result is for. Beyond that it is said which edits each of them may make. -/

namespace PromptCanvas

/-- The edits that begin a run: its parameters, and the completion of a video. -/
def Edit.IsOfBeginning (edit : Edit) : Prop :=
  edit.field ∈ [.customText, .aspectRatio, .videoComplete]

/-- The edits that attach a picture. -/
def Edit.IsOfPicture (edit : Edit) : Prop := edit.field ∈ [.inputRef, .inputMimeType]

/-- The edits that an operation reads from values that its caller gives. -/
def Operation.Reads : Operation → Edit → Prop
  | .update _ updates, edit =>
      ∃ value, (Writing.whole edit.field.name, value) ∈ updates ∧ Edit.read edit.field value = .ok edit
  | _, _ => False

/-- The edits that an operation may make to its node. -/
def Operation.Allows : Operation → Edit → Prop
  | .update id updates, edit => (Operation.update id updates).Reads edit
  | .run _ _ _, edit => edit.IsOfBeginning
  | .start _ _ _, edit => edit.IsOfBeginning
  | .upload _ _ _, edit => edit.IsOfPicture ∨ edit.IsOfBeginning
  | _, _ => False

/-- The fields that the result of an errand is written to. -/
def Errand.results : Errand → List Field
  | .run ⟨_, _, .image _ _⟩ => [.outputRef, .basePrompt, .enhancedPrompt]
  | .run ⟨_, _, .describe _ _⟩ => [.basePrompt, .outputRef]
  | .run ⟨_, _, .podcast _⟩ => [.textOutput]
  | .boost _ => [.enhancedPrompt]
  | .animation _ _ _ => []

/-- No result is written to an input, a position or metadata. -/
theorem Errand.field_of_mem_results {errand : Errand} {field : Field} (h : field ∈ errand.results) :
    field ∉ [.inputRef, .position, .metadata] := by
  cases errand with
  | run ticket =>
      obtain ⟨_, _, request⟩ := ticket
      cases request <;>
        · simp only [results, List.mem_cons, List.not_mem_nil, or_false] at h
          rcases h with rfl | rfl | rfl <;> decide
  | boost before =>
      rw [List.mem_singleton.1 h]
      decide
  | animation => exact absurd h List.not_mem_nil

namespace Studio

open PromptCanvas.Graph (Path Within)

variable {studio : Studio} {id : NodeId}

/-! ## Runs -/

theorem readied_within {g ready : Graph} (h : g.Sound) {custom aspectRatio : Option String}
    (hready : readied g id custom aspectRatio = .ok ready) :
    ∃ changes, Path (Within id Edit.IsOfBeginning) g changes ready := by
  have hpruned : Path (Within id Edit.IsOfBeginning) g [.remove (g.descendants id)] (g.invalidate id).2 :=
    .single (.remove (h.closed_descendants id)) fun _ hbelow => Or.inr hbelow
  unfold readied at hready
  simp only at hready
  split at hready
  · exact ⟨_, Except.ok.inj hready ▸ hpruned⟩
  · refine ⟨_, hpruned.append (.single (.edit hready) ⟨rfl, fun edit hedit => ?_⟩)⟩
    unfold Edit.IsOfBeginning
    rcases field_of_mem_parameterEdits edit hedit with hfield | hfield <;> simp [hfield]

theorem carryOut_within {after : Studio} {generation : String} {plan : Plan} {issued : Option Ticket}
    (h : studio.carryOut id generation plan = .ok (issued, after)) :
    ∃ changes, Path (Within id Edit.IsOfBeginning) studio.graph changes after.graph := by
  cases plan with
  | submit request =>
      rw [carryOut, Except.ok.injEq, Prod.mk.injEq] at h
      obtain ⟨_, rfl⟩ := h
      exact ⟨[], .nil _⟩
  | finishVideo =>
      obtain ⟨edited, hedit, h⟩ := bind_eq_ok_iff.1 h
      obtain ⟨graph, hset, h⟩ := bind_eq_ok_iff.1 h
      rw [Except.ok.injEq, Prod.mk.injEq] at h
      obtain ⟨_, rfl⟩ := h
      refine ⟨_, .cons (.edit hedit) ⟨rfl, fun edit hmem => ?_⟩ (.single (.setStatus hset) rfl)⟩
      rw [List.mem_singleton.1 hmem]
      simp [Edit.IsOfBeginning, Edit.field]
  | refuse message =>
      obtain ⟨graph, hset, h⟩ := bind_eq_ok_iff.1 h
      rw [Except.ok.injEq, Prod.mk.injEq] at h
      obtain ⟨_, rfl⟩ := h
      exact ⟨_, .single (.setStatus hset) rfl⟩

theorem begin_within (hsound : studio.graph.Sound) {after : Studio} {custom aspectRatio : Option String}
    {issued : Option Ticket} (h : studio.begin id custom aspectRatio = .ok (issued, after)) :
    ∃ changes, Path (Within id Edit.IsOfBeginning) studio.graph changes after.graph := by
  obtain ⟨_, ready, begun, node, _, _, hready, hbegin, _, hcarried⟩ := begun_of_begin h
  obtain ⟨first, readying⟩ := readied_within hsound hready
  obtain ⟨last, carrying⟩ := carryOut_within hcarried
  exact ⟨_, readying.append (.cons (.begin hbegin) rfl carrying)⟩

theorem run_within (hsound : studio.graph.Sound) (id : NodeId) (custom aspectRatio : Option String) :
    ∃ changes, Path (Within id Edit.IsOfBeginning) studio.graph changes
      (studio.run id custom aspectRatio).left.1.graph := by
  cases hbegin : studio.begin id custom aspectRatio with
  | error r =>
      rw [left_run_of_error hbegin]
      exact ⟨[], .nil _⟩
  | ok launched =>
      obtain ⟨issued, after⟩ := launched
      rw [left_run_of_ok hbegin]
      exact begin_within hsound hbegin

/-! ## Settings -/

theorem settings_begin {after : Studio} {custom aspectRatio : Option String} {issued : Option Ticket}
    (h : studio.begin id custom aspectRatio = .ok (issued, after)) : after.settings = studio.settings := by
  obtain ⟨_, _, _, _, _, _, _, _, _, hcarried⟩ := begun_of_begin h
  rw [(carryOut_cases hcarried).1]

theorem settings_run (id : NodeId) (custom aspectRatio : Option String) :
    (studio.run id custom aspectRatio).left.1.settings = studio.settings := by
  cases hbegin : studio.begin id custom aspectRatio with
  | error r => rw [left_run_of_error hbegin]
  | ok launched =>
      obtain ⟨issued, after⟩ := launched
      rw [left_run_of_ok hbegin]
      exact settings_begin hbegin

theorem settings_perform (operation : Operation) :
    (studio.perform operation).1.settings = studio.settings := by
  cases operation with
  | add | delete | invalidate => rfl
  | update target updates =>
      simp only [perform]
      cases studio.graph.update target updates <;> rfl
  | begin target =>
      simp only [perform]
      cases studio.graph.begin target <;> rfl
  | setStatus target status failure =>
      simp only [perform]
      cases studio.graph.setStatusNamed target status failure <;> rfl
  | run target custom aspectRatio => exact settings_run target custom aspectRatio
  | start target custom aspectRatio =>
      cases hbegin : studio.begin target custom aspectRatio with
      | error r => simp only [perform, Studio.start, hbegin]
      | ok launched =>
          obtain ⟨issued, after⟩ := launched
          cases issued <;>
            · simp only [perform, Studio.start, hbegin]
              exact settings_begin hbegin
  | upload target data mimeType =>
      simp only [perform, Studio.upload]
      cases hattach : studio.attach target data mimeType with
      | error r => rfl
      | ok attached =>
          obtain ⟨_, _, _, _, _, _, rfl⟩ := edit_of_attach hattach
          exact settings_run target none none
  | enhance target => simp only [perform, left_enhance target]
  | animation basePrompt instruction frameCount =>
      simp only [perform, left_animation basePrompt instruction frameCount]
  | preview target custom =>
      simp only [perform, Studio.promptOf]
      cases studio.graph.get? target <;> rfl

/-! ## Operations -/

/-- Every operation on a node changes the graph within it. -/
theorem perform_within (hsound : studio.graph.Sound) {operation : Operation}
    (h : operation.target? = some id) :
    ∃ changes, Path (Within id operation.Allows) studio.graph changes
      (studio.perform operation).1.graph := by
  cases operation with
  | add | animation => simp [Operation.target?] at h
  | update target updates =>
      obtain rfl : target = id := Option.some.inj h
      simp only [perform]
      cases hupdate : studio.graph.update target updates with
      | error r => exact ⟨[], .nil _⟩
      | ok graph =>
          obtain ⟨edits, hedits, hedit⟩ := Graph.edit_of_update hupdate
          exact ⟨_, .single (.edit hedit) ⟨rfl, Graph.read_of_mem_updateEdits hedits⟩⟩
  | begin target =>
      obtain rfl : target = id := Option.some.inj h
      simp only [perform]
      cases hbegin : studio.graph.begin target with
      | error r => exact ⟨[], .nil _⟩
      | ok graph => exact ⟨_, .single (.begin hbegin) rfl⟩
  | setStatus target status failure =>
      obtain rfl : target = id := Option.some.inj h
      simp only [perform]
      cases hset : studio.graph.setStatusNamed target status failure with
      | error r => exact ⟨[], .nil _⟩
      | ok graph =>
          obtain ⟨_, hlater⟩ := Graph.setStatus_of_named hset
          exact ⟨_, .single (.setStatus hlater) rfl⟩
  | delete target =>
      obtain rfl : target = id := Option.some.inj h
      simp only [perform, Graph.delete]
      split
      · exact ⟨_, .single (.remove (hsound.closed_subtree target)) fun x hx => List.mem_cons.1 hx⟩
      · exact ⟨[], .nil _⟩
  | invalidate target =>
      obtain rfl : target = id := Option.some.inj h
      exact ⟨_, .single (.remove (hsound.closed_descendants target)) fun _ hx => Or.inr hx⟩
  | run target custom aspectRatio =>
      obtain rfl : target = id := Option.some.inj h
      exact run_within hsound target custom aspectRatio
  | start target custom aspectRatio =>
      obtain rfl : target = id := Option.some.inj h
      cases hbegin : studio.begin target custom aspectRatio with
      | error r =>
          simp only [perform, Studio.start, hbegin]
          exact ⟨[], .nil _⟩
      | ok launched =>
          obtain ⟨issued, after⟩ := launched
          cases issued <;>
            · simp only [perform, Studio.start, hbegin]
              exact begin_within hsound hbegin
  | upload target data mimeType =>
      obtain rfl : target = id := Option.some.inj h
      simp only [perform, Studio.upload]
      cases hattach : studio.attach target data mimeType with
      | error r => exact ⟨[], .nil _⟩
      | ok attached =>
          obtain ⟨_, edited, _, _, _, hedit, rfl⟩ := edit_of_attach hattach
          have hsound' : { studio with graph := edited }.graph.Sound := (Graph.Step.edit hedit).sound hsound
          obtain ⟨changes, running⟩ := run_within hsound' target none none
          refine ⟨_, .cons (.edit hedit) ⟨rfl, fun edit hmem => Or.inl ?_⟩
            (running.mono fun g change hfit => hfit.mono fun edit hedit => Or.inr hedit)⟩
          simp only [List.mem_cons, List.not_mem_nil, or_false] at hmem
          rcases hmem with rfl | rfl <;> simp [Edit.IsOfPicture, Edit.field]
  | enhance target =>
      simp only [perform, left_enhance target]
      exact ⟨[], .nil _⟩
  | preview target custom =>
      simp only [perform, Studio.promptOf]
      cases studio.graph.get? target <;> exact ⟨[], .nil _⟩

/-- Without a node that it is addressed to, an operation adds one or leaves the graph as it is. -/
theorem perform_of_target?_eq_none {operation : Operation} (h : operation.target? = none) :
    (∃ kind parent fields, operation = .add kind parent fields) ∨
      (studio.perform operation).1.graph = studio.graph := by
  cases operation with
  | add kind parent fields => exact Or.inl ⟨kind, parent, fields, rfl⟩
  | animation basePrompt instruction frameCount =>
      refine Or.inr ?_
      simp only [perform, left_animation basePrompt instruction frameCount]
  | update | begin | setStatus | delete | invalidate | run | start | upload | enhance | preview =>
      simp [Operation.target?] at h

/-! ## Replies -/

theorem settle_within {α : Type} {allowed : Edit → Prop} {ticket : Ticket} {reply : Except Failure α}
    {edits : Node → α → List Edit} {brought : Option Node} {after : Studio}
    (h : studio.settle ticket reply edits = .ok (brought, after))
    (hallowed : ∀ node result, ∀ edit ∈ edits node result, allowed edit) :
    ∃ changes, Path (Within ticket.node allowed) studio.graph changes after.graph := by
  unfold Studio.settle at h
  cases hcurrent : studio.current? ticket with
  | none =>
      simp only [hcurrent, Except.ok.injEq, Prod.mk.injEq] at h
      obtain ⟨_, rfl⟩ := h
      exact ⟨[], .nil _⟩
  | some node =>
      simp only [hcurrent] at h
      cases reply with
      | error failure =>
          obtain ⟨graph, hset, h⟩ := bind_eq_ok_iff.1 h
          rw [Except.ok.injEq, Prod.mk.injEq] at h
          obtain ⟨_, rfl⟩ := h
          exact ⟨_, .single (.setStatus hset) rfl⟩
      | ok result =>
          obtain ⟨edited, hedit, h⟩ := bind_eq_ok_iff.1 h
          obtain ⟨graph, hset, h⟩ := bind_eq_ok_iff.1 h
          rw [Except.ok.injEq, Prod.mk.injEq] at h
          obtain ⟨_, rfl⟩ := h
          exact ⟨_, .cons (.edit hedit) ⟨rfl, hallowed node result⟩ (.single (.setStatus hset) rfl)⟩

/-- The reply to an errand changes the graph within the node that its result is for. -/
theorem resume_within {errand : Errand} (h : errand.target? = some id) (service : Service)
    (seen : List Graph) :
    ∃ changes, Path (Within id fun edit => edit.field ∈ errand.results) studio.graph changes
      (studio.resume service seen errand).2.graph := by
  cases errand with
  | animation => simp [Errand.target?] at h
  | boost before =>
      obtain rfl : before.id = id := Option.some.inj h
      rcases studio.resume_boost_cases service seen before with hsame | ⟨text, graph, hedit, heq⟩
      · rw [hsame]
        exact ⟨[], .nil _⟩
      · rw [heq]
        refine ⟨_, .single (.edit hedit) ⟨rfl, fun edit hmem => ?_⟩⟩
        rw [List.mem_singleton.1 hmem]
        exact List.mem_singleton_self _
  | run ticket =>
      obtain rfl : ticket.node = id := Option.some.inj h
      have hresume : studio.resume service seen (.run ticket)
          = studio.outcome (studio.complete service ticket) := rfl
      rw [hresume]
      cases hcomplete : studio.complete service ticket with
      | error r => exact ⟨[], .nil _⟩
      | ok completed =>
          obtain ⟨brought, after⟩ := completed
          obtain ⟨node, generation, request⟩ := ticket
          cases request with
          | image prompt aspectRatio =>
              obtain ⟨reply, _, hsettle⟩ := bind_eq_ok_iff.1 hcomplete
              refine settle_within hsettle fun node data edit hmem => ?_
              simp only [pictureEdits, List.mem_cons, List.not_mem_nil, or_false] at hmem
              rcases hmem with rfl | rfl | rfl <;> simp [Errand.results, Edit.field]
          | describe data mimeType =>
              obtain ⟨reply, _, hsettle⟩ := bind_eq_ok_iff.1 hcomplete
              refine settle_within hsettle fun node description edit hmem => ?_
              simp only [List.mem_cons, List.not_mem_nil, or_false] at hmem
              rcases hmem with rfl | rfl <;> simp [Errand.results, Edit.field]
          | podcast prompt =>
              obtain ⟨reply, _, hsettle⟩ := bind_eq_ok_iff.1 hcomplete
              refine settle_within hsettle fun node script edit hmem => ?_
              rw [List.mem_singleton.1 hmem]
              exact List.mem_singleton_self _

end Studio

end PromptCanvas
