import PromptCanvas.Proofs.Studio.Result

set_option autoImplicit false

/-! # Pictures under description

The ticket of a description holds the picture that its node had as input when the run began. While the run
is out the node is busy, so that its input can only be changed by an update. The reply copies the input
that the node has by then to its output. -/

namespace PromptCanvas

namespace Graph

variable {g g' g'' : Graph} {id : NodeId}

/-- If a node lives afterwards, it lived before and had the same input. -/
def SameInput (id : NodeId) (g g' : Graph) : Prop :=
  ∀ node', g'.get? id = some node' → ∃ node, g.get? id = some node ∧ node'.inputRef = node.inputRef

theorem SameInput.refl (id : NodeId) (g : Graph) : SameInput id g g := Retains.refl Node.inputRef id g

theorem SameInput.trans (h : SameInput id g g') (h' : SameInput id g' g'') : SameInput id g g'' :=
  Retains.trans h h'

/-- The node of a description, where it lives, has the picture of the ticket as its input. -/
def Pictured (g : Graph) (ticket : Ticket) : Prop :=
  ∀ node, g.get? ticket.node = some node → ∀ data mimeType, ticket.request = .describe data mimeType →
    DataUrl.decodeRef? node.inputRef = some (data, mimeType)

theorem SameInput.pictured {ticket : Ticket} (h : SameInput ticket.node g g')
    (hpictured : g.Pictured ticket) : g'.Pictured ticket := by
  intro node' hnode' data mimeType hrequest
  obtain ⟨node, hnode, hinput⟩ := h node' hnode'
  rw [hinput]
  exact hpictured node hnode data mimeType hrequest

end Graph

namespace Studio

open PromptCanvas.Graph (SameInput)

variable {studio : Studio} {id : NodeId}

/-! ## What leaves inputs alone -/

/-- An operation that begins no run of a node and does not give it a new input leaves its input alone. -/
theorem sameInput_perform (hsound : studio.graph.Sound)
    (hknown : id ∈ studio.graph.ids ∨ id ∈ studio.graph.retired) {operation : Operation}
    (hbegins : ∀ issued, studio.beginning operation ≠ some (id, issued))
    (hrenews : operation.renewsInput id = false) :
    SameInput id studio.graph (studio.perform operation).1.graph := by
  cases hmanual : operation.isManual with
  | false =>
      refine retains_perform hsound hknown hmanual hbegins (fun htarget edit hreads node => ?_) fun _ _ => rfl
      cases operation with
      | update target updates =>
          obtain rfl : target = id := Option.some.inj htarget
          obtain ⟨value, hvalue, _⟩ := hreads
          have hgiven := Table.has_of_mem updates _ hvalue
          -- an edit of the input would have to be given
          have hfield : edit.field ≠ .inputRef := by
            intro hfield
            rw [hfield] at hgiven
            have hgiven' : updates.has "input_ref" = true := hgiven
            simp [Operation.renewsInput, hgiven'] at hrenews
          exact Node.applyAll_inputRef node [edit] fun other hother => List.mem_singleton.1 hother ▸ hfield
      | add | begin | setStatus | delete | invalidate | run | start | upload | enhance | animation
      | preview => exact hreads.elim
  | true =>
      rcases manual_cases hmanual with ⟨target, rfl⟩ | ⟨target, status, failure, rfl⟩
      · simp only [perform]
        cases hbegin : studio.graph.begin target with
        | error r => exact .refl id _
        | ok graph =>
            refine (Graph.Step.begin hbegin).retains hsound hknown fun he => absurd ?_ (hbegins none)
            subst he
            simp only [beginning, hbegin]
      · simp only [perform]
        cases hset : studio.graph.setStatusNamed target status failure with
        | error r => exact .refl id _
        | ok graph =>
            obtain ⟨_, hlater⟩ := Graph.setStatus_of_named hset
            exact (Graph.Step.setStatus hlater).retains hsound hknown fun _ _ _ => rfl

theorem sameInput_resume (hsound : studio.graph.Sound)
    (hknown : id ∈ studio.graph.ids ∨ id ∈ studio.graph.retired) (service : Service) (seen : List Graph)
    (errand : Errand) : SameInput id studio.graph (studio.resume service seen errand).2.graph := by
  cases htarget : errand.target? with
  | none =>
      exact retains_resume_of_ne hsound hknown (by simp [htarget]) service seen
  | some target =>
      obtain ⟨_, path⟩ := resume_within htarget service seen
      refine path.retains hsound hknown fun g change hfit => ?_
      cases change with
      | draw | add | remove => trivial
      | begin | setStatus => exact fun _ _ => by intros; rfl
      | edit target' edits =>
          intro _ node tick
          refine Node.applyAll_inputRef node edits fun edit hmem hfield => ?_
          exact Errand.field_of_mem_results (hfit.2 edit hmem) (by simp [hfield])

/-! ## Descriptions -/

theorem describe_of_call {request : Request} {data : Bytes} {mimeType : String}
    (h : request.call = .describe data mimeType) : request = .describe data mimeType := by
  cases request with
  | describe =>
      obtain ⟨rfl, rfl⟩ := Call.describe.inj h
      rfl
  | image | podcast => exact Call.noConfusion h

theorem pictured_perform {operation : Operation} {ticket : Ticket}
    (h : studio.beginning operation = some (id, some ticket)) :
    (studio.perform operation).1.graph.Pictured ticket := by
  intro node hnode data mimeType hrequest
  have hcalls := suits_perform h node hnode
  rw [hrequest] at hcalls
  exact hcalls.2

/-- A description that leaves its node ready has copied the input of the node to its output. -/
theorem output_of_described {ticket : Ticket} {node final : Node} {data : Bytes} {mimeType : String}
    (hcurrent : studio.current? ticket = some node) (hrequest : ticket.request = .describe data mimeType)
    (service : Service) (seen : List Graph)
    (hresume : (studio.resume service seen (.run ticket)).1 = .ok (some final))
    (hready : final.status = .ready) :
    final.outputRef = node.inputRef ∧ final.inputRef = node.inputRef := by
  obtain ⟨after, hfinal⟩ := complete_of_resume hresume
  simp only [complete, hrequest] at hfinal
  obtain ⟨_, _, hsettle⟩ := bind_eq_ok_iff.1 hfinal
  obtain ⟨description, tick, _, rfl⟩ := settle_ready hcurrent hsettle hready
  exact ⟨rfl, rfl⟩

end Studio

end PromptCanvas
