import PromptCanvas.Proofs.Studio.Run

set_option autoImplicit false

/-! # What replies do to a studio

The reply to a run that is current ends the run; to any other run it changes nothing. Replies to other
errands are quiet. No reply touches the runs that are pending. A reply whose trouble cannot be classified for
want of room changes nothing, whatever the errand: a run that waited for it goes on running. -/

namespace PromptCanvas

theorem Errand.eq_run_of_ticket? {errand : Errand} {ticket : Ticket}
    (h : errand.ticket? = some ticket) : errand = .run ticket := by
  cases errand with
  | run other => rw [Option.some.inj h]
  | boost | animation => simp [ticket?] at h

namespace Studio

variable {studio : Studio} {service : Service}

theorem resume_of_overrun {errand : Errand} {container : Json.Container} (seen : List Graph)
    (h : errand.verdict service = .error container) :
    studio.resume service seen errand = (.error (.overrun container), studio) := by
  cases errand with
  | run ticket => simp only [resume, complete_of_overrun h, outcome]
  | boost before =>
      simp only [resume]
      rw [received_of_overrun h]
      rfl
  | animation basePrompt instruction frameCount =>
      simp only [resume]
      rw [received_of_overrun h]
      rfl

theorem resume_of_stale {ticket : Ticket} {failure : Option Failure} (seen : List Graph)
    (hverdict : (Errand.run ticket).verdict service = .ok failure) (h : studio.current? ticket = none) :
    studio.resume service seen (.run ticket) = (.ok none, studio) := by
  show studio.outcome (studio.complete service ticket) = (.ok none, studio)
  rw [complete_of_stale hverdict h]
  rfl

theorem resume_of_current {ticket : Ticket} {node : Node} {failure : Option Failure} (seen : List Graph)
    (hverdict : (Errand.run ticket).verdict service = .ok failure)
    (h : studio.current? ticket = some node) :
    ∃ graph, studio.graph.Ends ticket.node graph ∧
      studio.resume service seen (.run ticket)
        = (.ok (graph.get? ticket.node), { studio with graph := graph }) := by
  obtain ⟨graph, hends, hcomplete⟩ := complete_of_current hverdict h
  refine ⟨graph, hends, ?_⟩
  show studio.outcome (studio.complete service ticket) = _
  rw [hcomplete]
  rfl

/-- The reply to a run cannot be told for want of room, comes too late, or ends the run. -/
theorem resume_run_cases (studio : Studio) (service : Service) (seen : List Graph) (ticket : Ticket) :
    (∃ container, (Errand.run ticket).verdict service = .error container ∧
        studio.resume service seen (.run ticket) = (.error (.overrun container), studio)) ∨
      (∃ failure, (Errand.run ticket).verdict service = .ok failure ∧ studio.current? ticket = none ∧
        studio.resume service seen (.run ticket) = (.ok none, studio)) ∨
      ∃ failure node graph, (Errand.run ticket).verdict service = .ok failure ∧
        studio.current? ticket = some node ∧ studio.graph.Ends ticket.node graph ∧
        studio.resume service seen (.run ticket)
          = (.ok (graph.get? ticket.node), { studio with graph := graph }) := by
  cases hverdict : (Errand.run ticket).verdict service with
  | error container => exact Or.inl ⟨container, rfl, resume_of_overrun seen hverdict⟩
  | ok failure =>
      cases hcurrent : studio.current? ticket with
      | none => exact Or.inr (Or.inl ⟨failure, rfl, rfl, resume_of_stale seen hverdict hcurrent⟩)
      | some node =>
          obtain ⟨graph, hends, heq⟩ := resume_of_current seen hverdict hcurrent
          exact Or.inr (Or.inr ⟨failure, node, graph, rfl, rfl, hends, heq⟩)

/-- Only the reply to a current run brings a node. -/
theorem exists_current_of_resume {ticket : Ticket} {node : Node} {seen : List Graph}
    (h : (studio.resume service seen (.run ticket)).1 = .ok (some node)) :
    ∃ held, studio.current? ticket = some held := by
  rcases studio.resume_run_cases service seen ticket with ⟨_, _, heq⟩ | ⟨_, _, _, heq⟩ |
    ⟨_, held, _, _, hcurrent, _, _⟩
  · rw [heq] at h
    simp at h
  · rw [heq] at h
    simp at h
  · exact ⟨held, hcurrent⟩

/-- The reply to a boost of a live node edits the node, which is found after the edit. -/
theorem boosted_of_live {before : Node} (h : studio.graph.has before.id = true) (seen : List Graph)
    (text : String) :
    ∃ graph node, studio.graph.edit before.id [.enhancedPrompt (some (Text.trimmed text))] = .ok graph ∧
      graph.get? before.id = some node ∧
      studio.boosted before seen (.ok (.ok text)) = (.ok node, { studio with graph := graph }) := by
  have hedit : studio.graph.edit before.id [.enhancedPrompt (some (Text.trimmed text))]
      = .ok (studio.graph.alter before.id (·.applyAll [.enhancedPrompt (some (Text.trimmed text))])) :=
    Graph.edit_eq_ok_iff.2 ⟨Graph.has_iff_mem_ids.1 h, rfl⟩
  obtain ⟨_, node, _, hnode, _⟩ := Graph.get?_of_edit hedit
  refine ⟨_, node, hedit, hnode, ?_⟩
  simp only [Studio.boosted, h, if_true, hedit, bind, Except.bind, hnode]
  rfl

theorem boosted_of_gone {before : Node} (h : studio.graph.has before.id = false) (seen : List Graph)
    (text : String) :
    studio.boosted before seen (.ok (.ok text)) = (.ok (lastSeen before seen), studio) := by
  simp only [Studio.boosted, h]
  rfl

/-- The reply to a boost edits the enhanced prompt of its node, or changes nothing. -/
theorem boosted_cases (before : Node) (seen : List Graph)
    (reply : Except Rejection (Except Failure String)) :
    (studio.boosted before seen reply).2 = studio ∨
      ∃ text graph, studio.graph.edit before.id [.enhancedPrompt text] = .ok graph ∧
        (studio.boosted before seen reply).2 = { studio with graph := graph } := by
  cases reply with
  | error r => exact Or.inl rfl
  | ok settled =>
      cases settled with
      | error failure => exact Or.inl rfl
      | ok text =>
          cases hlive : studio.graph.has before.id with
          | true =>
              obtain ⟨graph, node, hedit, _, heq⟩ := boosted_of_live hlive seen text
              exact Or.inr ⟨_, graph, hedit, congrArg Prod.snd heq⟩
          | false => exact Or.inl (congrArg Prod.snd (boosted_of_gone hlive seen text))

/-- What the reply to a boost leaves is its graph, edited in one field or not at all. -/
theorem resume_boost_cases (studio : Studio) (service : Service) (seen : List Graph) (before : Node) :
    (studio.resume service seen (.boost before)).2 = studio ∨
      ∃ text graph, studio.graph.edit before.id [.enhancedPrompt text] = .ok graph ∧
        (studio.resume service seen (.boost before)).2 = { studio with graph := graph } :=
  boosted_cases before seen _

theorem resume_quiet (studio : Studio) (service : Service) (seen : List Graph) {errand : Errand}
    (h : errand.ticket? = none) :
    (∃ changes, Graph.Path (fun g change => change.isQuiet = true ∧ g.Orderly change) studio.graph
        changes (studio.resume service seen errand).2.graph ∧
        changes.filterMap Change.added? = []) ∧
      (studio.resume service seen errand).2.pending = studio.pending := by
  cases errand with
  | run ticket => simp [Errand.ticket?] at h
  | animation basePrompt instruction frameCount => exact ⟨⟨[], .nil _, rfl⟩, rfl⟩
  | boost before =>
      rcases studio.resume_boost_cases service seen before with hsame | ⟨text, graph, hedit, heq⟩
      · rw [hsame]
        exact ⟨⟨[], .nil _, rfl⟩, rfl⟩
      · rw [heq]
        refine ⟨⟨[_], .single (.edit hedit) ⟨rfl, fun edit hmem node _ _ => ?_⟩, rfl⟩, rfl⟩
        rw [List.mem_singleton.1 hmem]
        exact ⟨Field.noConfusion, Field.noConfusion⟩

theorem resume_path (hsound : studio.graph.Sound) (service : Service) (seen : List Graph)
    (errand : Errand) :
    ∃ changes, Graph.Path Graph.Orderly studio.graph changes
        (studio.resume service seen errand).2.graph ∧
      changes.filterMap Change.added? = [] ∧ changes.filterMap Change.begun? = [] := by
  cases hticket : errand.ticket? with
  | none =>
      obtain ⟨⟨changes, path, hadded⟩, _⟩ := resume_quiet studio service seen hticket
      exact ⟨changes, path.mono fun _ _ hfit => hfit.2, hadded,
        path.begun_eq_nil fun _ _ hfit => hfit.1⟩
  | some ticket =>
      obtain rfl := Errand.eq_run_of_ticket? hticket
      rcases studio.resume_run_cases service seen ticket with ⟨_, _, heq⟩ | ⟨_, _, _, heq⟩ |
        ⟨_, _, _, _, _, hends, heq⟩
      · rw [heq]
        exact ⟨[], .nil _, rfl, rfl⟩
      · rw [heq]
        exact ⟨[], .nil _, rfl, rfl⟩
      · rw [heq]
        exact hends.path hsound

theorem resume_eq (service : Service) (seen : List Graph) (errand : Errand) :
    (studio.resume service seen errand).2
      = { studio with graph := (studio.resume service seen errand).2.graph } := by
  cases errand with
  | animation => rfl
  | boost before =>
      rcases studio.resume_boost_cases service seen before with hsame | ⟨_, _, _, heq⟩
      · rw [hsame]
      · rw [heq]
  | run ticket =>
      rcases studio.resume_run_cases service seen ticket with ⟨_, _, heq⟩ | ⟨_, _, _, heq⟩ |
        ⟨_, _, _, _, _, _, heq⟩ <;> rw [heq]

theorem pending_resume (service : Service) (seen : List Graph) (errand : Errand) :
    (studio.resume service seen errand).2.pending = studio.pending := by
  rw [resume_eq]

theorem settings_resume (service : Service) (seen : List Graph) (errand : Errand) :
    (studio.resume service seen errand).2.settings = studio.settings := by
  rw [resume_eq]

end Studio

end PromptCanvas
