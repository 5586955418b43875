import PromptCanvas.Proofs.Graph.Untimed
import PromptCanvas.Proofs.Studio.Frame

set_option autoImplicit false

/-! # Deeds on different nodes

A deed reads the settings, its node, and the ids below the node. In two studios that agree on these it brings
the same and has the same effect, times apart (`enact_concurs`). Another deed, on a node that is neither above
nor below, leaves all of them as they are (`enact_agreeAt`). So each of two such deeds has the effect that it
has without the other one, and the effects commute (`enact_comm`). -/

namespace PromptCanvas.Studio

open PromptCanvas.Graph (Path Within Effect)

variable {studio studio' after : Studio} {id other : NodeId} {deed : Deed}

/-! ## What deeds bring, and their effects -/

/-- Studios with the same settings in which a node is the same, times apart, with the same below it. -/
structure AgreeAt (id : NodeId) (studio studio' : Studio) : Prop where
  settings : studio'.settings = studio.settings
  node : Graph.AgreeAt id studio.graph studio'.graph
  below : (studio'.graph.descendants id).Perm (studio.graph.descendants id)

/-- Times apart, a studio comes from another by an effect on a node. -/
structure Undergoes (id : NodeId) (effect : Effect) (studio after : Studio) : Prop where
  fits : effect.Fits studio.graph.untimed
  after : after.untimed = { studio.untimed with graph := studio.graph.untimed.affect id effect }

/-- What happens to a node in two studios comes to the same: it brings the same and has the same effect. -/
structure Concurs (id : NodeId) (studio studio' : Studio) (result result' : Outcome × Studio) : Prop where
  alike : result.1.Alike result'.1
  effect : ∃ effect, Undergoes id effect studio result.2 ∧ Undergoes id effect studio' result'.2

theorem undergoes_of_turns {change : Node → Node} {graph : Graph}
    (turns : Graph.Turns id change studio.graph graph) :
    Undergoes id (.touch change) studio { studio with graph := graph } where
  fits := turns.unlinking
  after := congrArg (fun graph => { studio.untimed with graph := graph }) turns.after

theorem concurs_unchanged {outcome outcome' : Outcome} (h : outcome.Alike outcome') :
    Concurs id studio studio' (outcome, studio) (outcome', studio') where
  alike := h
  effect := ⟨_, undergoes_of_turns (.refl id studio.graph), undergoes_of_turns (.refl id studio'.graph)⟩

theorem concurs_changed (h : Graph.AgreeAt id studio.graph studio'.graph)
    {result result' : Except Rejection Graph}
    (hresult : Graph.Concurs id studio.graph studio'.graph result result') :
    Concurs id studio studio' (studio.changed id result) (studio'.changed id result') := by
  cases hresult with
  | refused r => exact concurs_unchanged rfl
  | turned turns turns' =>
      exact ⟨(h.turned turns turns').symm, _, undergoes_of_turns turns, undergoes_of_turns turns'⟩

theorem concurs_removed (hsound' : studio'.graph.Sound) (hkeyed' : studio'.graph.Keyed)
    {doomed doomed' : List NodeId} (hperm : doomed'.Perm doomed) (hclosed : studio.graph.Closed doomed)
    (hclosed' : studio'.graph.Closed doomed') :
    Concurs id studio studio' (.removed doomed, { studio with graph := studio.graph.remove doomed })
      (.removed doomed', { studio' with graph := studio'.graph.remove doomed' }) where
  alike := hperm.symm
  effect := by
    have hundergoes : ∀ {studio : Studio}, studio.graph.Closed doomed →
        Undergoes id (.remove doomed) studio { studio with graph := studio.graph.remove doomed } :=
      fun {studio} hclosed => ⟨hclosed.untimed,
        congrArg (fun graph => { studio.untimed with graph := graph }) (Graph.untimed_remove _ doomed)⟩
    -- the order in which ids are removed makes no difference
    rw [hsound'.remove_perm hkeyed' hperm]
    refine ⟨_, hundergoes hclosed, hundergoes fun node hnode parent hdoomed hparent => ?_⟩
    exact hperm.mem_iff.1 (hclosed' node hnode parent (hperm.mem_iff.2 hdoomed) hparent)

/-! ## Replies -/

theorem current?_cases {ticket : Ticket} (h : Graph.AgreeAt ticket.node studio.graph studio'.graph) :
    (studio.current? ticket = none ∧ studio'.current? ticket = none) ∨
      ∃ node node', studio.current? ticket = some node ∧ studio'.current? ticket = some node' ∧
        node'.untimed = node.untimed := by
  unfold Studio.current?
  rcases h.cases with ⟨hnone, hnone'⟩ | ⟨node, node', hnode, hnode', huntimed⟩
  · rw [hnone, hnone']
    exact Or.inl ⟨rfl, rfl⟩
  · have hgeneration := Node.congr_untimed Node.generation (fun _ => rfl) huntimed
    have hstatus := Node.congr_untimed Node.status (fun _ => rfl) huntimed
    rw [hnode, hnode', Option.filter_some, Option.filter_some, hgeneration, hstatus]
    split
    · exact Or.inr ⟨node, node', rfl, rfl, huntimed⟩
    · exact Or.inl ⟨rfl, rfl⟩

/-- What a completed run brings, and the studio after it. -/
def completed (studio : Studio) (result : Except Rejection (Option Node × Studio)) : Outcome × Studio :=
  (.ofReply (studio.outcome result).1, (studio.outcome result).2)

theorem completed_bind (studio : Studio) (id : NodeId) (result : Except Rejection Graph) :
    studio.completed (result >>= fun graph => .ok (graph.get? id, { studio with graph := graph }))
      = studio.changed id result := by
  cases result <;> rfl

/-- A run is completed to the same, if what it writes does not depend on times. -/
theorem concurs_settle {α : Type} {ticket : Ticket} {edits : Node → α → List Edit}
    (h : Graph.AgreeAt ticket.node studio.graph studio'.graph) (reply : Except Failure α)
    (hedits : ∀ node node' result, node'.untimed = node.untimed → edits node' result = edits node result) :
    Concurs ticket.node studio studio' (studio.completed (studio.settle ticket reply edits))
      (studio'.completed (studio'.settle ticket reply edits)) := by
  unfold Studio.settle
  rcases current?_cases h with ⟨hnone, hnone'⟩ | ⟨node, node', hnode, hnode', huntimed⟩
  · rw [hnone, hnone']
    exact concurs_unchanged rfl
  · simp only [hnode, hnode']
    cases reply with
    | error failure =>
        rw [completed_bind, completed_bind]
        exact concurs_changed h (Graph.concurs_setStatus h _ _)
    | ok result =>
        simp only [hedits node node' result huntimed]
        rw [← bind_assoc, ← bind_assoc, completed_bind, completed_bind]
        exact concurs_changed h
          (.bind h (Graph.concurs_edit h _) fun _ _ hagree => Graph.concurs_setStatus hagree _ _)

/-- A reply that is not received leaves both studios as they are. -/
theorem concurs_received {α : Type} {id : NodeId} (reply : Except Rejection (Except Failure α))
    {f f' : Except Failure α → Except Rejection (Option Node × Studio)}
    (h : ∀ settled, Concurs id studio studio' (studio.completed (f settled)) (studio'.completed (f' settled))) :
    Concurs id studio studio' (studio.completed (reply >>= f)) (studio'.completed (reply >>= f')) := by
  cases reply with
  | error r => exact concurs_unchanged rfl
  | ok settled => exact h settled

theorem concurs_complete {ticket : Ticket} (h : AgreeAt ticket.node studio studio') (service : Service) :
    Concurs ticket.node studio studio' (studio.completed (studio.complete service ticket))
      (studio'.completed (studio'.complete service ticket)) := by
  unfold Studio.complete
  cases ticket.request with
  | image prompt aspectRatio =>
      simp only [h.settings]
      refine concurs_received _ fun reply => concurs_settle h.node reply fun node node' data huntimed => ?_
      unfold pictureEdits
      rw [Node.congr_untimed Node.kind (fun _ => rfl) huntimed]
  | describe data mimeType =>
      refine concurs_received _ fun reply => concurs_settle h.node reply fun node node' description huntimed => ?_
      rw [Node.congr_untimed Node.inputRef (fun _ => rfl) huntimed]
  | podcast prompt => exact concurs_received _ fun reply => concurs_settle h.node reply fun _ _ _ _ => rfl

theorem concurs_boosted {before : Node} (h : Graph.AgreeAt before.id studio.graph studio'.graph)
    (seen : List Graph) (reply : Except Rejection (Except Failure String)) :
    Concurs before.id studio studio'
      (.ofReply ((studio.boosted before seen reply).1.map some), (studio.boosted before seen reply).2)
      (.ofReply ((studio'.boosted before seen reply).1.map some), (studio'.boosted before seen reply).2) := by
  match reply with
  | .error r => exact concurs_unchanged rfl
  | .ok (.error failure) => exact concurs_unchanged rfl
  | .ok (.ok text) =>
      have hlives := h.has
      cases hlive : studio.graph.has before.id with
      | true =>
          rw [hlive] at hlives
          have hchanged : ∀ {studio : Studio}, studio.graph.has before.id = true →
              (Outcome.ofReply ((studio.boosted before seen (.ok (.ok text))).1.map some),
                (studio.boosted before seen (.ok (.ok text))).2)
                = studio.changed before.id
                    (studio.graph.edit before.id [.enhancedPrompt (some (Text.trimmed text))]) := by
            intro studio hlive
            obtain ⟨graph, node, hedit, hnode, heq⟩ := boosted_of_live hlive seen text
            rw [heq, hedit]
            simp only [changed, hnode]
            rfl
          rw [hchanged hlive, hchanged hlives]
          exact concurs_changed h (Graph.concurs_edit h _)
      | false =>
          rw [hlive] at hlives
          rw [boosted_of_gone hlive, boosted_of_gone hlives]
          exact concurs_unchanged rfl

/-! ## Deeds -/

/-- In studios that agree on its node, a deed comes to the same. -/
theorem enact_concurs (hsound : studio.graph.Sound) (hsound' : studio'.graph.Sound)
    (hkeyed' : studio'.graph.Keyed) (h : AgreeAt deed.target studio studio') :
    Concurs deed.target studio studio' (studio.enact deed) (studio'.enact deed) := by
  cases deed with
  | update id updates => exact concurs_changed h.node (Graph.concurs_update h.node updates)
  | setStatus id status failure =>
      exact concurs_changed h.node (Graph.concurs_setStatusNamed h.node status failure)
  | delete id =>
      have hlives := h.node.has
      simp only [enact, Graph.delete]
      rw [show studio'.graph.has id = studio.graph.has id from hlives]
      split
      · exact concurs_removed hsound' hkeyed' (h.below.cons id) (hsound.closed_subtree id)
          (hsound'.closed_subtree id)
      · exact concurs_unchanged (List.Perm.refl [])
  | invalidate id =>
      exact concurs_removed hsound' hkeyed' h.below (hsound.closed_descendants id)
        (hsound'.closed_descendants id)
  | complete ticket service => exact concurs_complete h service
  | boost before service seen => exact concurs_boosted h.node seen _

/-- A deed is an operation on its node, or the reply to an errand for it. -/
theorem enact_cases (studio : Studio) (deed : Deed) :
    (∃ operation : Operation, operation.target? = some deed.target ∧
        (studio.enact deed).2 = (studio.perform operation).1) ∨
      ∃ service seen errand, errand.target? = some deed.target ∧
        (studio.enact deed).2 = (studio.resume service seen errand).2 := by
  have hchanged : ∀ id result, (studio.changed id result).2 = studio.accept result := by
    intro id result
    cases result <;> rfl
  cases deed with
  | update id updates => exact Or.inl ⟨.update id updates, rfl, hchanged id _⟩
  | setStatus id status failure => exact Or.inl ⟨.setStatus id status failure, rfl, hchanged id _⟩
  | delete id => exact Or.inl ⟨.delete id, rfl, rfl⟩
  | invalidate id => exact Or.inl ⟨.invalidate id, rfl, rfl⟩
  | complete ticket service => exact Or.inr ⟨service, [], .run ticket, rfl, rfl⟩
  | boost before service seen => exact Or.inr ⟨service, seen, .boost before, rfl, rfl⟩

theorem settings_enact (studio : Studio) (deed : Deed) : (studio.enact deed).2.settings = studio.settings := by
  rcases enact_cases studio deed with ⟨operation, _, heq⟩ | ⟨service, seen, errand, _, heq⟩
  · rw [heq, settings_perform]
  · rw [heq, settings_resume]

theorem enact_within (hsound : studio.graph.Sound) (deed : Deed) :
    ∃ changes, Path (Within deed.target fun _ => True) studio.graph changes (studio.enact deed).2.graph := by
  rcases enact_cases studio deed with ⟨operation, htarget, heq⟩ | ⟨service, seen, errand, htarget, heq⟩
  · obtain ⟨changes, path⟩ := perform_within hsound htarget
    rw [heq]
    exact ⟨changes, path.mono fun _ _ hfit => hfit.mono fun _ _ => trivial⟩
  · obtain ⟨changes, path⟩ : ∃ changes, Path (Within deed.target fun edit => edit.field ∈ errand.results)
        studio.graph changes (studio.resume service seen errand).2.graph := resume_within htarget service seen
    rw [heq]
    exact ⟨changes, path.mono fun _ _ hfit => hfit.mono fun _ _ => trivial⟩

/-- A deed leaves what another one reads as it is, if the nodes of both are apart. -/
theorem enact_agreeAt (hsound : studio.graph.Sound) (hne : other ≠ deed.target)
    (hout : other ∉ studio.graph.descendants deed.target)
    (hout' : deed.target ∉ studio.graph.descendants other) : AgreeAt other studio (studio.enact deed).2 := by
  obtain ⟨_, path⟩ := enact_within hsound deed
  exact {
    settings := settings_enact studio deed
    node := congrArg (Option.map Node.untimed) (path.outside hsound hne hout)
    below := (path.spares hsound).descendants_perm hsound (path.sound hsound) hne hout hout' }

/-- A graph in which the node is missing makes no difference to how the node was seen last. -/
theorem lastSeen_append {graph : Graph} {before : Node} (h : graph.get? before.id = none)
    (seen : List Graph) : lastSeen before (seen ++ [graph]) = lastSeen before seen := by
  induction seen generalizing before with
  | nil => simp only [List.nil_append, lastSeen, h]
  | cons first rest ih =>
      simp only [List.cons_append, lastSeen]
      cases hfirst : first.get? before.id with
      | none => rfl
      | some later => exact ih ((Graph.id_of_get? hfirst).symm ▸ h)

theorem boosted_seeing (studio : Studio) (before : Node) (seen : List Graph)
    (reply : Except Rejection (Except Failure String)) :
    studio.boosted before (seen ++ [studio.graph]) reply = studio.boosted before seen reply := by
  match reply with
  | .error r => rfl
  | .ok (.error failure) => rfl
  | .ok (.ok text) =>
      cases hlive : studio.graph.has before.id with
      | true => simp only [Studio.boosted, hlive, if_true]
      | false =>
          have hnone := Graph.get?_eq_none_iff.2 (Graph.has_eq_false_iff.1 hlive)
          rw [boosted_of_gone hlive, boosted_of_gone hlive, lastSeen_append hnone]

/-- It makes no difference to a deed whether the graph that it finds was seen before. -/
theorem enact_seeing (studio : Studio) (deed : Deed) :
    studio.enact (deed.seeing studio.graph) = studio.enact deed := by
  cases deed with
  | update | setStatus | delete | invalidate | complete => rfl
  | boost before service seen =>
      show (Outcome.ofReply ((studio.boosted before (seen ++ [studio.graph]) _).1.map some),
        (studio.boosted before (seen ++ [studio.graph]) _).2) = _
      rw [boosted_seeing]
      rfl

/-- Two deeds on nodes that are apart commute: in either order each of them brings the same, and the studio
    is the same in the end, times apart. -/
theorem enact_comm (hsound : studio.graph.Sound) (hkeyed : studio.graph.Keyed) {first second : Deed}
    (hne : second.target ≠ first.target) (hout : second.target ∉ studio.graph.descendants first.target)
    (hout' : first.target ∉ studio.graph.descendants second.target) :
    let one := studio.enact first
    let other := studio.enact second
    let oneOther := one.2.enact (second.seeing one.2.graph)
    let otherOne := other.2.enact (first.seeing other.2.graph)
    one.1.Alike otherOne.1 ∧ other.1.Alike oneOther.1 ∧ oneOther.2.untimed = otherOne.2.untimed := by
  intro one other oneOther otherOne
  obtain ⟨_, path⟩ := enact_within hsound first
  obtain ⟨_, path'⟩ := enact_within hsound second
  have hfirst := enact_concurs hsound (path'.sound hsound) (path'.keyed hkeyed)
    (enact_agreeAt hsound hne.symm hout' hout)
  have hsecond := enact_concurs hsound (path.sound hsound) (path.keyed hkeyed)
    (enact_agreeAt hsound hne hout hout')
  obtain ⟨effect, hone, hotherOne⟩ := hfirst.effect
  obtain ⟨effect', hother, honeOther⟩ := hsecond.effect
  have hseeing : oneOther = one.2.enact second := enact_seeing one.2 second
  have hseeing' : otherOne = other.2.enact first := enact_seeing other.2 first
  have hgraph : one.2.graph.untimed = studio.graph.untimed.affect first.target effect :=
    congrArg Studio.graph hone.after
  have hgraph' : other.2.graph.untimed = studio.graph.untimed.affect second.target effect' :=
    congrArg Studio.graph hother.after
  have hcomm := hsound.untimed.affect_comm hkeyed hne hone.fits hother.fits
  rw [hseeing, hseeing']
  refine ⟨hfirst.alike, hsecond.alike, ?_⟩
  calc (one.2.enact second).2.untimed
      = { one.2.untimed with graph := one.2.graph.untimed.affect second.target effect' } := honeOther.after
    _ = { studio.untimed with
          graph := (studio.graph.untimed.affect first.target effect).affect second.target effect' } := by
        rw [hgraph, hone.after]
    _ = { studio.untimed with
          graph := (studio.graph.untimed.affect second.target effect').affect first.target effect } := by
        rw [hcomm]
    _ = { other.2.untimed with graph := other.2.graph.untimed.affect first.target effect } := by
        rw [hgraph', hother.after]
    _ = (other.2.enact first).2.untimed := hotherOne.after.symm

end PromptCanvas.Studio
