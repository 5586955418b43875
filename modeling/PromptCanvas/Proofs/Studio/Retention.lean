import PromptCanvas.Proofs.Studio.Begin
import PromptCanvas.Proofs.Studio.Frame

set_option autoImplicit false

/-! # What operations retain

An operation that begins no run of a node, and moves it through no execution by hand, retains every view of
the node that the values given by its caller do not touch. Replies to errands for other nodes retain all
views, and a boost those that do not show the enhanced prompt. -/

namespace PromptCanvas.Studio

open PromptCanvas.Graph (Retains)

variable {studio : Studio} {id : NodeId} {β : Type} {view : Node → β}

theorem target?_of_beginning {operation : Operation} {issued : Option Ticket}
    (h : studio.beginning operation = some (id, issued)) : operation.target? = some id := by
  cases operation with
  | add | update | setStatus | delete | invalidate | enhance | animation | preview =>
      simp [beginning] at h
  | begin target =>
      simp only [beginning] at h
      split at h
      · rw [(Prod.mk.inj (Option.some.inj h)).1]
        rfl
      · simp at h
  | run target | start target => rw [(opens_eq_some_iff.1 h).1]; rfl
  | upload target =>
      simp only [beginning] at h
      split at h
      · rw [(opens_eq_some_iff.1 h).1]
        rfl
      · simp at h

theorem exists_begin_of_attach (hsound : studio.graph.Sound) {attached : Studio} {data : Bytes}
    {mimeType : String} (h : studio.attach id data mimeType = .ok attached) :
    ∃ issued after, attached.begin id none none = .ok (issued, after) := by
  obtain ⟨node, edits, hnode, hstatus, hedit, _⟩ := attach_eq_ok hsound h
  obtain ⟨before, picked, hbefore, hpicked, hsame, _⟩ := Graph.get?_of_edit hedit
  obtain rfl : node = before := Option.some.inj (hnode.symm.trans hbefore)
  rw [← hsame] at hstatus
  exact exists_begin ((Graph.Step.edit hedit).sound hsound) hpicked hstatus none none

/-- An operation that begins no run, and moves no node by hand, is quiet within its node, and edits it by
    what it reads from its caller only. -/
theorem perform_still (hsound : studio.graph.Sound) {operation : Operation}
    (htarget : operation.target? = some id) (hindirect : operation.isManual = false)
    (h : studio.beginning operation = none) :
    ∃ changes, Graph.Path
      (fun g change => Graph.Within id operation.Reads g change ∧ change.isQuiet = true)
      studio.graph changes (studio.perform operation).1.graph := by
  cases operation with
  | begin | setStatus => exact Bool.noConfusion hindirect
  | add | animation => simp [Operation.target?] at htarget
  | update target updates =>
      obtain rfl : target = id := Option.some.inj htarget
      simp only [perform]
      cases hupdate : studio.graph.update target updates with
      | error r => exact ⟨[], .nil _⟩
      | ok graph =>
          obtain ⟨edits, hedits, hedit⟩ := Graph.edit_of_update hupdate
          exact ⟨_, .single (.edit hedit) ⟨⟨rfl, Graph.read_of_mem_updateEdits hedits⟩, rfl⟩⟩
  | delete target =>
      obtain rfl : target = id := Option.some.inj htarget
      simp only [perform, Graph.delete]
      split
      · exact ⟨_, .single (.remove (hsound.closed_subtree target)) ⟨fun x hx => List.mem_cons.1 hx, rfl⟩⟩
      · exact ⟨[], .nil _⟩
  | invalidate target =>
      obtain rfl : target = id := Option.some.inj htarget
      exact ⟨_, .single (.remove (hsound.closed_descendants target)) ⟨fun _ hx => Or.inr hx, rfl⟩⟩
  | run target custom aspectRatio =>
      obtain ⟨r, hr⟩ := begin_of_opens_eq_none h
      simp only [perform, left_run_of_error hr]
      exact ⟨[], .nil _⟩
  | start target custom aspectRatio =>
      obtain ⟨r, hr⟩ := begin_of_opens_eq_none h
      simp only [perform, Studio.start, hr]
      exact ⟨[], .nil _⟩
  | upload target data mimeType =>
      simp only [perform, Studio.upload]
      simp only [beginning] at h
      split at h
      · next attached hattach =>
          obtain ⟨issued, after, hbegin⟩ := exists_begin_of_attach hsound hattach
          obtain ⟨r, hr⟩ := begin_of_opens_eq_none h
          simp [hbegin] at hr
      · next r hattach =>
          simp only [hattach]
          exact ⟨[], .nil _⟩
  | enhance target =>
      simp only [perform, left_enhance target]
      exact ⟨[], .nil _⟩
  | preview target custom =>
      simp only [perform, Studio.promptOf]
      cases studio.graph.get? target <;> exact ⟨[], .nil _⟩

/-! ## Views -/

/-- An operation retains the view of a node of which it begins no run, if the edits that it reads from its
    caller do not touch the view. -/
theorem retains_perform (hsound : studio.graph.Sound)
    (hknown : id ∈ studio.graph.ids ∨ id ∈ studio.graph.retired) {operation : Operation}
    (hindirect : operation.isManual = false)
    (hbegins : ∀ issued, studio.beginning operation ≠ some (id, issued))
    (hedit : operation.target? = some id →
      ∀ edit, operation.Reads edit → ∀ node : Node, view (node.apply edit) = view node)
    (hstamp : ∀ (node : Node) (tick : Nat), view { node with tick := tick } = view node) :
    Retains view id studio.graph (studio.perform operation).1.graph := by
  cases htarget : operation.target? with
  | none =>
      rcases perform_of_target?_eq_none htarget with ⟨kind, parent, fields, rfl⟩ | hsame
      · exact Graph.retains_add hknown _ kind parent fields
      · rw [hsame]
        exact .refl view id _
  | some target =>
      by_cases he : target = id
      · subst he
        -- a run that it begins would be one of this node
        cases hbeginning : studio.beginning operation with
        | none =>
            obtain ⟨_, path⟩ := perform_still hsound htarget hindirect hbeginning
            exact path.retains hsound hknown fun g change hfit =>
              Graph.leaves_of_quiet hfit.1 hfit.2 (hedit htarget) hstamp
        | some launched =>
            obtain ⟨node, issued⟩ := launched
            obtain rfl : target = node :=
              Option.some.inj (htarget.symm.trans (target?_of_beginning hbeginning))
            exact absurd hbeginning (hbegins issued)
      · obtain ⟨_, path⟩ := perform_within hsound htarget
        exact path.retains hsound hknown fun g change hfit => Graph.leaves_of_within hfit (Ne.symm he)

/-- The reply to an errand for another node retains all views of a node. -/
theorem retains_resume_of_ne (hsound : studio.graph.Sound)
    (hknown : id ∈ studio.graph.ids ∨ id ∈ studio.graph.retired) {errand : Errand}
    (hne : errand.target? ≠ some id) (service : Service) (seen : List Graph) :
    Retains view id studio.graph (studio.resume service seen errand).2.graph := by
  cases htarget : errand.target? with
  | none =>
      cases errand with
      | animation => exact .refl view id _
      | run | boost => simp [Errand.target?] at htarget
  | some target =>
      have he : id ≠ target := fun he => hne (he ▸ htarget)
      obtain ⟨_, path⟩ := resume_within htarget service seen
      exact path.retains hsound hknown fun g change hfit => Graph.leaves_of_within hfit he

/-- A boost retains the views that do not show the enhanced prompt. -/
theorem retains_boost (before : Node) (service : Service) (seen : List Graph)
    (hedit : ∀ (node : Node) (text : Option String), view { node with enhancedPrompt := text } = view node)
    (hstamp : ∀ (node : Node) (tick : Nat), view { node with tick := tick } = view node) :
    Retains view id studio.graph (studio.resume service seen (.boost before)).2.graph := by
  rcases studio.resume_boost_cases service seen before with hsame | ⟨text, graph, hboost, heq⟩
  · rw [hsame]
    exact .refl view id _
  · rw [heq]
    obtain ⟨_, rfl⟩ := Graph.edit_eq_ok_iff.1 hboost
    refine Graph.retains_alter _ (fun node => node.applyAll_id _) fun _ node tick => ?_
    exact (hstamp _ tick).trans (hedit node text)

end PromptCanvas.Studio
