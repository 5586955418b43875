import Mathlib.Data.List.Chain
import PromptCanvas.Proofs.Graph.Step

set_option autoImplicit false

/-! # The execution of nodes

A node is idle when it is added, and every change of a graph leaves the status of a node as it is or moves
it to one that may follow. Along a trail of graphs, one change after the other, the statuses of a node are
thus a walk through its execution. A failure is told of failed nodes only. -/

namespace PromptCanvas

/-- The statuses of a node from its beginning, each of them that before or one that may follow it. -/
structure Status.Walk (statuses : List Status) : Prop where
  first : ∀ status ∈ statuses.head?, status = .idle
  next : statuses.IsChain fun status later => later = status ∨ later ∈ status.next

namespace Graph

variable {g g' : Graph} {change : Change} {id : NodeId}

/-! ## One change -/

/-- A change moves a node along its execution, if at all. -/
theorem Step.status (step : Step g change g') (h : g.Sound) {node node' : Node}
    (hnode : g.get? id = some node) (hnode' : g'.get? id = some node') :
    node'.status = node.status ∨ node'.status ∈ node.status.next := by
  have hother : ∀ {target : NodeId}, SameBut target g g' → id ≠ target →
      node'.status = node.status := by
    intro target hsame hne
    rw [hsame.get? id hne, hnode, Option.some.injEq] at hnode'
    rw [hnode']
  cases step with
  | draw draws => exact Or.inl (congrArg Node.status (Option.some.inj (hnode'.symm.trans hnode)))
  | @add added hunused =>
      have hne : added.id ≠ id := fun he => (unused_iff.1 hunused).1 (he ▸ mem_ids_of_get? hnode)
      rw [get?_attach_of_ne hne, hnode, Option.some.injEq] at hnode'
      exact Or.inl (by rw [hnode'])
  | @edit _ target _ hedit =>
      by_cases he : id = target
      · subst he
        obtain ⟨before, after, hbefore, hafter, hsame, _⟩ := get?_of_edit hedit
        rw [hnode, Option.some.injEq] at hbefore
        rw [hnode', Option.some.injEq] at hafter
        exact Or.inl (by rw [hafter, hbefore, hsame])
      · exact Or.inl (hother (sameBut_of_edit hedit) he)
  | @begin _ target hbegin =>
      by_cases he : id = target
      · subst he
        obtain ⟨before, after, hbefore, hstatus, hafter, hrunning, _⟩ := get?_of_begin hbegin
        rw [hnode, Option.some.injEq] at hbefore
        rw [hnode', Option.some.injEq] at hafter
        rw [hafter, hbefore, hrunning]
        exact Or.inr ((Status.running_mem_next_iff _).2 hstatus)
      · exact Or.inl (hother (sameBut_of_begin hbegin) he)
  | @setStatus _ target _ _ hset =>
      by_cases he : id = target
      · subst he
        obtain ⟨before, after, hbefore, hnext, hafter, hstatus, _⟩ := get?_of_setStatus hset
        rw [hnode, Option.some.injEq] at hbefore
        rw [hnode', Option.some.injEq] at hafter
        rw [hafter, hbefore, hstatus]
        exact Or.inr hnext
      · exact Or.inl (hother (sameBut_of_setStatus hset) he)
  | remove hclosed =>
      have hbefore := h.get?_of_remove hclosed hnode'
      rw [hnode, Option.some.injEq] at hbefore
      exact Or.inl (by rw [hbefore])

/-- A node that was not there before a change is idle after it. -/
theorem Step.status_of_new (step : Step g change g') (h : g.Sound) {node : Node}
    (hnone : g.get? id = none) (hnode : g'.get? id = some node) : node.status = .idle := by
  have hsame : ∀ {target : NodeId}, SameBut target g g' → node.status = .idle := by
    intro target hsame
    have hlive := mem_ids_of_get? hnode
    rw [hsame.ids] at hlive
    exact absurd hlive (get?_eq_none_iff.1 hnone)
  cases step with
  | draw draws => exact absurd (hnode.symm.trans hnone) (Option.some_ne_none node)
  | @add added hunused _ hstatus =>
      by_cases he : added.id = id
      · subst he
        rw [get?_attach_self (unused_iff.1 hunused).1, Option.some.injEq] at hnode
        rw [← hnode, hstatus]
      · rw [get?_attach_of_ne he, hnone] at hnode
        simp at hnode
  | edit hedit => exact hsame (sameBut_of_edit hedit)
  | begin hbegin => exact hsame (sameBut_of_begin hbegin)
  | setStatus hset => exact hsame (sameBut_of_setStatus hset)
  | remove hclosed =>
      exact absurd ((h.get?_of_remove hclosed hnode).symm.trans hnone) (Option.some_ne_none node)

/-! ## What holds of status and failure -/

/-- A property of the status and the failure of nodes. -/
def Executes (told : Status → Option Failure → Prop) (g : Graph) : Prop :=
  ∀ node ∈ g.nodes, told node.status node.failure

theorem Executes.alter {told : Status → Option Failure → Prop} (h : g.Executes told) (f : Node → Node)
    (hf : ∀ node ∈ g.nodes, told (f node).status (f node).failure) : (g.alter id f).Executes told := by
  intro node hnode
  rw [alter_nodes, List.mem_map] at hnode
  obtain ⟨before, hbefore, rfl⟩ := hnode
  unfold altered
  split
  · exact hf before hbefore
  · exact h before hbefore

/-- What holds of new nodes and of running ones is kept by all changes but those that set a status. -/
theorem Step.executes {told : Status → Option Failure → Prop} (step : Step g change g') (hsound : g.Sound)
    (hidle : told .idle none) (hrunning : told .running none)
    (hset : ∀ id status failure, change = .setStatus id status failure →
      told status (if status = .failed then failure else none))
    (h : g.Executes told) : g'.Executes told := by
  cases step with
  | draw draws => exact h
  | @add added _ _ hstatus _ hfailure =>
      intro node hnode
      rw [nodes_attach, List.mem_append, List.mem_singleton] at hnode
      rcases hnode with hnode | rfl
      · exact h node hnode
      · rw [hstatus, hfailure]
        exact hidle
  | edit hedit =>
      obtain ⟨_, rfl⟩ := edit_eq_ok_iff.1 hedit
      refine h.alter _ fun node hnode => ?_
      rw [Node.applyAll_status, Node.applyAll_failure]
      exact h node hnode
  | begin hbegin =>
      obtain ⟨_, _, _, rfl⟩ := begin_eq_ok_iff.1 hbegin
      have hdrawn : (g.withDraws g.draws.next.2).Executes told := h
      exact hdrawn.alter _ fun _ _ => hrunning
  | setStatus hstatus =>
      obtain ⟨_, _, _, rfl⟩ := setStatus_eq_ok_iff.1 hstatus
      exact h.alter _ fun _ _ => hset _ _ _ rfl
  | remove hclosed =>
      intro node hnode
      rw [hsound.nodes_remove_of_closed hclosed] at hnode
      exact h node (List.mem_of_mem_filter hnode)

/-- A failure is told of failed nodes only. -/
def FailuresTold (g : Graph) : Prop := g.Executes fun status failure => failure ≠ none → status = .failed

theorem Step.failuresTold (step : Step g change g') (hsound : g.Sound) (h : g.FailuresTold) :
    g'.FailuresTold := by
  refine step.executes hsound (absurd rfl) (absurd rfl) (fun _ status failure _ hfailure => ?_) h
  by_contra hstatus
  exact hfailure (if_neg hstatus)

/-! ## Trails -/

/-- A graph comes after another: one change leads to it. -/
def Then (g g' : Graph) : Prop := ∃ change, Step g change g'

/-- A graph comes after itself, because a draw need not draw anything. -/
theorem then_refl (g : Graph) : Then g g := ⟨.draw, .draw g g.draws⟩

/-- The statuses that a node has in graphs, one after the other. -/
def statuses (id : NodeId) (trail : List Graph) : List Status :=
  trail.filterMap fun g => (g.get? id).map Node.status

/-- A path leaves a trail. -/
theorem Path.exists_trail {fit : Graph → Change → Prop} {changes : List Change}
    (path : Path fit g changes g') :
    ∃ trail, (g :: trail).IsChain Then ∧ (g :: trail).getLast? = some g' := by
  induction path with
  | nil g => exact ⟨[], List.isChain_singleton g, rfl⟩
  | @cons g₀ g₁ last change _ step _ _ ih =>
      obtain ⟨trail, hchain, hlast⟩ := ih
      refine ⟨g₁ :: trail, List.isChain_cons.2 ⟨?_, hchain⟩, ?_⟩
      · intro next hnext
        rw [← Option.some.inj hnext]
        exact ⟨change, step⟩
      · rw [List.getLast?_cons_cons, hlast]

/-- What is kept from graph to graph holds all along a trail. -/
theorem forall_mem_of_isChain (kept : Graph → Prop) {trail : List Graph}
    (hstep : ∀ g g', kept g → Then g g' → kept g') (hchain : (g :: trail).IsChain Then) (h : kept g) :
    ∀ other ∈ g :: trail, kept other := by
  induction trail generalizing g with
  | nil => simpa using h
  | cons next trail ih =>
      obtain ⟨hthen, hrest⟩ := List.isChain_cons.1 hchain
      exact List.forall_mem_cons.2 ⟨h, ih hrest (hstep g next h (hthen next rfl))⟩

theorem statuses_of_retired {trail : List Graph} (hchain : (g :: trail).IsChain Then) (h : g.Sound)
    (hretired : id ∈ g.retired) : statuses id (g :: trail) = [] := by
  have hkept := forall_mem_of_isChain (fun g => g.Sound ∧ id ∈ g.retired)
    (fun g g' ⟨hsound, hmem⟩ ⟨_, step⟩ => ⟨step.sound hsound, step.mem_retired hmem⟩) hchain ⟨h, hretired⟩
  refine List.filterMap_eq_nil_iff.2 fun other hother => ?_
  obtain ⟨hsound, hmem⟩ := hkept other hother
  rw [get?_eq_none_iff.2 (hsound.retired id hmem), Option.map_none]

/-- The first status along a trail is the one that the node has, or that of a new node. -/
theorem mem_head?_statuses {trail : List Graph} (hchain : (g :: trail).IsChain Then) (h : g.Sound)
    {status : Status} (hstatus : status ∈ (statuses id (g :: trail)).head?) :
    (g.get? id).map Node.status = some status ∨ (g.get? id = none ∧ status = .idle) := by
  induction trail generalizing g with
  | nil =>
      cases hnode : g.get? id with
      | none => simp [statuses, hnode] at hstatus
      | some node => exact Or.inl (by simpa [statuses, hnode] using hstatus)
  | cons next trail ih =>
      cases hnode : g.get? id with
      | some node =>
          exact Or.inl (by simpa [statuses, hnode] using hstatus)
      | none =>
          obtain ⟨hthen, hrest⟩ := List.isChain_cons.1 hchain
          obtain ⟨_, step⟩ := hthen next rfl
          have hlater : status ∈ (statuses id (next :: trail)).head? := by
            simpa [statuses, hnode] using hstatus
          refine Or.inr ⟨rfl, ?_⟩
          rcases ih hrest (step.sound h) hlater with hfound | ⟨_, hidle⟩
          · obtain ⟨node, hnew, rfl⟩ := Option.map_eq_some_iff.1 hfound
            exact step.status_of_new h hnode hnew
          · exact hidle

theorem isChain_statuses {trail : List Graph} (hchain : (g :: trail).IsChain Then) (h : g.Sound)
    (id : NodeId) :
    (statuses id (g :: trail)).IsChain fun status later => later = status ∨ later ∈ status.next := by
  induction trail generalizing g with
  | nil => cases hnode : g.get? id <;> simp [statuses, hnode]
  | cons next trail ih =>
      obtain ⟨hthen, hrest⟩ := List.isChain_cons.1 hchain
      obtain ⟨_, step⟩ := hthen next rfl
      have hlater := ih hrest (step.sound h)
      cases hnode : g.get? id with
      | none => simpa [statuses, hnode] using hlater
      | some node =>
          have hsplit : statuses id (g :: next :: trail) = node.status :: statuses id (next :: trail) := by
            simp [statuses, hnode]
          rw [hsplit]
          refine List.isChain_cons.2 ⟨fun status hstatus => ?_, hlater⟩
          rcases mem_head?_statuses hrest (step.sound h) hstatus with hfound | ⟨hgone, _⟩
          · obtain ⟨later, hnode', rfl⟩ := Option.map_eq_some_iff.1 hfound
            exact step.status h hnode hnode'
          · -- a node that is gone is retired, and has no status any more
            have hretired := (step.mem_ids_or_retired (Or.inl (mem_ids_of_get? hnode))).resolve_left
              (get?_eq_none_iff.1 hgone)
            rw [statuses_of_retired hrest (step.sound h) hretired] at hstatus
            simp at hstatus

/-- Along a trail from a graph without the node, its statuses are a walk. -/
theorem walk_statuses {trail : List Graph} (hchain : (g :: trail).IsChain Then) (h : g.Sound)
    (hnone : g.get? id = none) : Status.Walk (statuses id (g :: trail)) := by
  refine ⟨fun status hstatus => ?_, isChain_statuses hchain h id⟩
  rcases mem_head?_statuses hchain h hstatus with hfound | ⟨_, hidle⟩
  · rw [hnone] at hfound
    simp at hfound
  · exact hidle

end Graph

end PromptCanvas
