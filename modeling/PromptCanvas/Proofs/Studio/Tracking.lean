import PromptCanvas.Proofs.Studio.Operation
import PromptCanvas.Proofs.Studio.Reply

set_option autoImplicit false

/-! # Tickets and running nodes

A graph is tracked by tickets when the tickets for each live node are just the one of the run it is in, or
none where it is not running. Quiet changes keep that so; a run that is launched adds its ticket, and the
reply to a ticket takes it away. -/

namespace PromptCanvas.Graph

/-- The tickets for a live node name the generation it is running under, once, and those for other nodes
    are left over from nodes that were removed. -/
structure Tracked (g : Graph) (tickets : List Ticket) : Prop where
  names : ∀ id node, g.get? id = some node →
    (tickets.filter fun ticket => ticket.node = id).map (fun ticket => some ticket.generation)
      = if node.status = .running then [node.generation] else []
  known : ∀ ticket ∈ tickets, ticket.node ∈ g.ids ∨ ticket.node ∈ g.retired

variable {g g' : Graph} {tickets : List Ticket}

theorem Tracked.perm (h : g.Tracked tickets) {tickets' : List Ticket} (hperm : tickets.Perm tickets') :
    g.Tracked tickets' where
  names := by
    intro id node hnode
    have hnames := h.names id node hnode
    have hmap := (hperm.filter fun ticket => ticket.node = id).map
      fun ticket => some ticket.generation
    -- at most one name is left, and a permutation of such a list is the list itself
    rw [hnames] at hmap
    split at hmap
    · next hrunning => rw [if_pos hrunning, List.singleton_perm.1 hmap]
    · next hrunning => rw [if_neg hrunning, List.nil_perm.1 hmap]
  known := fun ticket hticket => h.known ticket (hperm.mem_iff.2 hticket)

theorem Tracked.filter_eq_nil (h : g.Tracked tickets) {id : NodeId} {node : Node}
    (hnode : g.get? id = some node) (hstatus : node.status ≠ .running) :
    (tickets.filter fun ticket => ticket.node = id) = [] := by
  have hnames := h.names id node hnode
  rw [if_neg hstatus] at hnames
  exact List.map_eq_nil_iff.1 hnames

theorem Tracked.filter_eq_nil_of_unused (h : g.Tracked tickets) {id : NodeId}
    (hunused : g.unused id = true) : (tickets.filter fun ticket => ticket.node = id) = [] := by
  obtain ⟨hlive, hretired⟩ := unused_iff.1 hunused
  rw [List.filter_eq_nil_iff]
  intro ticket hticket hnode
  have hid : ticket.node = id := of_decide_eq_true hnode
  rcases h.known ticket hticket with hmem | hmem
  · exact hlive (hid ▸ hmem)
  · exact hretired (hid ▸ hmem)

/-- Where only one node changes, the tickets for that node are all that must be looked at again. -/
theorem Tracked.sameBut (h : g.Tracked tickets) {id : NodeId} (hsame : SameBut id g g')
    {tickets' : List Ticket}
    (hothers : ∀ other, other ≠ id →
      (tickets'.filter fun ticket => ticket.node = other)
        = tickets.filter fun ticket => ticket.node = other)
    (hself : ∀ node, g'.get? id = some node →
      (tickets'.filter fun ticket => ticket.node = id).map (fun ticket => some ticket.generation)
        = if node.status = .running then [node.generation] else [])
    (hknown : ∀ ticket ∈ tickets', ticket ∈ tickets ∨ ticket.node ∈ g.ids) : g'.Tracked tickets' where
  names := by
    intro other node hnode
    by_cases he : other = id
    · subst he
      exact hself node hnode
    · rw [hothers other he]
      exact h.names other node ((hsame.get? other he).symm.trans hnode)
  known := by
    intro ticket hticket
    rw [hsame.ids, hsame.retired]
    rcases hknown ticket hticket with hmem | hmem
    · exact h.known ticket hmem
    · exact Or.inl hmem

/-! ## Quiet changes -/

theorem Step.tracked {change : Change} (step : Step g change g') (hsound : g.Sound)
    (hquiet : change.isQuiet = true) (h : g.Tracked tickets) : g'.Tracked tickets := by
  have hknown : ∀ ticket ∈ tickets, ticket.node ∈ g'.ids ∨ ticket.node ∈ g'.retired :=
    fun ticket hticket => step.mem_ids_or_retired (h.known ticket hticket)
  cases step with
  | draw draws => exact ⟨h.names, hknown⟩
  | @add added hunused _ hstatus =>
      refine ⟨fun id node hnode => ?_, hknown⟩
      by_cases he : added.id = id
      · subst he
        rw [get?_attach_self (unused_iff.1 hunused).1, Option.some.injEq] at hnode
        subst hnode
        rw [h.filter_eq_nil_of_unused hunused, hstatus]
        rfl
      · rw [get?_attach_of_ne he] at hnode
        exact h.names id node hnode
  | edit hedit =>
      obtain ⟨before, after, hbefore, hafter, hstatus, hgeneration⟩ := get?_of_edit hedit
      refine h.sameBut (sameBut_of_edit hedit) (fun _ _ => rfl) (fun node hnode => ?_)
        fun _ hticket => Or.inl hticket
      rw [hafter, Option.some.injEq] at hnode
      rw [← hnode, hstatus, hgeneration]
      exact h.names _ before hbefore
  | begin | setStatus => exact Bool.noConfusion hquiet
  | remove hclosed =>
      exact ⟨fun id node hnode => h.names id node (hsound.get?_of_remove hclosed hnode), hknown⟩

theorem Path.tracked {fit : Graph → Change → Prop} {changes : List Change}
    (path : Path fit g changes g') (hquiet : ∀ g change, fit g change → change.isQuiet = true)
    (hsound : g.Sound) (h : g.Tracked tickets) : g'.Tracked tickets :=
  (path.keeps (fun g => g.Sound ∧ g.Tracked tickets)
    (fun g change _ ⟨hsound, htracked⟩ hfit step =>
      ⟨step.sound hsound, step.tracked hsound (hquiet g change hfit) htracked⟩) ⟨hsound, h⟩).2

/-! ## Runs -/

/-- Up to the beginning of a run no ticket is for its node. -/
theorem Begins.tracked {id : NodeId} {begun : Graph} (hbegins : g.Begins id begun) (hsound : g.Sound)
    (h : g.Tracked tickets) :
    ∃ ready, SameBut id ready begun ∧ ready.Tracked tickets ∧
      (tickets.filter fun ticket => ticket.node = id) = [] ∧ id ∈ ready.ids ∧
        ∃ node, begun.get? id = some node ∧ node.status = .running := by
  obtain ⟨changes, ready, path, _, _, hbegin⟩ := hbegins
  have htracked := path.tracked (fun _ _ hfit => hfit.1) hsound h
  obtain ⟨before, node, hbefore, hstatus, hnode, hrunning, _⟩ := get?_of_begin hbegin
  exact ⟨ready, sameBut_of_begin hbegin, htracked, htracked.filter_eq_nil hbefore hstatus,
    mem_ids_of_get? hbefore, node, hnode, hrunning⟩

theorem Launches.tracked {id : NodeId} {issued : Option Ticket} (hlaunches : g.Launches id issued g')
    (hsound : g.Sound) (h : g.Tracked tickets) : g'.Tracked (tickets ++ issued.toList) := by
  cases hlaunches with
  | @waiting _ node name request hbegins hnode hname =>
      obtain ⟨ready, hsame, htracked, hnone, hlive, running, hrunning, hstatus⟩ :=
        hbegins.tracked hsound h
      rw [hnode, Option.some.injEq] at hrunning
      rw [← hrunning] at hstatus
      refine htracked.sameBut hsame (fun other hne => ?_) (fun later hlater => ?_)
        fun ticket hticket => ?_
      · rw [List.filter_append, Option.toList_some,
          List.filter_cons_of_neg (by simpa using Ne.symm hne), List.filter_nil, List.append_nil]
      · rw [hnode, Option.some.injEq] at hlater
        rw [List.filter_append, hnone, ← hlater, if_pos hstatus, hname]
        simp
      · rw [List.mem_append, Option.toList_some, List.mem_singleton] at hticket
        rcases hticket with hmem | rfl
        · exact Or.inl hmem
        · exact Or.inr hlive
  | ended hbegins hends =>
      -- not running before and not running after: without a ticket both times
      obtain ⟨ready, hsame, htracked, hnone, _⟩ := hbegins.tracked hsound h
      obtain ⟨_, stopped, _, _, hstopped, hstatus, _⟩ := hends.stops
      rw [Option.toList_none, List.append_nil]
      refine htracked.sameBut (hsame.trans hends.sameBut) (fun _ _ => rfl) (fun node hnode => ?_)
        fun _ hticket => Or.inl hticket
      rw [hstopped, Option.some.injEq] at hnode
      rw [hnone, ← hnode, if_neg hstatus]
      rfl

theorem Tracked.current?_isSome {studio : Studio} {ticket : Ticket}
    (h : studio.graph.Tracked (ticket :: tickets)) (hlive : ticket.node ∈ studio.graph.ids) :
    ∃ node, studio.current? ticket = some node := by
  obtain ⟨node, hnode⟩ := exists_get?_of_mem_ids hlive
  have hnames := h.names ticket.node node hnode
  rw [List.filter_cons_of_pos (by simp), List.map_cons] at hnames
  split at hnames
  · next hrunning =>
      rw [List.cons.injEq] at hnames
      exact ⟨node, Studio.current?_eq_some_iff.2 ⟨hnode, hnames.1.symm, hrunning⟩⟩
  · exact absurd hnames (List.cons_ne_nil _ _)

/-- After the reply to a ticket the others track the graph, where there was room for the trouble of the
    reply. -/
theorem Tracked.resume {studio : Studio} {ticket : Ticket} {service : Service} {failure : Option Failure}
    (h : studio.graph.Tracked (ticket :: tickets))
    (hverdict : (Errand.run ticket).verdict service = .ok failure) (seen : List Graph) :
    (studio.resume service seen (.run ticket)).2.graph.Tracked tickets := by
  have hothers : ∀ other, other ≠ ticket.node →
      (tickets.filter fun ticket => ticket.node = other)
        = (ticket :: tickets).filter fun ticket => ticket.node = other :=
    fun other hne => (List.filter_cons_of_neg (by simpa using Ne.symm hne)).symm
  cases hcurrent : studio.current? ticket with
  | some node =>
      obtain ⟨graph, hends, heq⟩ := Studio.resume_of_current seen hverdict hcurrent
      obtain ⟨before, stopped, hbefore, hrunning, hstopped, hstatus, _⟩ := hends.stops
      have hnames := h.names ticket.node before hbefore
      rw [if_pos hrunning, List.filter_cons_of_pos (by simp), List.map_cons, List.cons.injEq]
        at hnames
      -- the ticket was the only one for its node
      rw [heq]
      refine h.sameBut hends.sameBut hothers (fun later hlater => ?_)
        fun _ hmem => Or.inl (List.mem_cons_of_mem _ hmem)
      rw [hstopped, Option.some.injEq] at hlater
      rw [← hlater, if_neg hstatus]
      exact hnames.2
  | none =>
      -- the ticket of a live node would be current
      have hgone : ticket.node ∉ studio.graph.ids := fun hlive => by
        obtain ⟨node, hnode⟩ := h.current?_isSome hlive
        exact Option.some_ne_none node (hnode.symm.trans hcurrent)
      have hsame : SameBut ticket.node studio.graph studio.graph := ⟨rfl, rfl, fun _ _ => rfl⟩
      rw [Studio.resume_of_stale seen hverdict hcurrent]
      exact h.sameBut hsame hothers (fun node hnode => absurd (mem_ids_of_get? hnode) hgone)
        fun _ hmem => Or.inl (List.mem_cons_of_mem _ hmem)

end PromptCanvas.Graph
