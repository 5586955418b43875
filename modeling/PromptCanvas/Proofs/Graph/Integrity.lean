import PromptCanvas.Proofs.Graph.Forest

set_option autoImplicit false

/-! # What the integrity check decides

Nothing is asked here of how a graph came about: its indices may hold anything. Where parent references and lists
of children say what the edges say, the check finds nothing exactly when every edge is kept under its target, both
its ends live, and following parent edges never comes back, but for nodes that are their own parents
(`problems_eq_nil_iff`). A node that is its own parent goes unreported (`own_parent_unreported`): both searches
behind the check leave out the node that they start from. -/

namespace PromptCanvas.Graph

/-- The edge to `child` comes from `parent`. -/
def EdgeFrom (g : Graph) (parent child : NodeId) : Prop := (g.edgeTo? child).map Edge.source = some parent

/-- The parent references of the nodes and the lists of children say what the edges say. -/
structure Agrees (g : Graph) : Prop where
  /-- A node refers to the source of the edge that is kept under its id, and to none where there is no edge. -/
  parents : ∀ node ∈ g.nodes, node.parent = (g.edgeTo? node.id).map Edge.source
  /-- Listed with an id are the targets of the edges that come from it. -/
  children : ∀ parent child, g.Lists parent child ↔
    ∃ key edge, g.edgeTo? key = some edge ∧ edge.source = parent ∧ edge.target = child

/-- Every edge is kept under its target, and both its ends live. -/
def EdgesIntact (g : Graph) : Prop :=
  ∀ entry ∈ g.parentEdges,
    entry.2.target = entry.1 ∧ g.has entry.2.source = true ∧ g.has entry.2.target = true

variable {g : Graph}

instance (parent child : NodeId) : Decidable (g.EdgeFrom parent child) :=
  inferInstanceAs (Decidable (_ = some parent))

instance (g : Graph) : Decidable g.EdgesIntact :=
  inferInstanceAs (Decidable (∀ entry ∈ g.parentEdges, _))

/-- Whether parent references and lists of children agree with the edges can be read off the entries. -/
theorem agrees_of_entries (hparents : ∀ node ∈ g.nodes, node.parent = (g.edgeTo? node.id).map Edge.source)
    (hlisted : ∀ entry ∈ g.childLists, ∀ child ∈ entry.2, ∃ link ∈ g.parentEdges,
      g.edgeTo? link.1 = some link.2 ∧ link.2.source = entry.1 ∧ link.2.target = child)
    (hlinks : ∀ link ∈ g.parentEdges, link.2.target ∈ g.childIds link.2.source) : g.Agrees where
  parents := hparents
  children := by
    intro parent child
    constructor
    · intro hlists
      cases hfound : g.childLists.get? parent with
      | none => simp [Lists, Graph.childIds, hfound] at hlists
      | some listed =>
          have hchild : child ∈ listed := by simpa [Lists, Graph.childIds, hfound] using hlists
          obtain ⟨⟨key, edge⟩, _, hedge⟩ := hlisted _ (Table.mem_of_get? hfound) child hchild
          exact ⟨key, edge, hedge⟩
    · rintro ⟨key, edge, hedge, rfl, rfl⟩
      exact hlinks _ (Table.mem_of_get? hedge)

/-! ## The parts of the check -/

theorem edgeProblems_eq_nil_iff {key : NodeId} {edge : Edge} :
    g.edgeProblems key edge = [] ↔
      edge.target = key ∧ g.has edge.source = true ∧ g.has edge.target = true := by
  simp [Graph.edgeProblems]

theorem parentBelow_eq_false_iff {node : Node} :
    g.parentBelow node = false ↔
      ∀ parent, node.parent = some parent → parent ≠ "" → parent ∉ g.descendants node.id := by
  unfold Graph.parentBelow
  cases node.parent with
  | none => simp
  | some parent => simp

/-- The climb never shows the node that it starts from, so that cycles are found by the second search only. -/
theorem nodeProblems_eq_nil_iff {node : Node} :
    g.nodeProblems node = [] ↔
      (g.edgeTo? node.id).map Edge.source = node.parent ∧ g.parentBelow node = false := by
  have hclimb : node.id ∉ g.ancestors node.id := not_mem_climb _ _ _ _ _ List.mem_cons_self
  simp [Graph.nodeProblems, hclimb]

/-- Where parent references agree with the edges, the check looks at the edges and at what is below nodes. -/
theorem Agrees.problems_eq_nil_iff_parts (h : g.Agrees) :
    g.problems = [] ↔ g.EdgesIntact ∧ ∀ node ∈ g.nodes, g.parentBelow node = false := by
  unfold Graph.problems EdgesIntact
  rw [List.append_eq_nil_iff, List.flatMap_eq_nil_iff, List.flatMap_eq_nil_iff]
  simp only [edgeProblems_eq_nil_iff, nodeProblems_eq_nil_iff]
  refine and_congr_right fun _ => forall₂_congr fun node hnode => ?_
  exact and_iff_right (h.parents node hnode).symm

/-! ## Following parent edges -/

theorem EdgeFrom.unique {parent other child : NodeId} (h : g.EdgeFrom parent child)
    (h' : g.EdgeFrom other child) : parent = other :=
  Option.some.inj (Eq.trans (Eq.symm h) h')

theorem EdgesIntact.target (h : g.EdgesIntact) {key : NodeId} {edge : Edge} (hedge : g.edgeTo? key = some edge) :
    edge.target = key :=
  (h _ (Table.mem_of_get? hedge)).1

theorem EdgesIntact.live_of_edgeFrom (h : g.EdgesIntact) {parent child : NodeId}
    (hfrom : g.EdgeFrom parent child) : child ∈ g.ids := by
  obtain ⟨edge, hedge, _⟩ := Option.map_eq_some_iff.1 hfrom
  have hlive : g.has edge.target = true := (h _ (Table.mem_of_get? hedge)).2.2
  rw [h.target hedge] at hlive
  exact has_iff_mem_ids.1 hlive

theorem Agrees.lists_iff (h : g.Agrees) (hintact : g.EdgesIntact) {parent child : NodeId} :
    g.Lists parent child ↔ g.EdgeFrom parent child := by
  rw [h.children]
  constructor
  · rintro ⟨key, edge, hedge, rfl, htarget⟩
    obtain rfl : key = child := (hintact.target hedge).symm.trans htarget
    exact Option.map_eq_some_iff.2 ⟨edge, hedge, rfl⟩
  · intro hfrom
    obtain ⟨edge, hedge, hsource⟩ := Option.map_eq_some_iff.1 hfrom
    exact ⟨child, edge, hedge, hsource, hintact.target hedge⟩

/-- Only the node itself is above a node that is its own parent. -/
theorem eq_of_transGen_of_own_parent {start node : NodeId} (hreach : Relation.TransGen g.EdgeFrom start node)
    (hown : g.EdgeFrom node node) : start = node := by
  induction hreach with
  | single hfrom => exact hfrom.unique hown
  | tail _ hfrom ih =>
      obtain rfl := hfrom.unique hown
      exact ih hown

/-- The parent of a node that comes back to itself is below the node, or is the node. -/
theorem Agrees.mem_descendants_of_cycle (h : g.Agrees) (hintact : g.EdgesIntact) {parent id : NodeId}
    (hfrom : g.EdgeFrom parent id) (hcycle : Relation.TransGen g.EdgeFrom id id) (hne : parent ≠ id) :
    parent ∈ g.descendants id := by
  have hsame : g.Lists = g.EdgeFrom := by
    funext parent child
    exact propext (h.lists_iff hintact)
  rw [g.mem_descendants_iff, hsame]
  obtain ⟨last, habove, hlast⟩ := Relation.TransGen.tail'_iff.1 hcycle
  obtain rfl := hlast.unique hfrom
  exact ⟨hne, (Relation.reflTransGen_iff_eq_or_transGen.1 habove).resolve_left hne⟩

/-- If a node comes back to itself by way of another one, the check reports a node. -/
theorem Agrees.exists_parentBelow (h : g.Agrees) (hintact : g.EdgesIntact) {id : NodeId}
    (hcycle : Relation.TransGen g.EdgeFrom id id) (hown : ¬ g.EdgeFrom id id) :
    ∃ node ∈ g.nodes, g.parentBelow node = true := by
  -- a node of the cycle whose parent has a name is reported
  have hreport : ∀ {parent id : NodeId}, g.EdgeFrom parent id → Relation.TransGen g.EdgeFrom id id →
      parent ≠ id → parent ≠ "" → ∃ node ∈ g.nodes, g.parentBelow node = true := by
    intro parent id hfrom hcycle hne hnamed
    obtain ⟨node, hnode⟩ := exists_get?_of_mem_ids (hintact.live_of_edgeFrom hfrom)
    obtain rfl := id_of_get? hnode
    refine ⟨node, mem_of_get? hnode, Bool.of_not_eq_false fun hbelow => ?_⟩
    refine parentBelow_eq_false_iff.1 hbelow parent ?_ hnamed (h.mem_descendants_of_cycle hintact hfrom hcycle hne)
    rw [h.parents node (mem_of_get? hnode)]
    exact hfrom
  obtain ⟨parent, habove, hfrom⟩ := Relation.TransGen.tail'_iff.1 hcycle
  have hne : parent ≠ id := fun heq => hown (heq ▸ hfrom)
  by_cases hnamed : parent = ""
  · -- a nameless parent passes for none, but it is on the cycle itself, and its own parent has a name
    subst hnamed
    have hdown : Relation.TransGen g.EdgeFrom id "" :=
      (Relation.reflTransGen_iff_eq_or_transGen.1 habove).resolve_left hne
    obtain ⟨above, _, hfrom'⟩ := Relation.TransGen.tail'_iff.1 hdown
    have hne' : above ≠ "" := fun heq =>
      hne (eq_of_transGen_of_own_parent hdown (heq ▸ hfrom')).symm
    exact hreport hfrom' (.head hfrom hdown) hne' hne'
  · exact hreport hfrom hcycle hne hnamed

/-! ## The check as a whole -/

/-- The check finds nothing where the edges are intact and only nodes that are their own parents come back to
    themselves. -/
theorem Agrees.problems_eq_nil_iff_cycles (h : g.Agrees) :
    g.problems = [] ↔ g.EdgesIntact ∧ ∀ id, Relation.TransGen g.EdgeFrom id id → g.EdgeFrom id id := by
  rw [h.problems_eq_nil_iff_parts]
  refine and_congr_right fun hintact => ⟨fun hbelow id hcycle => ?_, fun hcycles node hnode => ?_⟩
  · by_contra hown
    obtain ⟨node, hnode, hreported⟩ := h.exists_parentBelow hintact hcycle hown
    exact Bool.noConfusion ((hbelow node hnode).symm.trans hreported)
  · rw [parentBelow_eq_false_iff]
    intro parent hparent _ hdescends
    obtain ⟨hne, hreach⟩ := (g.mem_descendants_iff node.id parent).1 hdescends
    have hfrom : g.EdgeFrom parent node.id := (h.parents node hnode).symm.trans hparent
    have hdown : Relation.TransGen g.EdgeFrom node.id parent :=
      Relation.TransGen.mono (fun _ _ => (h.lists_iff hintact).1) _ _ hreach
    exact hne (hfrom.unique (hcycles node.id (hdown.tail hfrom)))

/-- In any graph whose parent references and lists of children say what the edges say: the integrity check finds
    nothing if and only if every edge is kept under its target, both ends of every edge live, and a node comes back
    to itself along parent edges only if it is its own parent. So it decides whether the graph is a forest where no
    node is its own parent, whatever the length of the cycles. -/
theorem problems_eq_nil_iff (g : Graph) (h : g.Agrees) :
    (g.problems = [] ↔
      g.EdgesIntact ∧ ∀ id, Relation.TransGen g.EdgeFrom id id → g.EdgeFrom id id) ∧
      ((∀ id, ¬ g.EdgeFrom id id) →
        (g.problems = [] ↔ g.EdgesIntact ∧ ∀ id, ¬ Relation.TransGen g.EdgeFrom id id)) := by
  refine ⟨h.problems_eq_nil_iff_cycles, fun hown => ?_⟩
  rw [h.problems_eq_nil_iff_cycles]
  exact and_congr_right fun _ => forall_congr' fun id => ⟨fun h hcycle => hown id (h hcycle),
    fun h hcycle => (h hcycle).elim⟩

/-- Two nodes that are each other's parents: the second one was added below the first, which was then added anew
    below the second. -/
theorem problems_eq_nil_iff_mutual :
    let second : Node := { id := "node-2", kind := .style, parent := some "node-1" }
    let first : Node := { id := "node-1", kind := .style, parent := some "node-2" }
    let g : Graph :=
      { nodes := [second, first]
        parentEdges := [("node-2", ⟨"node-1", "node-2"⟩), ("node-1", ⟨"node-2", "node-1"⟩)]
        childLists := [("node-1", ["node-2"]), ("node-2", ["node-1"])] }
    g.Agrees ∧ (∀ id, ¬ g.EdgeFrom id id) ∧ g.problems = [.onCycle "node-2", .onCycle "node-1"] ∧
      (g.problems = [] ↔ g.EdgesIntact ∧ ∀ id, ¬ Relation.TransGen g.EdgeFrom id id) := by
  intro second first g
  have hagrees : g.Agrees := agrees_of_entries (by decide) (by decide) (by decide)
  have hown : ∀ id, ¬ g.EdgeFrom id id := by
    intro id hfrom
    obtain ⟨edge, hedge, hsource⟩ := Option.map_eq_some_iff.1 hfrom
    have hentry : ∀ entry ∈ g.parentEdges, entry.2.source ≠ entry.1 := by decide
    exact hentry _ (Table.mem_of_get? hedge) hsource
  exact ⟨hagrees, hown, by decide, (problems_eq_nil_iff g hagrees).2 hown⟩

/-- A node that is its own parent, with the edge and the list of children to go with it: the node comes back to
    itself, and the check finds nothing. -/
theorem own_parent_unreported :
    let node : Node := { id := "node-1", kind := .style, parent := some "node-1" }
    let g : Graph :=
      { nodes := [node]
        parentEdges := [("node-1", ⟨"node-1", "node-1"⟩)]
        childLists := [("node-1", ["node-1"])] }
    g.Agrees ∧ g.problems = [] ∧ Relation.TransGen g.EdgeFrom "node-1" "node-1" ∧
      ¬ (g.problems = [] ↔ g.EdgesIntact ∧ ∀ id, ¬ Relation.TransGen g.EdgeFrom id id) := by
  intro node g
  have hagrees : g.Agrees := agrees_of_entries (by decide) (by decide) (by decide)
  have hproblems : g.problems = [] := by decide
  have hcycle : Relation.TransGen g.EdgeFrom "node-1" "node-1" := .single (by decide)
  exact ⟨hagrees, hproblems, hcycle, fun hiff => (hiff.1 hproblems).2 _ hcycle⟩

end PromptCanvas.Graph
