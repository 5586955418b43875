import PromptCanvas.Graph.Integrity
import PromptCanvas.Proofs.Graph.Removal

set_option autoImplicit false

/-! # What a sound graph shows

A sound graph shows a forest, and every reading of it is a reading of the list of its nodes: edges,
children, parents and roots are those that the nodes' parent references stand for, and the integrity check
finds nothing. -/

namespace PromptCanvas.Graph

/-- A live node refers to `parent`, and its id is `child`. -/
def ParentOf (g : Graph) (parent child : NodeId) : Prop :=
  ∃ node ∈ g.nodes, node.id = child ∧ node.parent = some parent

/-- All that a graph shows of its links is what the list of its nodes says, and that is a forest. -/
structure Forest (g : Graph) : Prop where
  /-- One edge for each node with a parent, in the order of the nodes. -/
  edges : g.edges = g.nodes.filterMap Node.parentEdge?
  /-- The children are the nodes that refer to the id, in the order of the nodes. -/
  children : ∀ id, g.children id = g.nodes.filter fun node => node.parent = some id
  /-- No child is shown twice. -/
  distinct : ∀ id, ((g.children id).map Node.id).Nodup
  /-- The parent is the live node that the node refers to. -/
  parent : ∀ id, g.parent? id = (g.get? id).bind fun node => node.parent.bind g.get?
  roots : g.roots = g.nodes.filter fun node => node.parent = none
  /-- Every parent that is referred to is live. -/
  live : ∀ node ∈ g.nodes, ∀ parent, node.parent = some parent → g.has parent = true
  acyclic : ∀ id, ¬ Relation.TransGen g.ParentOf id id
  problems : g.problems = []

variable {g : Graph}

theorem Sound.edges_eq (h : g.Sound) : g.edges = g.nodes.filterMap Node.parentEdge? := by
  unfold Graph.edges
  rw [h.edges, List.map_filterMap]
  refine List.filterMap_congr fun node _ => ?_
  rw [Node.link?, Option.map_map]
  exact Option.map_id'

theorem Sound.children_eq (h : g.Sound) (id : NodeId) :
    g.children id = g.nodes.filter fun node => node.parent = some id := by
  unfold Graph.children
  rw [h.lists id, List.filterMap_map]
  refine Eq.trans (List.filterMap_congr fun node hnode => ?_) List.filterMap_some
  exact get?_of_mem h.nodup (List.mem_of_mem_filter hnode)

theorem Sound.parent?_eq (h : g.Sound) (id : NodeId) :
    g.parent? id = (g.get? id).bind fun node => node.parent.bind g.get? := by
  unfold Graph.parent?
  rw [h.edgeTo?_eq, Option.bind_assoc]
  congr 1
  funext node
  unfold Node.parentEdge?
  cases node.parent <;> rfl

theorem Sound.roots_eq (h : g.Sound) : g.roots = g.nodes.filter fun node => node.parent = none := by
  unfold Graph.roots
  refine List.filter_congr fun node hnode => ?_
  rw [h.edgeTo?_of_mem hnode, Node.parentEdge?]
  cases node.parent <;> rfl

theorem Sound.acyclic (h : g.Sound) (id : NodeId) : ¬ Relation.TransGen g.ParentOf id id := by
  have hsame : g.ParentOf = g.Lists := by
    funext parent child
    exact propext h.lists_iff.symm
  rw [hsame]
  exact h.not_transGen_self id

/-! ## The integrity check -/

/-- The climb to the root never shows an id that it has met before. -/
theorem not_mem_climb (edges : Table NodeId Edge) (fuel : Nat) (met : List NodeId) (start x : NodeId)
    (hx : x ∈ met) : x ∉ climb edges fuel met start := by
  induction fuel generalizing met start with
  | zero => simp [climb]
  | succ fuel ih =>
      simp only [climb]
      split
      · exact List.not_mem_nil
      · next edge _ =>
          split
          · exact List.not_mem_nil
          · next hmet =>
              rw [List.mem_cons, not_or]
              exact ⟨fun he => hmet (he ▸ hx), ih _ _ (List.mem_cons_of_mem _ hx)⟩

theorem Sound.edgeProblems_eq_nil (h : g.Sound) {entry : NodeId × Edge}
    (hentry : entry ∈ g.parentEdges) : g.edgeProblems entry.1 entry.2 = [] := by
  obtain ⟨node, hnode, hkey, htarget, hparent⟩ := h.exists_node_of_mem_edges hentry
  have hsource : g.has entry.2.source = true := has_iff_mem_ids.2 (h.live node hnode _ hparent)
  have hlive : g.has node.id = true := has_iff_mem_ids.2 (List.mem_map_of_mem hnode)
  simp [Graph.edgeProblems, hkey, htarget, hsource, hlive]

theorem Sound.parentBelow_eq_false (h : g.Sound) {node : Node} (hnode : node ∈ g.nodes) :
    g.parentBelow node = false := by
  unfold Graph.parentBelow
  cases hparent : node.parent with
  | none => rfl
  | some parent =>
      have hlists : g.Lists parent node.id := h.lists_iff.2 ⟨node, hnode, rfl, hparent⟩
      have hnot : parent ∉ g.descendants node.id := fun hbelow =>
        h.not_transGen_self node.id (((h.mem_descendants_iff _ _).1 hbelow).tail hlists)
      simp [hnot]

theorem Sound.nodeProblems_eq_nil (h : g.Sound) {node : Node} (hnode : node ∈ g.nodes) :
    g.nodeProblems node = [] := by
  have hsource : (g.edgeTo? node.id).map Edge.source = node.parent := by
    rw [h.edgeTo?_of_mem hnode, Node.parentEdge?, Option.map_map]
    exact Option.map_id'
  have hancestors : node.id ∉ g.ancestors node.id := not_mem_climb _ _ _ _ _ List.mem_cons_self
  simp [Graph.nodeProblems, hsource, hancestors, h.parentBelow_eq_false hnode]

theorem Sound.problems_eq_nil (h : g.Sound) : g.problems = [] := by
  unfold Graph.problems
  rw [List.append_eq_nil_iff, List.flatMap_eq_nil_iff, List.flatMap_eq_nil_iff]
  exact ⟨fun _ hentry => h.edgeProblems_eq_nil hentry, fun _ hnode => h.nodeProblems_eq_nil hnode⟩

theorem Sound.forest (h : g.Sound) : g.Forest where
  edges := h.edges_eq
  children := h.children_eq
  distinct := fun id => by
    rw [h.children_eq id]
    exact h.nodup.sublist (List.filter_sublist.map _)
  parent := h.parent?_eq
  roots := h.roots_eq
  live := fun node hnode parent hparent => has_iff_mem_ids.2 (h.live node hnode parent hparent)
  acyclic := h.acyclic
  problems := h.problems_eq_nil

end PromptCanvas.Graph
