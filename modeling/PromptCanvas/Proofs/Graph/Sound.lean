import PromptCanvas.Proofs.Graph.Lookup
import PromptCanvas.Proofs.Table

set_option autoImplicit false

/-! # Sound graphs

A graph is sound when its two indices hold what its nodes say, every parent is live and was added before
its children, and no retired id is live. Adding a node, changing nodes without touching their links, and
removing any set of ids keep a graph sound. -/

namespace PromptCanvas

namespace Node

/-- The edge that a node's parent reference stands for. -/
def parentEdge? (node : Node) : Option Edge := node.parent.map fun parent => ⟨parent, node.id⟩

/-- The entry of that edge, under the node's id. -/
def link? (node : Node) : Option (NodeId × Edge) := node.parentEdge?.map fun edge => (node.id, edge)

/-- The node without a parent that is going to be removed. -/
def orphan (doomed : List NodeId) (node : Node) : Node :=
  { node with parent := node.parent.filter fun parent => parent ∉ doomed }

theorem parentEdge?_eq_some_iff {node : Node} {edge : Edge} :
    node.parentEdge? = some edge ↔ node.parent = some edge.source ∧ edge.target = node.id := by
  obtain ⟨source, target⟩ := edge
  unfold parentEdge?
  cases node.parent with
  | none => simp
  | some parent => simp [eq_comm]

theorem parent_orphan_eq_some_iff {doomed : List NodeId} {node : Node} {parent : NodeId} :
    (node.orphan doomed).parent = some parent ↔ node.parent = some parent ∧ parent ∉ doomed := by
  unfold orphan
  rw [Option.filter_eq_some_iff, decide_eq_true_iff]

theorem orphan_eq_self {doomed : List NodeId} {node : Node}
    (h : ∀ parent, node.parent = some parent → parent ∉ doomed) : node.orphan doomed = node := by
  have hparent : node.parent.filter (fun parent => parent ∉ doomed) = node.parent := by
    cases hp : node.parent with
    | none => rfl
    | some parent => rw [Option.filter_some, if_pos (by simpa using h parent hp)]
  unfold orphan
  rw [hparent]

theorem orphan_of_mem {doomed : List NodeId} {node : Node} {parent : NodeId}
    (hparent : node.parent = some parent) (hdoomed : parent ∈ doomed) :
    node.orphan doomed = { node with parent := none } := by
  unfold orphan
  rw [hparent, Option.filter_some, if_neg (by simpa using hdoomed)]

end Node

namespace Graph

/-- The indices agree with the nodes, parents come first and live, and retired ids are not live. -/
structure Sound (g : Graph) : Prop where
  nodup : g.ids.Nodup
  edges : g.parentEdges = g.nodes.filterMap Node.link?
  lists : ∀ id, g.childIds id = (g.nodes.filter fun node => node.parent = some id).map Node.id
  /-- No node is added before its parent. -/
  ordered : g.nodes.Pairwise fun earlier later => earlier.parent ≠ some later.id
  apart : ∀ node ∈ g.nodes, node.parent ≠ some node.id
  live : ∀ node ∈ g.nodes, ∀ parent, node.parent = some parent → parent ∈ g.ids
  retired : ∀ id ∈ g.retired, id ∉ g.ids

/-! ## Edges of a sound graph -/

theorem keys_links_sublist (nodes : List Node) :
    ((nodes.filterMap Node.link?).map Prod.fst).Sublist (nodes.map Node.id) := by
  induction nodes with
  | nil => exact List.Sublist.slnil
  | cons node rest ih =>
      rw [List.map_cons]
      cases hlink : node.link? with
      | none =>
          rw [List.filterMap_cons_none hlink]
          exact ih.cons _
      | some entry =>
          obtain ⟨edge, _, rfl⟩ := Option.map_eq_some_iff.1 hlink
          rw [List.filterMap_cons_some hlink]
          exact ih.cons_cons _

theorem keys_links_subset (nodes : List Node) :
    ∀ id ∈ (nodes.filterMap Node.link?).map Prod.fst, id ∈ nodes.map Node.id :=
  fun _ hid => (keys_links_sublist nodes).subset hid

/-- Among nodes with different ids, an edge is found under the id of the node whose parent it comes
    from. -/
theorem get?_links (nodes : List Node) (hnodup : (nodes.map Node.id).Nodup) (id : NodeId) :
    Table.get? (nodes.filterMap Node.link?) id
      = (nodes.find? fun node => node.id == id).bind Node.parentEdge? := by
  induction nodes with
  | nil => rfl
  | cons node rest ih =>
      rw [List.map_cons, List.nodup_cons] at hnodup
      obtain ⟨hnotin, hrest⟩ := hnodup
      by_cases hid : node.id = id
      · subst hid
        rw [List.find?_cons_of_pos (by simp), Option.bind_some]
        cases hedge : node.parentEdge? with
        | none =>
            have hlink : node.link? = none := by rw [Node.link?, hedge, Option.map_none]
            rw [List.filterMap_cons_none hlink]
            exact Table.get?_eq_none_of_not_mem _ _ fun h => hnotin (keys_links_subset rest _ h)
        | some edge =>
            have hlink : node.link? = some (node.id, edge) := by
              rw [Node.link?, hedge, Option.map_some]
            rw [List.filterMap_cons_some hlink, Table.get?_cons, if_pos rfl]
      · rw [List.find?_cons_of_neg (by simpa using hid), ← ih hrest]
        cases hlink : node.link? with
        | none => rw [List.filterMap_cons_none hlink]
        | some entry =>
            obtain ⟨edge, _, hentry⟩ := Option.map_eq_some_iff.1 hlink
            rw [List.filterMap_cons_some hlink, Table.get?_cons, ← hentry, if_neg hid]

variable {g : Graph}

theorem Sound.edgeTo?_eq (h : g.Sound) (id : NodeId) :
    g.edgeTo? id = (g.get? id).bind Node.parentEdge? := by
  unfold Graph.edgeTo? Graph.get?
  rw [h.edges]
  exact get?_links g.nodes h.nodup id

theorem Sound.edgeTo?_of_mem (h : g.Sound) {node : Node} (hnode : node ∈ g.nodes) :
    g.edgeTo? node.id = node.parentEdge? := by
  rw [h.edgeTo?_eq, get?_of_mem h.nodup hnode, Option.bind_some]

/-- An edge is entered under its target, which is a node, and comes from the parent of the node. -/
theorem Sound.exists_node_of_mem_edges (h : g.Sound) {entry : NodeId × Edge} (hentry : entry ∈ g.parentEdges) :
    ∃ node ∈ g.nodes, entry.1 = node.id ∧ entry.2.target = node.id ∧ node.parent = some entry.2.source := by
  rw [h.edges] at hentry
  obtain ⟨node, hnode, hlink⟩ := List.mem_filterMap.1 hentry
  obtain ⟨edge, hedge, rfl⟩ := Option.map_eq_some_iff.1 hlink
  obtain ⟨hparent, htarget⟩ := Node.parentEdge?_eq_some_iff.1 hedge
  exact ⟨node, hnode, rfl, htarget, hparent⟩

theorem Sound.mem_childIds_iff (h : g.Sound) {parent child : NodeId} :
    child ∈ g.childIds parent ↔ ∃ node ∈ g.nodes, node.id = child ∧ node.parent = some parent := by
  rw [h.lists parent, List.mem_map]
  simp only [List.mem_filter, decide_eq_true_eq]
  exact ⟨fun ⟨node, ⟨hnode, hparent⟩, hid⟩ => ⟨node, hnode, hid, hparent⟩,
    fun ⟨node, hnode, hid, hparent⟩ => ⟨node, ⟨hnode, hparent⟩, hid⟩⟩

theorem Sound.childIds_of_not_mem (h : g.Sound) {id : NodeId} (hid : id ∉ g.ids) :
    g.childIds id = [] := by
  rw [List.eq_nil_iff_forall_not_mem]
  intro child hchild
  obtain ⟨node, hnode, _, hparent⟩ := h.mem_childIds_iff.1 hchild
  exact hid (h.live node hnode id hparent)

/-! ## Adding and changing nodes -/

theorem sound_of_empty (hnodes : g.nodes = []) (hedges : g.parentEdges = [])
    (hlists : g.childLists = []) : g.Sound where
  nodup := by rw [ids, hnodes]; exact List.nodup_nil
  edges := by rw [hnodes, hedges]; rfl
  lists := fun id => by rw [hnodes, Graph.childIds, hlists]; rfl
  ordered := by rw [hnodes]; exact List.Pairwise.nil
  apart := by rw [hnodes]; simp
  live := by rw [hnodes]; simp
  retired := fun id _ => by rw [ids, hnodes]; exact List.not_mem_nil

/-- A change of nodes that leaves their ids and parents keeps a graph sound. -/
theorem Sound.map (h : g.Sound) {g' : Graph} (change : Node → Node)
    (hnodes : g'.nodes = g.nodes.map change) (hid : ∀ node, (change node).id = node.id)
    (hparent : ∀ node, (change node).parent = node.parent)
    (hedges : g'.parentEdges = g.parentEdges) (hlists : g'.childLists = g.childLists)
    (hretired : g'.retired = g.retired) : g'.Sound := by
  have hids : g'.ids = g.ids := by
    rw [ids, hnodes, List.map_map]
    exact List.map_congr_left fun node _ => hid node
  refine { nodup := hids ▸ h.nodup, edges := ?edges, lists := ?lists, ordered := ?ordered,
           apart := ?apart, live := ?live, retired := ?retired }
  case edges =>
    rw [hedges, h.edges, hnodes, List.filterMap_map]
    refine List.filterMap_congr fun node _ => ?_
    simp only [Function.comp_apply, Node.link?, Node.parentEdge?, hid, hparent]
  case lists =>
    intro id
    rw [Graph.childIds, hlists, ← Graph.childIds, h.lists id, hnodes, List.filter_map, List.map_map]
    simp only [Function.comp_def, hid, hparent]
  case ordered =>
    rw [hnodes, List.pairwise_map]
    simpa only [hid, hparent] using h.ordered
  case apart =>
    rw [hnodes, List.forall_mem_map]
    simpa only [hid, hparent] using h.apart
  case live =>
    rw [hnodes, List.forall_mem_map, hids]
    simpa only [hparent] using h.live
  case retired =>
    rw [hretired, hids]
    exact h.retired

theorem Sound.alter (h : g.Sound) (id : NodeId) {change : Node → Node}
    (hid : ∀ node, (change node).id = node.id)
    (hparent : ∀ node, (change node).parent = node.parent) :
    (g.alter id change).Sound := by
  have hparent' : ∀ node, (g.altered id change node).parent = node.parent :=
    altered_congr change Node.parent hparent fun _ _ => rfl
  exact h.map (g.altered id change) (alter_nodes change) (altered_id change hid) hparent' rfl rfl rfl

theorem ids_attach (node : Node) : (g.attach node).ids = g.ids ++ [node.id] := by
  unfold ids Graph.attach
  cases node.parent <;> simp

theorem nodes_attach (node : Node) : (g.attach node).nodes = g.nodes ++ [node] := by
  unfold Graph.attach
  cases node.parent <;> rfl

theorem get?_attach_of_ne {node : Node} {id : NodeId} (hne : node.id ≠ id) :
    (g.attach node).get? id = g.get? id := by
  unfold Graph.get?
  rw [nodes_attach, List.find?_append, List.find?_cons_of_neg (by simpa using hne), List.find?_nil,
    Option.or_none]

theorem get?_attach_self {node : Node} (hid : node.id ∉ g.ids) :
    (g.attach node).get? node.id = some node := by
  have hnone := get?_eq_none_iff.2 hid
  unfold Graph.get? at hnone ⊢
  rw [nodes_attach, List.find?_append, hnone, Option.none_or, List.find?_cons_of_pos (by simp)]

theorem retired_attach (node : Node) : (g.attach node).retired = g.retired := by
  unfold Graph.attach
  cases node.parent <;> rfl

theorem childIds_attach (node : Node) (id : NodeId) :
    (g.attach node).childIds id
      = g.childIds id ++ if node.parent = some id then [node.id] else [] := by
  unfold Graph.attach
  cases hparent : node.parent with
  | none => simp [Graph.childIds]
  | some parent =>
      simp only [Graph.childIds, Table.get?_set, Option.some.injEq]
      split
      · next he => subst he; rfl
      · rw [List.append_nil]

/-- A node with an id that was never used, and with a live parent or none, can be added. -/
theorem Sound.attach (h : g.Sound) {node : Node} (hid : node.id ∉ g.ids)
    (hretired : node.id ∉ g.retired)
    (hlive : ∀ parent, node.parent = some parent → parent ∈ g.ids) : (g.attach node).Sound := by
  have hnot : ∀ other ∈ g.nodes, other.parent ≠ some node.id :=
    fun other hother hparent => hid (h.live other hother _ hparent)
  refine { nodup := ?nodup, edges := ?edges, lists := ?lists, ordered := ?ordered, apart := ?apart,
           live := ?live, retired := ?retired }
  case nodup =>
    rw [ids_attach]
    exact h.nodup.append (List.nodup_singleton _) (List.disjoint_singleton.2 hid)
  case edges =>
    rw [nodes_attach, List.filterMap_append, ← h.edges]
    -- the key is new, so the edge is written at the end
    have hkeys : node.id ∉ g.parentEdges.map Prod.fst := fun hmem =>
      hid (keys_links_subset g.nodes _ (h.edges ▸ hmem))
    unfold Graph.attach
    cases hparent : node.parent with
    | none => simp [Node.link?, Node.parentEdge?, hparent]
    | some parent =>
        simp only [Table.set_eq_append _ _ _ hkeys]
        simp [Node.link?, Node.parentEdge?, hparent]
  case lists =>
    intro id
    rw [childIds_attach, h.lists id, nodes_attach, List.filter_append, List.map_append]
    congr 1
    by_cases hparent : node.parent = some id <;> simp [hparent]
  case ordered =>
    rw [nodes_attach, List.pairwise_append]
    refine ⟨h.ordered, List.pairwise_singleton _ _, fun other hother last hlast => ?_⟩
    rw [List.mem_singleton] at hlast
    exact hlast ▸ hnot other hother
  case apart =>
    intro other hother
    rw [nodes_attach, List.mem_append, List.mem_singleton] at hother
    rcases hother with hother | rfl
    · exact h.apart other hother
    · exact fun hparent => hid (hlive _ hparent)
  case live =>
    intro other hother parent hparent
    rw [nodes_attach, List.mem_append, List.mem_singleton] at hother
    rw [ids_attach, List.mem_append]
    rcases hother with hother | rfl
    · exact Or.inl (h.live other hother parent hparent)
    · exact Or.inl (hlive parent hparent)
  case retired =>
    intro id hmem
    rw [retired_attach] at hmem
    rw [ids_attach, List.mem_append, List.mem_singleton, not_or]
    exact ⟨h.retired id hmem, fun he => hretired (he ▸ hmem)⟩

end Graph

end PromptCanvas
