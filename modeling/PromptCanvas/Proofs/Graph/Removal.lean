import PromptCanvas.Proofs.Graph.Reach
import PromptCanvas.Proofs.Graph.Sound

set_option autoImplicit false

/-! # Removing nodes from a sound graph

`Graph.remove` takes any set of ids out of a sound graph and leaves a sound graph, in which the children
of removed nodes are roots. The descendants of a node together with it are closed under children, so that
deleting and invalidating leave no such orphan. -/

namespace PromptCanvas.Graph

/-! ## Retired ids -/

theorem mem_retire_iff (id x : NodeId) (retired : List NodeId) :
    x ∈ retire id retired ↔ x = id ∨ x ∈ retired := by
  induction retired with
  | nil => simp [retire]
  | cons other rest ih =>
      simp only [retire]
      split
      · next he => subst he; simp
      · split
        · rw [List.mem_cons]
        · rw [List.mem_cons, ih, List.mem_cons]
          tauto

theorem mem_retired_remove_iff (g : Graph) (doomed : List NodeId) (x : NodeId) :
    x ∈ (g.remove doomed).retired ↔ x ∈ doomed ∨ x ∈ g.retired := by
  show x ∈ doomed.foldl (fun ids id => retire id ids) g.retired ↔ _
  generalize g.retired = retired
  induction doomed generalizing retired with
  | nil => simp
  | cons id rest ih =>
      rw [List.foldl_cons, ih, mem_retire_iff, List.mem_cons]
      tauto

/-! ## Nodes that stay -/

theorem ids_remove (g : Graph) (doomed : List NodeId) :
    (g.remove doomed).ids = g.ids.filter fun id => id ∉ doomed := by
  unfold ids Graph.remove
  rw [List.map_map, List.filter_map]
  refine List.map_congr_left fun node _ => ?_
  simp only [Function.comp_apply]
  split <;> rfl

variable {g : Graph}

theorem Sound.parent_eq (h : g.Sound) {node : Node} (hnode : node ∈ g.nodes) :
    node.parent = (g.edgeTo? node.id).map Edge.source := by
  rw [h.edgeTo?_of_mem hnode, Node.parentEdge?]
  cases node.parent <;> rfl

/-- A node that refers to the source of its edge is orphaned if it refers to a removed node. -/
theorem orphaned_iff (doomed : List NodeId) {node : Node}
    (hparent : node.parent = (g.edgeTo? node.id).map Edge.source) :
    g.orphaned doomed node.id = true ↔ ∃ parent ∈ doomed, node.parent = some parent := by
  unfold Graph.orphaned
  rw [hparent]
  cases g.edgeTo? node.id <;> simp

/-- Where the nodes refer to the sources of their edges, those that stay lose what refers to removed ones. -/
theorem nodes_remove (hparents : ∀ node ∈ g.nodes, node.parent = (g.edgeTo? node.id).map Edge.source)
    (doomed : List NodeId) :
    (g.remove doomed).nodes
      = (g.nodes.filter fun node => node.id ∉ doomed).map (Node.orphan doomed) := by
  refine List.map_congr_left fun node hnode => ?_
  have horphaned := orphaned_iff doomed (hparents node (List.mem_of_mem_filter hnode))
  split
  · next hyes =>
      obtain ⟨parent, hdoomed, hparent⟩ := horphaned.1 hyes
      rw [Node.orphan_of_mem hparent hdoomed]
  · next hno =>
      rw [Node.orphan_eq_self fun parent hparent hdoomed => hno (horphaned.2 ⟨parent, hdoomed, hparent⟩)]

theorem Sound.nodes_remove (h : g.Sound) (doomed : List NodeId) :
    (g.remove doomed).nodes
      = (g.nodes.filter fun node => node.id ∉ doomed).map (Node.orphan doomed) :=
  Graph.nodes_remove (fun _ => h.parent_eq) doomed

/-! ## Links that stay -/

/-- The links of the nodes that stay are the links in which no end is removed. -/
theorem filterMap_link?_orphan (nodes : List Node) (doomed : List NodeId) :
    ((nodes.filter fun node => node.id ∉ doomed).map (Node.orphan doomed)).filterMap Node.link?
      = (nodes.filterMap Node.link?).filter fun entry =>
          entry.1 ∉ doomed && entry.2.source ∉ doomed := by
  induction nodes with
  | nil => rfl
  | cons node rest ih =>
      by_cases hid : node.id ∈ doomed
      · rw [List.filter_cons_of_neg (by simpa using hid), ih]
        cases hparent : node.parent with
        | none => simp [Node.link?, Node.parentEdge?, hparent]
        | some parent => simp [Node.link?, Node.parentEdge?, hparent, hid]
      · rw [List.filter_cons_of_pos (by simpa using hid), List.map_cons]
        cases hparent : node.parent with
        | none =>
            rw [List.filterMap_cons_none (by simp [Node.link?, Node.parentEdge?, Node.orphan, hparent]),
              List.filterMap_cons_none (by simp [Node.link?, Node.parentEdge?, hparent]), ih]
        | some parent =>
            by_cases hdoomed : parent ∈ doomed
            · rw [List.filterMap_cons_none
                  (by simp [Node.link?, Node.parentEdge?, Node.orphan, hparent, hdoomed]), ih]
              simp [Node.link?, Node.parentEdge?, hparent, hdoomed]
            · have hkept : (node.orphan doomed).link? = node.link? := by
                simp [Node.link?, Node.parentEdge?, Node.orphan, hparent, hdoomed]
              have hlink : node.link? = some (node.id, ⟨parent, node.id⟩) := by
                simp [Node.link?, Node.parentEdge?, hparent]
              rw [List.filterMap_cons_some (hkept.trans hlink), List.filterMap_cons_some hlink, ih,
                List.filter_cons_of_pos (by simp [hid, hdoomed])]

/-- Where a removed child is listed only with the source of its edge, unlinking it takes it off every list
    of an id that stays. -/
theorem childIds_unlink (doomed : List NodeId) (edges : Table NodeId Edge)
    (lists : Table NodeId (List NodeId)) (child id : NodeId) (hid : id ∉ doomed)
    (hsource : child ∈ (lists.get? id).getD [] → (edges.get? child).map Edge.source = some id) :
    ((unlink doomed edges lists child).get? id).getD [] = ((lists.get? id).getD []).erase child := by
  -- a child whose edge comes from elsewhere is not on the list, and erasing it there does nothing
  have hunlisted : (edges.get? child).map Edge.source ≠ some id →
      (lists.get? id).getD [] = ((lists.get? id).getD []).erase child :=
    fun hne => (List.erase_of_not_mem fun hmem => hne (hsource hmem)).symm
  unfold unlink
  cases hedge : edges.get? child with
  | none => exact hunlisted (by simp [hedge])
  | some edge =>
      have hmap : (edges.get? child).map Edge.source = some edge.source := by
        rw [hedge, Option.map_some]
      by_cases hdoomed : edge.source ∈ doomed
      · simp only [hdoomed, if_true]
        exact hunlisted fun he => hid (Option.some.inj (hmap.symm.trans he) ▸ hdoomed)
      · simp only [hdoomed, if_false]
        by_cases he : edge.source = id
        · subst he
          cases hsiblings : lists.get? edge.source with
          | none => simp [hsiblings]
          | some siblings => simp [Table.get?_set]
        · have hother := hunlisted fun h => he (Option.some.inj (hmap.symm.trans h))
          cases hsiblings : lists.get? edge.source with
          | none => exact hother
          | some siblings =>
              simp only [Table.get?_set, if_neg he]
              exact hother

theorem childIds_foldl_unlink (doomed : List NodeId) (edges : Table NodeId Edge) (id : NodeId)
    (hid : id ∉ doomed) (removed : List NodeId) (lists : Table NodeId (List NodeId))
    (hsource : ∀ child ∈ (lists.get? id).getD [], (edges.get? child).map Edge.source = some id) :
    ((removed.foldl (unlink doomed edges) lists).get? id).getD []
      = ((lists.get? id).getD []).diff removed := by
  induction removed generalizing lists with
  | nil => rfl
  | cons child rest ih =>
      have hstep := childIds_unlink doomed edges lists child id hid (hsource child)
      rw [List.foldl_cons, ih _ (fun other hother => ?_), hstep, List.diff_cons]
      rw [hstep] at hother
      exact hsource other (List.mem_of_mem_erase hother)

theorem Sound.nodup_childIds (h : g.Sound) (id : NodeId) : (g.childIds id).Nodup := by
  rw [h.lists id]
  exact h.nodup.sublist (List.filter_sublist.map _)

/-- Where each child is listed once, and with the source of its edge, removed children leave the lists of ids
    that stay. -/
theorem childIds_remove {id : NodeId} (hnodup : (g.childIds id).Nodup)
    (hsource : ∀ child ∈ g.childIds id, (g.edgeTo? child).map Edge.source = some id) (doomed : List NodeId) :
    (g.remove doomed).childIds id
      = if id ∈ doomed then [] else (g.childIds id).filter fun child => child ∉ doomed := by
  have hlisted : (g.remove doomed).childIds id
      = ((if decide (id ∉ doomed) = true then
          Table.get? (doomed.foldl (unlink doomed g.parentEdges) g.childLists) id
        else none).getD []) := by
    rw [← Table.get?_filter_keys (fun key => decide (key ∉ doomed))]
    rfl
  rw [hlisted]
  by_cases hid : id ∈ doomed
  · simp [hid]
  · rw [if_pos (by simpa using hid), if_neg hid,
      childIds_foldl_unlink doomed g.parentEdges id hid doomed g.childLists hsource]
    exact hnodup.sdiff_eq_filter

theorem Sound.childIds_remove (h : g.Sound) (doomed : List NodeId) (id : NodeId) :
    (g.remove doomed).childIds id
      = if id ∈ doomed then [] else (g.childIds id).filter fun child => child ∉ doomed := by
  refine Graph.childIds_remove (h.nodup_childIds id) (fun child hchild => ?_) doomed
  obtain ⟨node, hnode, rfl, hparent⟩ := h.mem_childIds_iff.1 hchild
  exact (h.parent_eq hnode).symm.trans hparent

/-! ## Soundness -/

theorem Sound.remove (h : g.Sound) (doomed : List NodeId) : (g.remove doomed).Sound := by
  have hnodes := h.nodes_remove doomed
  refine { nodup := ?nodup, edges := ?edges, lists := ?lists, ordered := ?ordered, apart := ?apart,
           live := ?live, retired := ?retired }
  case nodup =>
    rw [ids_remove]
    exact h.nodup.filter _
  case edges =>
    rw [hnodes, filterMap_link?_orphan, ← h.edges]
    rfl
  case lists =>
    intro id
    -- both lists are a filter of the nodes, once for staying and once for the parent
    have hright : ((g.remove doomed).nodes.filter fun node => node.parent = some id).map Node.id
        = ((g.nodes.filter fun node => node.id ∉ doomed).filter fun node =>
            node.parent = some id ∧ id ∉ doomed).map Node.id := by
      rw [hnodes, List.filter_map, List.map_map]
      simp only [Function.comp_def, Node.parent_orphan_eq_some_iff]
      rfl
    rw [h.childIds_remove, h.lists id, hright]
    by_cases hid : id ∈ doomed
    · simp [hid]
    · simp only [hid, if_false, List.filter_map, List.filter_filter, Function.comp_def,
        not_false_eq_true, and_true, Bool.and_comm]
  case ordered =>
    rw [hnodes, List.pairwise_map]
    refine (h.ordered.filter _).imp fun {earlier later} hparent hrefers => ?_
    exact hparent (Node.parent_orphan_eq_some_iff.1 hrefers).1
  case apart =>
    rw [hnodes, List.forall_mem_map]
    intro node hnode hparent
    exact h.apart node (List.mem_of_mem_filter hnode) (Node.parent_orphan_eq_some_iff.1 hparent).1
  case live =>
    rw [hnodes, List.forall_mem_map, ids_remove]
    intro node hnode parent hparent
    obtain ⟨hparent, hstays⟩ := Node.parent_orphan_eq_some_iff.1 hparent
    exact List.mem_filter.2
      ⟨h.live node (List.mem_of_mem_filter hnode) parent hparent, by simpa using hstays⟩
  case retired =>
    intro id hid
    rw [mem_retired_remove_iff] at hid
    rw [ids_remove, List.mem_filter]
    rintro ⟨hlive, hstays⟩
    rcases hid with hdoomed | hretired
    · exact of_decide_eq_true hstays hdoomed
    · exact h.retired id hretired hlive

/-! ## Descendants in a sound graph -/

theorem Sound.lists_iff (h : g.Sound) {parent child : NodeId} :
    g.Lists parent child ↔ ∃ node ∈ g.nodes, node.id = child ∧ node.parent = some parent :=
  h.mem_childIds_iff

theorem Sound.idxOf_lt (h : g.Sound) {parent child : NodeId} (hlists : g.Lists parent child) :
    g.ids.idxOf parent < g.ids.idxOf child := by
  obtain ⟨node, hnode, rfl, hparent⟩ := h.lists_iff.1 hlists
  obtain ⟨i, hi, rfl⟩ := List.mem_iff_getElem.1 hnode
  obtain ⟨j, hj, hsource⟩ := List.mem_iff_getElem.1 (h.live _ hnode parent hparent)
  have hi' : i < g.ids.length := by simpa [ids] using hi
  have hj' : j < g.nodes.length := by simpa [ids] using hj
  have hchild : g.ids[i] = g.nodes[i].id := List.getElem_map _
  have hsource' : g.nodes[j].id = parent := by
    rw [← hsource]
    exact (List.getElem_map _).symm
  rw [← hchild, ← hsource, h.nodup.idxOf_getElem, h.nodup.idxOf_getElem]
  rcases Nat.lt_trichotomy j i with hlt | heq | hgt
  · exact hlt
  · subst heq
    exact absurd (hsource' ▸ hparent) (h.apart _ hnode)
  · exact absurd (hsource' ▸ hparent) (List.pairwise_iff_getElem.1 h.ordered i j hi hj' hgt)

theorem Sound.not_transGen_self (h : g.Sound) (id : NodeId) : ¬ Relation.TransGen g.Lists id id := by
  -- every step goes to a later place among the ids
  have hlt : ∀ {x y : NodeId}, Relation.TransGen g.Lists x y → g.ids.idxOf x < g.ids.idxOf y := by
    intro x y hreach
    induction hreach with
    | single hlists => exact h.idxOf_lt hlists
    | tail _ hlists ih => exact Nat.lt_trans ih (h.idxOf_lt hlists)
  exact fun hreach => Nat.lt_irrefl _ (hlt hreach)

theorem Sound.mem_descendants_iff (h : g.Sound) (id x : NodeId) :
    x ∈ g.descendants id ↔ Relation.TransGen g.Lists id x := by
  rw [Graph.mem_descendants_iff]
  exact ⟨fun hmem => hmem.2, fun hreach => ⟨fun he => h.not_transGen_self id (he ▸ hreach), hreach⟩⟩

theorem Sound.not_mem_descendants_self (h : g.Sound) (id : NodeId) : id ∉ g.descendants id :=
  fun hmem => h.not_transGen_self id ((h.mem_descendants_iff id id).1 hmem)

/-- The children of a node and of its descendants are its descendants. -/
theorem Sound.mem_descendants_of_parent (h : g.Sound) {id parent : NodeId} {node : Node}
    (hnode : node ∈ g.nodes) (hparent : node.parent = some parent)
    (hbelow : parent = id ∨ parent ∈ g.descendants id) : node.id ∈ g.descendants id := by
  have hlists : g.Lists parent node.id := h.lists_iff.2 ⟨node, hnode, rfl, hparent⟩
  rw [h.mem_descendants_iff] at hbelow ⊢
  rcases hbelow with rfl | hreach
  · exact Relation.TransGen.single hlists
  · exact hreach.tail hlists

theorem descendants_of_childless {id : NodeId} (hnone : g.childIds id = []) : g.descendants id = [] := by
  rw [List.eq_nil_iff_forall_not_mem]
  intro x hx
  obtain ⟨child, hlists, _⟩ := Relation.TransGen.head'_iff.1 ((g.mem_descendants_iff id x).1 hx).2
  unfold Lists at hlists
  rw [hnone] at hlists
  exact List.not_mem_nil hlists

theorem Sound.descendants_of_not_mem (h : g.Sound) {id : NodeId} (hid : id ∉ g.ids) :
    g.descendants id = [] := descendants_of_childless (h.childIds_of_not_mem hid)

theorem Sound.lists_unique (h : g.Sound) {parent parent' child : NodeId} (hlists : g.Lists parent child)
    (hlists' : g.Lists parent' child) : parent = parent' := by
  obtain ⟨node, hnode, rfl, hparent⟩ := h.lists_iff.1 hlists
  obtain ⟨node', hnode', hid, hparent'⟩ := h.lists_iff.1 hlists'
  have hsame := get?_of_mem h.nodup hnode'
  rw [hid, get?_of_mem h.nodup hnode, Option.some.injEq] at hsame
  rw [← hsame, hparent, Option.some.injEq] at hparent'
  exact hparent'

/-- Nothing is below two nodes neither of which is below the other. -/
theorem Sound.disjoint_descendants (h : g.Sound) {id other : NodeId} (hne : other ≠ id)
    (hout : other ∉ g.descendants id) (hout' : id ∉ g.descendants other) :
    (g.descendants id).Disjoint (g.descendants other) := by
  intro x hbelow hbelow'
  rw [h.mem_descendants_iff] at hbelow hbelow' hout hout'
  have hunique : Relator.RightUnique (Function.swap g.Lists) := fun _ _ _ => h.lists_unique
  -- the chain up from x is one, so that the two nodes stand on it one after the other
  rcases Relation.ReflTransGen.total_of_right_unique hunique
    (Relation.reflTransGen_swap.2 hbelow.to_reflTransGen)
    (Relation.reflTransGen_swap.2 hbelow'.to_reflTransGen) with hchain | hchain
  · rw [Relation.reflTransGen_swap, Relation.reflTransGen_iff_eq_or_transGen] at hchain
    rcases hchain with heq | hreach
    · exact hne heq.symm
    · exact hout' hreach
  · rw [Relation.reflTransGen_swap, Relation.reflTransGen_iff_eq_or_transGen] at hchain
    rcases hchain with heq | hreach
    · exact hne heq
    · exact hout hreach

/-- The ids are closed under children. -/
def Closed (g : Graph) (doomed : List NodeId) : Prop :=
  ∀ node ∈ g.nodes, ∀ parent ∈ doomed, node.parent = some parent → node.id ∈ doomed

theorem Sound.closed_descendants (h : g.Sound) (id : NodeId) : g.Closed (g.descendants id) :=
  fun _ hnode _ hbelow hparent => h.mem_descendants_of_parent hnode hparent (Or.inr hbelow)

theorem Sound.closed_subtree (h : g.Sound) (id : NodeId) : g.Closed (id :: g.descendants id) := by
  intro node hnode parent hbelow hparent
  exact List.mem_cons_of_mem _
    (h.mem_descendants_of_parent hnode hparent (List.mem_cons.1 hbelow))

/-- Where a closed set is removed, the nodes that stay are unchanged. -/
theorem Sound.nodes_remove_of_closed (h : g.Sound) {doomed : List NodeId} (hclosed : g.Closed doomed) :
    (g.remove doomed).nodes = g.nodes.filter fun node => node.id ∉ doomed := by
  rw [h.nodes_remove]
  refine (List.map_congr_left fun node hnode => ?_).trans (List.map_id _)
  obtain ⟨hmem, hstays⟩ := List.mem_filter.1 hnode
  rw [Node.orphan_eq_self fun parent hparent hdoomed =>
    of_decide_eq_true hstays (hclosed node hmem parent hdoomed hparent)]
  rfl

theorem Sound.get?_remove_of_closed (h : g.Sound) {doomed : List NodeId} (hclosed : g.Closed doomed)
    {id : NodeId} (hid : id ∉ doomed) : (g.remove doomed).get? id = g.get? id := by
  unfold Graph.get?
  rw [h.nodes_remove_of_closed hclosed, List.find?_filter]
  congr 1
  funext node
  by_cases he : node.id = id
  · simp [he, hid]
  · simp [he]

/-- Removing what is below a node leaves the node. -/
theorem Sound.get?_invalidate_self (h : g.Sound) (id : NodeId) : (g.invalidate id).2.get? id = g.get? id :=
  h.get?_remove_of_closed (h.closed_descendants id) (h.not_mem_descendants_self id)

theorem Sound.get?_of_remove (h : g.Sound) {doomed : List NodeId} (hclosed : g.Closed doomed)
    {id : NodeId} {node : Node} (hnode : (g.remove doomed).get? id = some node) :
    g.get? id = some node := by
  have hstays : id ∉ doomed := fun hdoomed => by
    have hmem := mem_ids_of_get? hnode
    rw [ids_remove, List.mem_filter] at hmem
    exact of_decide_eq_true hmem.2 hdoomed
  exact (h.get?_remove_of_closed hclosed hstays).symm.trans hnode

theorem remove_nil (g : Graph) : g.remove [] = g := by
  unfold Graph.remove
  have horphaned : ∀ id, g.orphaned [] id = false := fun id => by
    unfold Graph.orphaned
    split <;> simp
  simp [horphaned]

end PromptCanvas.Graph
