import PromptCanvas.Proofs.Graph.Commute

set_option autoImplicit false

/-! # What deletions take

Deleting and invalidating lose a closed set of nodes, and nothing besides (`Sound.loses_delete`,
`Sound.loses_invalidate`). Invalidating a node comes to deleting its children one by one, in any order
(`Sound.foldl_delete_children`): when a child has gone with all below it, what is below the node has lost exactly
these, and the other children are still the children of the node. -/

namespace PromptCanvas.Graph

variable {g g' : Graph} {id : NodeId} {gone : List NodeId}

/-! ## What is lost -/

/-- The nodes with some ids leave a graph, and nothing else happens to it: their edges go, they go from the lists
    of children, their ids are retired, and the rest stays as it is and in its order. -/
structure Loses (gone : List NodeId) (g g' : Graph) : Prop where
  nodup : gone.Nodup
  live : ∀ id ∈ gone, id ∈ g.ids
  nodes : g'.nodes = g.nodes.filter fun node => node.id ∉ gone
  edges : g'.parentEdges
    = g.parentEdges.filter fun entry => entry.2.source ∉ gone ∧ entry.2.target ∉ gone
  children : ∀ id, g'.childIds id = (g.childIds id).filter fun child => child ∉ gone
  unretired : ∀ id ∈ gone, id ∉ g.retired
  retired : ∀ id, id ∈ g'.retired ↔ id ∈ gone ∨ id ∈ g.retired
  rest : g'.strict = g.strict ∧ g'.draws = g.draws ∧ g'.clock = g.clock

theorem Sound.mem_of_lists (h : g.Sound) (hclosed : g.Closed gone) {parent child : NodeId}
    (hlists : g.Lists parent child) (hparent : parent ∈ gone) : child ∈ gone := by
  obtain ⟨node, hnode, rfl, hrefers⟩ := h.lists_iff.1 hlists
  exact hclosed node hnode parent hparent hrefers

theorem Sound.loses_remove (h : g.Sound) (hclosed : g.Closed gone) (hnodup : gone.Nodup)
    (hlive : ∀ id ∈ gone, id ∈ g.ids) : Loses gone g (g.remove gone) where
  nodup := hnodup
  live := hlive
  nodes := h.nodes_remove_of_closed hclosed
  edges := by
    refine List.filter_congr fun entry hentry => ?_
    obtain ⟨_, _, hkey, htarget, _⟩ := h.exists_node_of_mem_edges hentry
    rw [hkey, htarget, Bool.decide_and, Bool.and_comm]
  children := fun id => by
    rw [h.childIds_remove]
    split
    · next hid =>
        refine (List.filter_eq_nil_iff.2 fun child hchild => ?_).symm
        simpa using h.mem_of_lists hclosed hchild hid
    · rfl
  unretired := fun id hid hretired => h.retired id hretired (hlive id hid)
  retired := mem_retired_remove_iff g gone
  rest := ⟨rfl, rfl, rfl⟩

theorem Sound.mem_ids_of_mem_descendants (h : g.Sound) {x : NodeId} (hx : x ∈ g.descendants id) : x ∈ g.ids := by
  obtain ⟨parent, _, hlists⟩ := Relation.TransGen.tail'_iff.1 ((h.mem_descendants_iff id x).1 hx)
  obtain ⟨node, hnode, rfl, _⟩ := h.lists_iff.1 hlists
  exact List.mem_map_of_mem hnode

theorem Sound.nodup_subtree (h : g.Sound) (id : NodeId) : (id :: g.descendants id).Nodup :=
  List.nodup_cons.2 ⟨h.not_mem_descendants_self id, g.nodup_descendants id⟩

theorem delete_of_has (hid : g.has id = true) :
    g.delete id = (id :: g.descendants id, g.remove (id :: g.descendants id)) := if_pos hid

theorem delete_snd (g : Graph) (id : NodeId) : (g.delete id).2 = g.remove (g.delete id).1 := by
  unfold Graph.delete
  split
  · rfl
  · exact (remove_nil g).symm

theorem Sound.loses_delete (h : g.Sound) (id : NodeId) : Loses (g.delete id).1 g (g.delete id).2 := by
  unfold Graph.delete
  split
  · next hid =>
      refine h.loses_remove (h.closed_subtree id) (h.nodup_subtree id) fun x hx => ?_
      rcases List.mem_cons.1 hx with rfl | hbelow
      · exact has_iff_mem_ids.1 hid
      · exact h.mem_ids_of_mem_descendants hbelow
  · have hnone : g.Closed [] := fun _ _ _ hparent => absurd hparent List.not_mem_nil
    have hloses := h.loses_remove hnone List.nodup_nil fun _ hid => absurd hid List.not_mem_nil
    rwa [remove_nil] at hloses

theorem Sound.loses_invalidate (h : g.Sound) (id : NodeId) :
    Loses (g.invalidate id).1 g (g.invalidate id).2 :=
  h.loses_remove (h.closed_descendants id) (g.nodup_descendants id) fun _ => h.mem_ids_of_mem_descendants

/-! ## What is below a node when a part of it has gone -/

theorem Sound.lists_remove_iff (h : g.Sound) {parent child : NodeId} :
    (g.remove gone).Lists parent child ↔ g.Lists parent child ∧ parent ∉ gone ∧ child ∉ gone := by
  unfold Lists
  rw [h.childIds_remove]
  split
  · next hparent => simp [hparent]
  · next hparent => simp [hparent]

theorem Sound.mem_descendants_remove_iff (h : g.Sound) (hclosed : g.Closed gone) (hid : id ∉ gone) (x : NodeId) :
    x ∈ (g.remove gone).descendants id ↔ x ∈ g.descendants id ∧ x ∉ gone := by
  rw [h.mem_descendants_iff, (h.remove gone).mem_descendants_iff]
  constructor
  · intro hreach
    obtain ⟨_, _, hlast⟩ := Relation.TransGen.tail'_iff.1 hreach
    have hbefore : Relation.TransGen g.Lists id x :=
      Relation.TransGen.mono (fun _ _ hlists => (h.lists_remove_iff.1 hlists).1) _ _ hreach
    exact ⟨hbefore, (h.lists_remove_iff.1 hlast).2.2⟩
  · rintro ⟨hreach, hx⟩
    induction hreach with
    | single hlists => exact .single (h.lists_remove_iff.2 ⟨hlists, hid, hx⟩)
    | tail _ hlists ih =>
        have hparent := fun hmem => hx (h.mem_of_lists hclosed hlists hmem)
        exact (ih hparent).tail (h.lists_remove_iff.2 ⟨hlists, hparent, hx⟩)

/-- If a closed part of what is below a node goes first, invalidating the node takes the rest. -/
theorem Sound.invalidate_remove (h : g.Sound) (hkeyed : g.Keyed) (hclosed : g.Closed gone) (hnodup : gone.Nodup)
    (hbelow : ∀ x ∈ gone, x ∈ g.descendants id) :
    ((g.remove gone).invalidate id).2 = (g.invalidate id).2 := by
  have hid : id ∉ gone := fun hmem => h.not_mem_descendants_self id (hbelow id hmem)
  have hrest := h.mem_descendants_remove_iff hclosed hid
  have hperm : (gone ++ (g.remove gone).descendants id).Perm (g.descendants id) := by
    have hdisjoint : gone.Disjoint ((g.remove gone).descendants id) := fun x hx hx' => ((hrest x).1 hx').2 hx
    rw [List.perm_ext_iff_of_nodup (hnodup.append (nodup_descendants _ id) hdisjoint) (g.nodup_descendants id)]
    intro x
    rw [List.mem_append, hrest x]
    constructor
    · rintro (hx | hx)
      · exact hbelow x hx
      · exact hx.1
    · intro hx
      by_cases hgone : x ∈ gone
      · exact Or.inl hgone
      · exact Or.inr ⟨hx, hgone⟩
  exact (h.remove_append hkeyed gone _).symm.trans (h.remove_perm hkeyed hperm)

/-! ## Children deleted one by one -/

/-- No child of a node is below another one. -/
theorem Sound.not_mem_descendants_of_sibling (h : g.Sound) {child other : NodeId} (hchild : g.Lists id child)
    (hother : g.Lists id other) : other ∉ g.descendants child := by
  intro hbelow
  obtain ⟨parent, hreach, hlists⟩ := Relation.TransGen.tail'_iff.1 ((h.mem_descendants_iff child other).1 hbelow)
  obtain rfl : parent = id := h.lists_unique hlists hother
  exact h.not_transGen_self _ (.head' hchild hreach)

/-- When a child has gone with all below it, the other children are left. -/
theorem Sound.perm_childIds_remove (h : g.Sound) {child : NodeId} {rest : List NodeId}
    (hperm : (child :: rest).Perm (g.childIds id)) :
    rest.Perm ((g.remove (child :: g.descendants child)).childIds id) := by
  have hlists : ∀ {other : NodeId}, other ∈ child :: rest → g.Lists id other := hperm.mem_iff.1
  have hchild : g.Lists id child := hlists List.mem_cons_self
  have hid : id ∉ child :: g.descendants child := by
    intro hmem
    rcases List.mem_cons.1 hmem with heq | hbelow
    · exact h.not_transGen_self child (.single (heq ▸ hchild))
    · exact h.not_transGen_self child (((h.mem_descendants_iff child id).1 hbelow).tail hchild)
  have hnot : child ∉ rest := (List.nodup_cons.1 (hperm.nodup_iff.2 (h.nodup_childIds id))).1
  have hrest : (child :: rest).filter (fun other => other ∉ child :: g.descendants child) = rest := by
    rw [List.filter_cons_of_neg (by simp), List.filter_eq_self]
    intro other hother
    have hne : other ≠ child := fun heq => hnot (heq ▸ hother)
    have hapart := h.not_mem_descendants_of_sibling hchild (hlists (List.mem_cons_of_mem _ hother))
    simp [hne, hapart]
  rw [h.childIds_remove, if_neg hid]
  exact hrest ▸ hperm.filter _

/-- To delete the children of a node one by one, in any order, is to invalidate the node. -/
theorem Sound.foldl_delete_children (h : g.Sound) (hkeyed : g.Keyed) {order : List NodeId}
    (hperm : order.Perm (g.childIds id)) :
    order.foldl (fun graph child => (graph.delete child).2) g = (g.invalidate id).2 := by
  induction order generalizing g with
  | nil =>
      unfold Graph.invalidate
      rw [descendants_of_childless hperm.nil_eq.symm]
      exact (remove_nil g).symm
  | cons child rest ih =>
      have hchild : g.Lists id child := hperm.mem_iff.1 List.mem_cons_self
      obtain ⟨node, hnode, rfl, _⟩ := h.lists_iff.1 hchild
      have hhas : g.has node.id = true := has_iff_mem_ids.2 (List.mem_map_of_mem hnode)
      have hbelow : ∀ x ∈ node.id :: g.descendants node.id, x ∈ g.descendants id := by
        intro x hx
        rw [h.mem_descendants_iff]
        rcases List.mem_cons.1 hx with rfl | hx
        · exact .single hchild
        · exact .head hchild ((h.mem_descendants_iff _ x).1 hx)
      rw [List.foldl_cons, delete_of_has hhas,
        ih (h.remove _) (hkeyed.remove _) (h.perm_childIds_remove hperm),
        h.invalidate_remove hkeyed (h.closed_subtree _) (h.nodup_subtree _) hbelow]

end PromptCanvas.Graph
