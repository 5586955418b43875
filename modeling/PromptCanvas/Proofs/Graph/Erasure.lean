import PromptCanvas.Graph.Erasure
import PromptCanvas.Proofs.Graph.Commute
import PromptCanvas.Proofs.Graph.Integrity

set_option autoImplicit false

/-! # Any set of nodes can be removed

Taking the ids of a set one by one comes to `Graph.remove`, whatever the order (`removeInOrder_eq_remove`): each
step of the first pass commutes with the steps that went before it, because an id's edge is still there when the
id is taken. A graph is consistent when its edges, its lists of children and the references of its nodes agree
and no node is above itself; nothing is asked of the order of the nodes, so that this is less than soundness.
Removing any set of ids keeps a graph consistent (`Consistent.remove`). -/

namespace PromptCanvas.Graph

variable {g : Graph} {doomed : List NodeId}

/-! ## The first pass -/

/-- Lists of ids that a filter drops do not matter to an id whose parent the filter keeps. -/
theorem unlink_filter (keep : NodeId → Bool) (hkeep : ∀ id, id ∉ doomed → keep id = true)
    (edges : Table NodeId Edge) (lists : Table NodeId (List NodeId)) (id : NodeId) :
    unlink doomed edges (lists.filter fun entry => keep entry.1) id
      = (unlink doomed edges lists id).filter fun entry => keep entry.1 := by
  unfold unlink
  cases edges.get? id with
  | none => rfl
  | some edge =>
      by_cases hsource : edge.source ∈ doomed
      · simp only [hsource, if_true]
      · have hkept := hkeep edge.source hsource
        simp only [hsource, if_false, Table.get?_filter_keys, hkept, if_true]
        cases lists.get? edge.source with
        | none => rfl
        | some siblings => exact Table.set_filter_keys keep lists edge.source _ hkept

theorem foldl_unlink_filter (keep : NodeId → Bool) (hkeep : ∀ id, id ∉ doomed → keep id = true)
    (edges : Table NodeId Edge) (lists : Table NodeId (List NodeId)) (order : List NodeId) :
    order.foldl (unlink doomed edges) (lists.filter fun entry => keep entry.1)
      = (order.foldl (unlink doomed edges) lists).filter fun entry => keep entry.1 := by
  induction order generalizing lists with
  | nil => rfl
  | cons id rest ih => rw [List.foldl_cons, unlink_filter keep hkeep, ih, List.foldl_cons]

/-- The edge to an id is still there when other ids have been taken. -/
theorem foldl_unlink_erase {id : NodeId} {order : List NodeId} (hid : id ∉ order) (edges : Table NodeId Edge)
    (lists : Table NodeId (List NodeId)) :
    order.foldl (unlink doomed (edges.erase id)) lists = order.foldl (unlink doomed edges) lists := by
  refine List.foldl_ext _ _ _ fun lists other hother => ?_
  have hne : other ≠ id := fun he => hid (he ▸ hother)
  have hedge : (edges.erase id).get? other = edges.get? other := by
    refine (Table.get?_filter_keys (fun key => decide (key ≠ id)) edges other).trans ?_
    rw [if_pos (by simpa using hne)]
  unfold unlink
  rw [hedge]

theorem foldl_takeOut {order : List NodeId} (hsub : ∀ id ∈ order, id ∈ doomed) (hnodup : order.Nodup)
    (g : Graph) :
    order.foldl (takeOut doomed) g =
      { g with
        nodes := g.nodes.filter fun node => node.id ∉ order
        retired := order.foldl (fun ids id => retire id ids) g.retired
        parentEdges := g.parentEdges.filter fun entry => entry.1 ∉ order
        childLists := (order.foldl (unlink doomed g.parentEdges) g.childLists).filter fun entry =>
          entry.1 ∉ order } := by
  induction order generalizing g with
  | nil => simp
  | cons id rest ih =>
      rw [List.nodup_cons] at hnodup
      have hkeep : ∀ other, other ∉ doomed → decide (other ≠ id) = true :=
        fun other hother => decide_eq_true fun he => hother (he ▸ hsub id List.mem_cons_self)
      have hlists : rest.foldl (unlink doomed (g.parentEdges.erase id))
            (unlink doomed g.parentEdges (g.childLists.erase id) id)
          = ((id :: rest).foldl (unlink doomed g.parentEdges) g.childLists).filter fun entry =>
              decide (entry.1 ≠ id) := by
        rw [foldl_unlink_erase hnodup.1, ← foldl_unlink_filter _ hkeep, List.foldl_cons]
        rfl
      rw [List.foldl_cons, ih (fun other hother => hsub other (List.mem_cons_of_mem id hother)) hnodup.2]
      simp only [takeOut, hlists]
      simp only [Table.erase, List.filter_filter, List.mem_cons, not_or, Bool.decide_and, ne_eq, List.foldl_cons,
        Bool.and_comm]

/-! ## The second pass -/

/-- Whether the edge to an id is cut, among some edges. -/
def isCut (doomed : List NodeId) (entries : Table NodeId Edge) (id : NodeId) : Bool :=
  entries.any fun entry => entry.1 = id && entry.2.source ∈ doomed

theorem isCut_cons (doomed : List NodeId) (entry : NodeId × Edge) (rest : Table NodeId Edge) (id : NodeId) :
    isCut doomed (entry :: rest) id
      = (entry.1 = id && entry.2.source ∈ doomed || isCut doomed rest id) := List.any_cons

theorem foldl_cutLoose (doomed : List NodeId) (entries : Table NodeId Edge) (g : Graph) :
    entries.foldl (cutLoose doomed) g =
      { g with
        nodes := g.nodes.map fun node =>
          if isCut doomed entries node.id then { node with parent := none } else node
        parentEdges := g.parentEdges.filter fun entry => !isCut doomed entries entry.1 } := by
  induction entries generalizing g with
  | nil => simp [isCut]
  | cons entry rest ih =>
      rw [List.foldl_cons, ih]
      unfold cutLoose
      by_cases hsource : entry.2.source ∈ doomed
      · have hnode : ∀ node : Node,
            (if isCut doomed rest (if node.id = entry.1 then { node with parent := none } else node).id then
                { (if node.id = entry.1 then { node with parent := none } else node) with parent := none }
              else (if node.id = entry.1 then { node with parent := none } else node))
            = if isCut doomed (entry :: rest) node.id then { node with parent := none } else node := by
          intro node
          rw [isCut_cons]
          by_cases hid : node.id = entry.1
          · simp [hid, hsource]
          · simp [hid, Ne.symm hid]
        have hentry : ∀ other : NodeId × Edge, (!isCut doomed (entry :: rest) other.1)
            = (decide (other.1 ≠ entry.1) && !isCut doomed rest other.1) := by
          intro other
          rw [isCut_cons]
          by_cases hid : other.1 = entry.1
          · simp [hid, hsource]
          · simp [hid, Ne.symm hid]
        simp only [hsource, if_true, List.map_map, Function.comp_def, hnode, hentry, Table.erase,
          List.filter_filter, Bool.and_comm]
      · have hcut : ∀ id, isCut doomed (entry :: rest) id = isCut doomed rest id := by
          intro id
          rw [isCut_cons]
          simp [hsource]
        simp only [hsource, if_false, hcut]

/-! ## One by one, and all at once -/

/-- Among edges kept under different ids, the one that is cut at an id is the one kept under it. -/
theorem isCut_eq {entries : Table NodeId Edge} (hkeys : (entries.map Prod.fst).Nodup) (id : NodeId) :
    isCut doomed entries id = true ↔ ∃ edge, entries.get? id = some edge ∧ edge.source ∈ doomed := by
  unfold isCut
  rw [List.any_eq_true]
  constructor
  · rintro ⟨entry, hentry, hcut⟩
    simp only [Bool.and_eq_true, decide_eq_true_eq] at hcut
    obtain ⟨rfl, hsource⟩ := hcut
    exact ⟨entry.2, Table.get?_of_mem hkeys hentry, hsource⟩
  · rintro ⟨edge, hedge, hsource⟩
    exact ⟨(id, edge), Table.mem_of_get? hedge, by simpa using hsource⟩

/-- Ids that are taken one by one leave what they leave when they are taken together. -/
theorem removeInOrder_eq_remove (hkeys : (g.parentEdges.map Prod.fst).Nodup) (hnodup : doomed.Nodup) :
    g.removeInOrder doomed = g.remove doomed := by
  have hleft : ((g.parentEdges.filter fun entry => entry.1 ∉ doomed).map Prod.fst).Nodup :=
    hkeys.sublist (List.filter_sublist.map _)
  -- an id that stays has the edge that it had, so that the second pass finds the orphans
  have hcut : ∀ id, id ∉ doomed →
      isCut doomed (g.parentEdges.filter fun entry => entry.1 ∉ doomed) id = g.orphaned doomed id := by
    intro id hid
    have hedge := Table.get?_filter_keys (fun key => decide (key ∉ doomed)) g.parentEdges id
    rw [if_pos (by simpa using hid)] at hedge
    rw [Bool.eq_iff_iff, isCut_eq hleft, hedge]
    unfold Graph.orphaned Graph.edgeTo?
    cases g.parentEdges.get? id <;> simp
  have hnodes : ∀ node ∈ g.nodes.filter fun node => node.id ∉ doomed,
      (if isCut doomed (g.parentEdges.filter fun entry => entry.1 ∉ doomed) node.id then
        { node with parent := none } else node)
      = if g.orphaned doomed node.id then { node with parent := none } else node := by
    intro node hnode
    rw [hcut node.id (of_decide_eq_true (List.mem_filter.1 hnode).2)]
  have hedges : ∀ entry ∈ g.parentEdges,
      (!isCut doomed (g.parentEdges.filter fun entry => entry.1 ∉ doomed) entry.1 && decide (entry.1 ∉ doomed))
      = (decide (entry.1 ∉ doomed) && decide (entry.2.source ∉ doomed)) := by
    intro entry hentry
    by_cases hstays : entry.1 ∈ doomed
    · simp [hstays]
    · rw [hcut entry.1 hstays, Bool.and_comm]
      unfold Graph.orphaned Graph.edgeTo?
      simp [Table.get?_of_mem hkeys hentry]
  unfold removeInOrder Graph.remove
  rw [foldl_takeOut (fun id hid => hid) hnodup, foldl_cutLoose]
  simp only [List.map_congr_left hnodes, List.filter_filter, List.filter_congr hedges]

/-! ## Consistent graphs -/

/-- Edges, lists of children and parent references agree, no node is above itself, and no retired id is live.
    The nodes may stand in any order. -/
structure Consistent (g : Graph) : Prop where
  nodup : g.ids.Nodup
  /-- No node has two edges that lead to it. -/
  edgeKeys : (g.parentEdges.map Prod.fst).Nodup
  keyed : g.Keyed
  intact : g.EdgesIntact
  /-- Listed with an id are the targets of the edges that come from it, in the order of the edges. -/
  lists : ∀ id, g.childIds id = (g.edges.filter fun edge => edge.source = id).map Edge.target
  /-- A node refers to the source of the edge that leads to it, and to none where there is no edge. -/
  parents : ∀ node ∈ g.nodes, node.parent = (g.edgeTo? node.id).map Edge.source
  acyclic : ∀ id, ¬ Relation.TransGen g.EdgeFrom id id
  retired : ∀ id ∈ g.retired, id ∉ g.ids

/-- The nodes with some ids are gone. What else there was is as it was and in its order, but that nothing leads
    out of the set any more. -/
structure Uproots (gone : List NodeId) (g g' : Graph) : Prop where
  ids : ∀ id, id ∈ g'.ids ↔ id ∈ g.ids ∧ id ∉ gone
  retired : ∀ id, id ∈ g'.retired ↔ id ∈ gone ∨ id ∈ g.retired
  unretired : ∀ id ∈ gone, id ∉ g.retired
  nodes : g'.nodes = (g.nodes.filter fun node => node.id ∉ gone).map (Node.orphan gone)
  edges : g'.edges = g.edges.filter fun edge => edge.target ∉ gone ∧ edge.source ∉ gone
  children : ∀ id, g'.childIds id = if id ∈ gone then [] else (g.childIds id).filter fun child => child ∉ gone
  /-- A node that has outlived its parent is a root, and refers to no parent. -/
  orphans : ∀ node ∈ g.nodes, node.id ∉ gone → ∀ parent ∈ gone, node.parent = some parent →
    g'.get? node.id = some { node with parent := none } ∧ { node with parent := none } ∈ g'.roots
  /-- Every other node that stays is as it was. -/
  others : ∀ node ∈ g.nodes, node.id ∉ gone → (∀ parent ∈ gone, node.parent ≠ some parent) →
    g'.get? node.id = some node
  rest : g'.strict = g.strict ∧ g'.draws = g.draws ∧ g'.clock = g.clock

theorem EdgesIntact.target_of_mem (h : g.EdgesIntact) {entry : NodeId × Edge} (hentry : entry ∈ g.parentEdges) :
    entry.2.target = entry.1 := (h entry hentry).1

theorem Consistent.edgeTo?_of_mem (h : g.Consistent) {entry : NodeId × Edge} (hentry : entry ∈ g.parentEdges) :
    g.edgeTo? entry.1 = some entry.2 := Table.get?_of_mem h.edgeKeys hentry

theorem EdgesIntact.targets (h : g.EdgesIntact) : g.edges.map Edge.target = g.parentEdges.map Prod.fst := by
  unfold Graph.edges
  rw [List.map_map]
  exact List.map_congr_left fun entry hentry => h.target_of_mem hentry

theorem Consistent.nodup_childIds (h : g.Consistent) (id : NodeId) : (g.childIds id).Nodup := by
  have htargets : (g.edges.map Edge.target).Nodup := h.intact.targets ▸ h.edgeKeys
  rw [h.lists id]
  exact htargets.sublist (List.filter_sublist.map _)

theorem Consistent.source_of_mem_childIds (h : g.Consistent) {id child : NodeId} (hchild : child ∈ g.childIds id) :
    (g.edgeTo? child).map Edge.source = some id := by
  rw [h.lists id] at hchild
  obtain ⟨edge, hedge, rfl⟩ := List.mem_map.1 hchild
  obtain ⟨hmem, hsource⟩ := List.mem_filter.1 hedge
  obtain ⟨entry, hentry, rfl⟩ := List.mem_map.1 hmem
  rw [h.intact.target_of_mem hentry, h.edgeTo?_of_mem hentry, Option.map_some]
  exact congrArg some (of_decide_eq_true hsource)

theorem Consistent.childIds_remove (h : g.Consistent) (doomed : List NodeId) (id : NodeId) :
    (g.remove doomed).childIds id
      = if id ∈ doomed then [] else (g.childIds id).filter fun child => child ∉ doomed :=
  Graph.childIds_remove (h.nodup_childIds id) (fun _ => h.source_of_mem_childIds) doomed

theorem Consistent.edgeTo?_remove (h : g.Consistent) (doomed : List NodeId) (id : NodeId) :
    (g.remove doomed).edgeTo? id
      = (g.edgeTo? id).filter fun edge => id ∉ doomed && edge.source ∉ doomed :=
  Table.get?_filter h.edgeKeys (fun entry => entry.1 ∉ doomed && entry.2.source ∉ doomed) id

theorem Consistent.edges_remove (h : g.Consistent) (doomed : List NodeId) :
    (g.remove doomed).edges = g.edges.filter fun edge => edge.target ∉ doomed ∧ edge.source ∉ doomed := by
  unfold Graph.edges
  rw [List.filter_map]
  refine congrArg _ (List.filter_congr fun entry hentry => ?_)
  rw [Function.comp_apply, h.intact.target_of_mem hentry, Bool.decide_and]

theorem Consistent.nodes_remove (h : g.Consistent) (doomed : List NodeId) :
    (g.remove doomed).nodes = (g.nodes.filter fun node => node.id ∉ doomed).map (Node.orphan doomed) :=
  Graph.nodes_remove h.parents doomed

theorem mem_ids_remove_iff (g : Graph) (doomed : List NodeId) (id : NodeId) :
    id ∈ (g.remove doomed).ids ↔ id ∈ g.ids ∧ id ∉ doomed := by
  rw [ids_remove, List.mem_filter, decide_eq_true_iff]

theorem Consistent.remove (h : g.Consistent) (doomed : List NodeId) : (g.remove doomed).Consistent := by
  have hedge := h.edgeTo?_remove doomed
  refine { nodup := ?nodup, edgeKeys := ?edgeKeys, keyed := h.keyed.remove doomed, intact := ?intact,
           lists := ?lists, parents := ?parents, acyclic := ?acyclic, retired := ?retired }
  case nodup =>
    rw [ids_remove]
    exact h.nodup.filter _
  case edgeKeys => exact h.edgeKeys.sublist (List.filter_sublist.map _)
  case intact =>
    intro entry hentry
    obtain ⟨hmem, hstays⟩ := List.mem_filter.1 hentry
    simp only [Bool.and_eq_true, decide_eq_true_eq] at hstays
    obtain ⟨htarget, hsource, hlive⟩ := h.intact entry hmem
    rw [has_iff_mem_ids] at hsource hlive ⊢
    rw [has_iff_mem_ids, mem_ids_remove_iff, mem_ids_remove_iff]
    exact ⟨htarget, ⟨hsource, hstays.2⟩, hlive, htarget ▸ hstays.1⟩
  case lists =>
    intro id
    -- both lists are a filter of the edges, once for the source and once for the ends
    rw [h.childIds_remove, h.lists id, h.edges_remove, List.filter_filter]
    by_cases hid : id ∈ doomed
    · rw [if_pos hid, eq_comm, List.map_eq_nil_iff, List.filter_eq_nil_iff]
      intro edge _ hboth
      simp only [Bool.and_eq_true, decide_eq_true_eq] at hboth
      exact hboth.2.2 (hboth.1 ▸ hid)
    · rw [if_neg hid, List.filter_map, List.filter_filter]
      refine congrArg _ (List.filter_congr fun edge _ => ?_)
      by_cases hsource : edge.source = id
      · simp [hsource, hid]
      · simp [hsource]
  case parents =>
    rw [h.nodes_remove, List.forall_mem_map]
    intro node hnode
    obtain ⟨hmem, hstays⟩ := List.mem_filter.1 hnode
    show node.parent.filter _ = ((g.remove doomed).edgeTo? node.id).map Edge.source
    rw [h.parents node hmem, hedge]
    cases g.edgeTo? node.id with
    | none => rfl
    | some edge =>
        have hid : node.id ∉ doomed := of_decide_eq_true hstays
        by_cases hsource : edge.source ∈ doomed <;> simp [Option.filter_some, hid, hsource]
  case acyclic =>
    -- an edge that is left was there before
    have hbefore : ∀ parent child, (g.remove doomed).EdgeFrom parent child → g.EdgeFrom parent child := by
      intro parent child hfrom
      obtain ⟨edge, hfound, hsource⟩ := Option.map_eq_some_iff.1 hfrom
      rw [hedge, Option.filter_eq_some_iff] at hfound
      exact Option.map_eq_some_iff.2 ⟨edge, hfound.1, hsource⟩
    exact fun id hcycle => h.acyclic id (Relation.TransGen.mono hbefore _ _ hcycle)
  case retired =>
    intro id hid
    rw [mem_retired_remove_iff] at hid
    rw [mem_ids_remove_iff]
    rintro ⟨hlive, hstays⟩
    exact hid.elim hstays fun hretired => h.retired id hretired hlive

/-- A node that stays is found where it was, without a parent that has gone. -/
theorem Consistent.get?_remove (h : g.Consistent) (doomed : List NodeId) {node : Node} (hnode : node ∈ g.nodes)
    (hstays : node.id ∉ doomed) : (g.remove doomed).get? node.id = some (node.orphan doomed) := by
  have hmem : node.orphan doomed ∈ (g.remove doomed).nodes := by
    rw [h.nodes_remove]
    exact List.mem_map_of_mem (List.mem_filter.2 ⟨hnode, decide_eq_true hstays⟩)
  exact get?_of_mem (h.remove doomed).nodup hmem

theorem Consistent.uproots_remove (h : g.Consistent) (hlive : ∀ id ∈ doomed, id ∈ g.ids) :
    Uproots doomed g (g.remove doomed) where
  ids := mem_ids_remove_iff g doomed
  retired := mem_retired_remove_iff g doomed
  unretired := fun id hid hretired => h.retired id hretired (hlive id hid)
  nodes := h.nodes_remove doomed
  edges := h.edges_remove doomed
  children := h.childIds_remove doomed
  orphans := by
    intro node hnode hstays parent hdoomed hparent
    have hfound := h.get?_remove doomed hnode hstays
    rw [Node.orphan_of_mem hparent hdoomed] at hfound
    refine ⟨hfound, List.mem_filter.2 ⟨mem_of_get? hfound, ?_⟩⟩
    -- the edge by which it was a child came from the node that has gone
    have hsource : (g.edgeTo? node.id).map Edge.source = some parent := (h.parents node hnode).symm.trans hparent
    obtain ⟨edge, hedge, rfl⟩ := Option.map_eq_some_iff.1 hsource
    show ((g.remove doomed).edgeTo? node.id).isNone = true
    rw [h.edgeTo?_remove, hedge, Option.filter_some, if_neg (by simp [hdoomed])]
    rfl
  others := by
    intro node hnode hstays hparent
    have hfound := h.get?_remove doomed hnode hstays
    rwa [Node.orphan_eq_self fun parent hrefers hdoomed => hparent parent hdoomed hrefers] at hfound
  rest := ⟨rfl, rfl, rfl⟩

theorem Consistent.remove_perm (h : g.Consistent) {order : List NodeId} (hperm : order.Perm doomed) :
    g.remove order = g.remove doomed := by
  refine Graph.remove_perm h.keyed hperm fun id => ?_
  rw [h.childIds_remove, h.childIds_remove]
  simp only [hperm.mem_iff]

/-! ## Removing any set -/

/-- Any set of live ids, closed under children or not, can be removed from a consistent graph. The graph stays
    consistent; exactly the nodes of the set are gone and retired, and those that have outlived their parents are
    roots. It is the same graph for every order in which the ids are taken one by one. -/
theorem consistent_remove (g : Graph) (h : g.Consistent) (doomed : List NodeId) (hnodup : doomed.Nodup)
    (hlive : ∀ id ∈ doomed, id ∈ g.ids) :
    (g.remove doomed).Consistent ∧ Uproots doomed g (g.remove doomed) ∧
      ∀ order : List NodeId, order.Perm doomed → g.removeInOrder order = g.remove doomed := by
  refine ⟨h.remove doomed, h.uproots_remove hlive, fun order hperm => ?_⟩
  rw [removeInOrder_eq_remove h.edgeKeys (hperm.nodup_iff.2 hnodup)]
  exact h.remove_perm hperm

/-- Whether a graph is consistent can be read off its entries, given a rank in which every edge goes up. -/
theorem consistent_of_entries (rank : NodeId → Nat) (hnodup : g.ids.Nodup)
    (hedgeKeys : (g.parentEdges.map Prod.fst).Nodup) (hkeyed : g.Keyed) (hintact : g.EdgesIntact)
    (hlisted : ∀ entry ∈ g.childLists,
      entry.2 = (g.edges.filter fun edge => edge.source = entry.1).map Edge.target)
    (hsources : ∀ edge ∈ g.edges, edge.source ∈ g.childLists.map Prod.fst)
    (hparents : ∀ node ∈ g.nodes, node.parent = (g.edgeTo? node.id).map Edge.source)
    (hrank : ∀ entry ∈ g.parentEdges, rank entry.2.source < rank entry.1)
    (hretired : ∀ id ∈ g.retired, id ∉ g.ids) : g.Consistent where
  nodup := hnodup
  edgeKeys := hedgeKeys
  keyed := hkeyed
  intact := hintact
  lists := by
    intro id
    unfold Graph.childIds
    cases hfound : g.childLists.get? id with
    | some listed => exact hlisted _ (Table.mem_of_get? hfound)
    | none =>
        have hnone : g.edges.filter (fun edge => edge.source = id) = [] := by
          refine List.filter_eq_nil_iff.2 fun edge hedge hsource => ?_
          obtain ⟨listed, hlist⟩ := Table.exists_get?_of_mem_keys (hsources edge hedge)
          rw [of_decide_eq_true hsource, hfound] at hlist
          exact absurd hlist (by simp)
        rw [hnone]
        rfl
  parents := hparents
  acyclic := by
    have hup : ∀ parent child, Relation.TransGen g.EdgeFrom parent child → rank parent < rank child := by
      have hstep : ∀ parent child, g.EdgeFrom parent child → rank parent < rank child := by
        intro parent child hfrom
        obtain ⟨edge, hedge, rfl⟩ := Option.map_eq_some_iff.1 hfrom
        exact hrank _ (Table.mem_of_get? hedge)
      intro parent child hreach
      induction hreach with
      | single hfrom => exact hstep _ _ hfrom
      | tail _ hfrom ih => exact Nat.lt_trans ih (hstep _ _ hfrom)
    exact fun id hcycle => Nat.lt_irrefl _ (hup id id hcycle)
  retired := hretired

/-- A graph that is not sound, because a child stands before its parent. Removed are the second node, which leaves
    its child behind, and its sibling. -/
theorem consistent_remove_middle :
    let third : Node := { id := "node-3", kind := .style, parent := some "node-2" }
    let first : Node := { id := "node-1", kind := .style, parent := none }
    let second : Node := { id := "node-2", kind := .style, parent := some "node-1" }
    let fourth : Node := { id := "node-4", kind := .style, parent := some "node-1" }
    let g : Graph :=
      { nodes := [third, first, second, fourth]
        parentEdges :=
          [("node-3", ⟨"node-2", "node-3"⟩), ("node-2", ⟨"node-1", "node-2"⟩), ("node-4", ⟨"node-1", "node-4"⟩)]
        childLists := [("node-1", ["node-2", "node-4"]), ("node-2", ["node-3"])]
        retired := ["node-0"] }
    ¬ g.Sound ∧ g.Consistent ∧ (g.remove ["node-2", "node-4"]).Consistent ∧
      (g.remove ["node-2", "node-4"]).nodes = [{ third with parent := none }, first] ∧
      g.removeInOrder ["node-4", "node-2"] = g.remove ["node-2", "node-4"] := by
  intro third first second fourth g
  have hconsistent : g.Consistent :=
    consistent_of_entries (["node-1", "node-2", "node-3", "node-4"].idxOf ·) (by decide) (by decide) (by decide)
      (by decide) (by decide) (by decide) (by decide) (by decide) (by decide)
  obtain ⟨hafter, huproots, horder⟩ :=
    consistent_remove g hconsistent ["node-2", "node-4"] (by decide) (by decide)
  refine ⟨fun hsound => ?_, hconsistent, hafter, huproots.nodes.trans rfl, horder _ (by decide)⟩
  have hordered := List.pairwise_cons.1 hsound.ordered
  exact hordered.1 second (by simp [second]) rfl

end PromptCanvas.Graph
