import Mathlib.Data.String.Basic
import PromptCanvas.Proofs.Graph.Step

set_option autoImplicit false

/-! # Effects that commute

All that is done to a node either changes the node, links left alone, or removes nodes with all below them.
Two such effects on different nodes commute (`Sound.affect_comm`): not only the nodes come out the same, but
also the tables of edges and of children, with their order, and the retired ids.

A sound graph is told by its nodes, by the order of the parents that have a list of children, and by its
retired ids (`Sound.ext`). So this is all that has to be compared where nodes are removed. -/

namespace PromptCanvas.Graph

variable {g g' : Graph} {id other : NodeId} {change change' : Node → Node} {doomed doomed' : List NodeId}

/-! ## The order of the lists of children -/

/-- No parent has two lists of children. -/
def Keyed (g : Graph) : Prop := (g.childLists.map Prod.fst).Nodup

instance (g : Graph) : Decidable g.Keyed := inferInstanceAs (Decidable (List.Nodup _))

theorem keys_unlink (doomed : List NodeId) (edges : Table NodeId Edge) (lists : Table NodeId (List NodeId))
    (id : NodeId) : (unlink doomed edges lists id).map Prod.fst = lists.map Prod.fst := by
  unfold unlink
  split
  · rfl
  · split
    · rfl
    · split
      · rfl
      · next siblings hsiblings => exact Table.keys_set_of_mem _ _ _ (Table.mem_keys_of_get? hsiblings)

theorem keys_remove (g : Graph) (doomed : List NodeId) :
    (g.remove doomed).childLists.map Prod.fst = (g.childLists.map Prod.fst).filter fun id => id ∉ doomed := by
  have hfold : ∀ (removed : List NodeId) (lists : Table NodeId (List NodeId)),
      (removed.foldl (unlink doomed g.parentEdges) lists).map Prod.fst = lists.map Prod.fst := by
    intro removed
    induction removed with
    | nil => exact fun _ => rfl
    | cons id rest ih => exact fun lists => (ih _).trans (keys_unlink doomed g.parentEdges lists id)
  rw [← hfold doomed g.childLists, List.filter_map]
  rfl

theorem Keyed.remove (h : g.Keyed) (doomed : List NodeId) : (g.remove doomed).Keyed := by
  unfold Keyed
  rw [keys_remove]
  exact h.filter _

theorem Step.keyed {change : Change} (step : Step g change g') (h : g.Keyed) : g'.Keyed := by
  cases step with
  | draw draws => exact h
  | @add node =>
      unfold Keyed Graph.attach
      cases node.parent with
      | none => exact h
      | some parent => exact Table.nodup_keys_set _ _ _ h
  | edit hedit =>
      obtain ⟨_, rfl⟩ := edit_eq_ok_iff.1 hedit
      exact h
  | begin hbegin =>
      obtain ⟨_, _, _, rfl⟩ := begin_eq_ok_iff.1 hbegin
      exact h
  | setStatus hset =>
      obtain ⟨_, _, _, rfl⟩ := setStatus_eq_ok_iff.1 hset
      exact h
  | remove => exact h.remove _

theorem Path.keyed {fit : Graph → Change → Prop} {changes : List Change} (path : Path fit g changes g')
    (h : g.Keyed) : g'.Keyed :=
  path.keeps Keyed (fun _ _ _ hkeyed _ step => step.keyed hkeyed) h

/-! ## What tells a sound graph -/

/-- Lists of children under the same parents, in the same order of the parents, are told by the children. -/
theorem childLists_ext (hkeyed : g.Keyed) (hkeys : g'.childLists.map Prod.fst = g.childLists.map Prod.fst)
    (hchildren : ∀ id, g'.childIds id = g.childIds id) : g'.childLists = g.childLists := by
  refine Table.ext_of_keys hkeys hkeyed fun id hid => ?_
  obtain ⟨list, hlist⟩ := Table.exists_get?_of_mem_keys hid
  obtain ⟨list', hlist'⟩ := Table.exists_get?_of_mem_keys (hkeys ▸ hid)
  have hsame := hchildren id
  unfold Graph.childIds at hsame
  rw [hlist, hlist'] at hsame ⊢
  exact congrArg some hsame

theorem Sound.ext (h : g.Sound) (h' : g'.Sound) (hkeyed : g.Keyed) (hnodes : g'.nodes = g.nodes)
    (hkeys : g'.childLists.map Prod.fst = g.childLists.map Prod.fst) (hretired : g'.retired = g.retired)
    (hstrict : g'.strict = g.strict) (hdraws : g'.draws = g.draws) (hclock : g'.clock = g.clock) :
    g' = g := by
  have hedges : g'.parentEdges = g.parentEdges := by rw [h'.edges, h.edges, hnodes]
  have hlists : g'.childLists = g.childLists :=
    childLists_ext hkeyed hkeys fun id => by rw [h'.lists, h.lists, hnodes]
  cases g
  cases g'
  simp only at hnodes hedges hlists hretired hstrict hdraws hclock
  subst hnodes hedges hlists hretired hstrict hdraws hclock
  rfl

/-! ## Retired ids -/

theorem retire_comm_of_lt {id other : NodeId} (h : id < other) (retired : List NodeId) :
    retire id (retire other retired) = retire other (retire id retired) := by
  induction retired with
  | nil => simp [retire, h, h.ne, h.ne', h.not_gt]
  | cons first rest ih =>
      rcases lt_trichotomy first id with hid | rfl | hid
      · have hother := hid.trans h
        simp [retire, hid.ne', hid.not_gt, hother.ne', hother.not_gt, ih]
      · simp [retire, h.ne', h.not_gt]
      · -- the lesser id goes to the front, and the greater one where it goes without it
        have hfront : retire id (first :: rest) = id :: first :: rest := by simp [retire, hid, hid.ne]
        rw [hfront]
        rcases lt_trichotomy other first with hother | rfl | hother
        · simp [retire, h, h.ne, h.ne', h.not_gt, hother, hother.ne]
        · simp [retire, h, h.ne, h.ne', h.not_gt]
        · simp [retire, hid, hid.ne, h.ne', h.not_gt, hother.ne', hother.not_gt]

theorem retire_comm (id other : NodeId) (retired : List NodeId) :
    retire id (retire other retired) = retire other (retire id retired) := by
  rcases lt_trichotomy id other with hlt | rfl | hlt
  · exact retire_comm_of_lt hlt retired
  · rfl
  · exact (retire_comm_of_lt hlt retired).symm

theorem foldl_retire_perm (h : doomed.Perm doomed') (retired : List NodeId) :
    doomed.foldl (fun ids id => retire id ids) retired = doomed'.foldl (fun ids id => retire id ids) retired :=
  h.foldl_eq' (fun id _ other _ ids => retire_comm other id ids) retired

/-! ## Effects -/

/-- What is done to a node: it is changed, or nodes are removed. -/
inductive Effect where
  | touch (change : Node → Node)
  | remove (doomed : List NodeId)

/-- The node with an id through a change; other nodes as they are. -/
def touched (id : NodeId) (change : Node → Node) (node : Node) : Node :=
  if node.id = id then change node else node

/-- The graph in which a node has undergone an effect. -/
def affect (g : Graph) (id : NodeId) : Effect → Graph
  | .touch change => { g with nodes := g.nodes.map (touched id change) }
  | .remove doomed => g.remove doomed

/-- A change leaves the links of a node alone. -/
def Unlinking (change : Node → Node) : Prop :=
  ∀ node, (change node).id = node.id ∧ (change node).parent = node.parent

/-- What effects ask of a graph: changes leave links alone, and nodes are removed with all below them. -/
def Effect.Fits (g : Graph) : Effect → Prop
  | touch change => Unlinking change
  | remove doomed => g.Closed doomed

theorem Unlinking.touched_id (h : Unlinking change) (node : Node) :
    (touched id change node).id = node.id := by
  unfold touched
  split
  · exact (h node).1
  · rfl

theorem Unlinking.touched_parent (h : Unlinking change) (node : Node) :
    (touched id change node).parent = node.parent := by
  unfold touched
  split
  · exact (h node).2
  · rfl

theorem Sound.touch (h : g.Sound) (hchange : Unlinking change) : (g.affect id (.touch change)).Sound :=
  h.map (touched id change) rfl hchange.touched_id hchange.touched_parent rfl rfl rfl

theorem Closed.touch (h : g.Closed doomed) (hchange : Unlinking change) :
    (g.affect id (.touch change)).Closed doomed := by
  intro node hnode parent hdoomed hparent
  obtain ⟨before, hbefore, rfl⟩ := List.mem_map.1 hnode
  rw [hchange.touched_parent] at hparent
  rw [hchange.touched_id]
  exact h before hbefore parent hdoomed hparent

/-! ## Commuting -/

theorem touch_comm (hne : other ≠ id) (hchange : Unlinking change) (hchange' : Unlinking change') :
    (g.affect id (.touch change)).affect other (.touch change')
      = (g.affect other (.touch change')).affect id (.touch change) := by
  have hnodes : ∀ node, touched other change' (touched id change node)
      = touched id change (touched other change' node) := by
    intro node
    by_cases hid : node.id = id
    · simp [touched, hid, (hchange node).1, hne.symm]
    · by_cases hother : node.id = other
      · simp [touched, hother, (hchange' node).1, hne]
      · simp [touched, hid, hother]
  simp only [affect, List.map_map, Function.comp_def, hnodes]

theorem Sound.touch_remove_comm (h : g.Sound) (hchange : Unlinking change) (hclosed : g.Closed doomed) :
    (g.affect id (.touch change)).remove doomed = (g.remove doomed).affect id (.touch change) := by
  have hnodes : ((g.affect id (.touch change)).remove doomed).nodes
      = ((g.remove doomed).affect id (.touch change)).nodes := by
    rw [(h.touch hchange).nodes_remove_of_closed (hclosed.touch hchange)]
    simp only [affect, h.nodes_remove_of_closed hclosed, List.filter_map, Function.comp_def,
      hchange.touched_id]
  -- the rest does not depend on the nodes
  exact congrArg (fun nodes => { g.remove doomed with nodes := nodes }) hnodes

/-- What is removed matters, and not in which order, where the children that are left are the same. -/
theorem remove_perm (hkeyed : g.Keyed) (hperm : doomed.Perm doomed')
    (hchildren : ∀ id, (g.remove doomed).childIds id = (g.remove doomed').childIds id) :
    g.remove doomed = g.remove doomed' := by
  have hmem : ∀ x, x ∈ doomed ↔ x ∈ doomed' := fun x => hperm.mem_iff
  have hkeys : (g.remove doomed).childLists.map Prod.fst = (g.remove doomed').childLists.map Prod.fst := by
    rw [keys_remove, keys_remove]
    simp only [hmem]
  have hlists := childLists_ext (hkeyed.remove doomed') hkeys hchildren
  have horphaned : ∀ id, g.orphaned doomed id = g.orphaned doomed' id := fun id => by
    unfold Graph.orphaned
    simp only [hmem]
  unfold Graph.remove at hlists ⊢
  simp only at hlists
  simp only [hmem, horphaned, foldl_retire_perm hperm] at hlists ⊢
  rw [hlists]

theorem Sound.remove_perm (h : g.Sound) (hkeyed : g.Keyed) (hperm : doomed.Perm doomed') :
    g.remove doomed = g.remove doomed' := by
  refine Graph.remove_perm hkeyed hperm fun id => ?_
  rw [h.childIds_remove, h.childIds_remove]
  simp only [hperm.mem_iff]

theorem Sound.remove_append (h : g.Sound) (hkeyed : g.Keyed) (doomed doomed' : List NodeId) :
    g.remove (doomed ++ doomed') = (g.remove doomed).remove doomed' := by
  refine ((h.remove doomed).remove doomed').ext (h.remove (doomed ++ doomed'))
    ((hkeyed.remove doomed).remove doomed') ?nodes ?keys ?retired rfl rfl rfl
  case nodes =>
    have horphan : Node.orphan (doomed ++ doomed') = Node.orphan doomed' ∘ Node.orphan doomed := by
      funext node
      simp only [Function.comp_apply, Node.orphan, Option.filter_filter, List.mem_append, not_or,
        Bool.decide_and]
    rw [h.nodes_remove, (h.remove doomed).nodes_remove, h.nodes_remove, List.filter_map, List.map_map,
      List.filter_filter, horphan]
    refine congrArg _ (List.filter_congr fun node _ => ?_)
    simp [Node.orphan, Bool.and_comm]
  case keys =>
    simp only [keys_remove, List.filter_filter, List.mem_append, not_or, Bool.decide_and, Bool.and_comm]
  case retired => exact List.foldl_append

theorem Sound.remove_comm (h : g.Sound) (hkeyed : g.Keyed) (doomed doomed' : List NodeId) :
    (g.remove doomed).remove doomed' = (g.remove doomed').remove doomed := by
  rw [← h.remove_append hkeyed, ← h.remove_append hkeyed]
  exact h.remove_perm hkeyed List.perm_append_comm

theorem Sound.affect_comm (h : g.Sound) (hkeyed : g.Keyed) (hne : other ≠ id) {effect effect' : Effect}
    (hfits : effect.Fits g) (hfits' : effect'.Fits g) :
    (g.affect id effect).affect other effect' = (g.affect other effect').affect id effect := by
  cases effect with
  | touch change =>
      cases effect' with
      | touch change' => exact touch_comm hne hfits hfits'
      | remove doomed' => exact h.touch_remove_comm hfits hfits'
  | remove doomed =>
      cases effect' with
      | touch change' => exact (h.touch_remove_comm hfits' hfits).symm
      | remove doomed' => exact h.remove_comm hkeyed doomed doomed'

end PromptCanvas.Graph
