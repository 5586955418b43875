import PromptCanvas.Proofs.Graph.Commute
import PromptCanvas.Studio.Deed

set_option autoImplicit false

/-! # Changes, times apart

Apart from when nodes were stamped, every change of one node is an effect on it (`Turns`). Which effect it is
depends on that node alone: in two graphs in which the node is the same, both changes are refused for the same
reason, or both have the same effect (`Concurs`). This is shown for each change once and put together along
the order of changes. -/

namespace PromptCanvas

/-- Nodes that are the same, times apart, agree on all but the times. -/
theorem Node.congr_untimed {β : Type} (view : Node → β) (hview : ∀ node : Node, view node.untimed = view node)
    {node node' : Node} (h : node'.untimed = node.untimed) : view node' = view node := by
  rw [← hview node', ← hview node, h]

theorem Node.untimed_applyAll (node : Node) (edits : List Edit) :
    (node.applyAll edits).untimed = node.untimed.applyAll edits := by
  induction edits generalizing node with
  | nil => rfl
  | cons edit rest ih =>
      have hedit : (node.apply edit).untimed = node.untimed.apply edit := by cases edit <;> rfl
      show ((node.apply edit).applyAll rest).untimed = (node.untimed.apply edit).applyAll rest
      rw [ih, hedit]

namespace Graph

variable {g g' after after' last : Graph} {id : NodeId} {change change' : Node → Node}

/-! ## Graphs without times -/

theorem get?_untimed (g : Graph) (id : NodeId) : g.untimed.get? id = (g.get? id).map Node.untimed :=
  get?_map Node.untimed rfl (fun _ => rfl) id

theorem Sound.untimed (h : g.Sound) : g.untimed.Sound :=
  h.map Node.untimed rfl (fun _ => rfl) (fun _ => rfl) rfl rfl rfl

theorem Closed.untimed {doomed : List NodeId} (h : g.Closed doomed) : g.untimed.Closed doomed := by
  intro node hnode parent hdoomed hparent
  obtain ⟨timed, htimed, rfl⟩ := List.mem_map.1 hnode
  exact h timed htimed parent hdoomed hparent

theorem untimed_remove (g : Graph) (doomed : List NodeId) :
    (g.remove doomed).untimed = g.untimed.remove doomed := by
  have horphan : ∀ node : Node,
      (if g.orphaned doomed node.id then { node with parent := none } else node).untimed
        = if g.untimed.orphaned doomed node.id then { node.untimed with parent := none } else node.untimed := by
    intro node
    show _ = if g.orphaned doomed node.id then { node.untimed with parent := none } else node.untimed
    split <;> rfl
  unfold Graph.untimed Graph.remove
  simp only [List.filter_map, List.map_map, Function.comp_def, horphan]
  rfl

/-! ## Changes of one node -/

/-- Times apart, one graph comes from another by a change of a node that leaves its links alone. -/
structure Turns (id : NodeId) (change : Node → Node) (g g' : Graph) : Prop where
  unlinking : Unlinking change
  after : g'.untimed = g.untimed.affect id (.touch change)

theorem Turns.refl (id : NodeId) (g : Graph) : Turns id (fun node => node) g g where
  unlinking := fun _ => ⟨rfl, rfl⟩
  after := by
    have hsame : touched id (fun node => node) = fun node => node := by
      funext node
      exact ite_self node
    show g.untimed = { g.untimed with nodes := g.untimed.nodes.map (touched id fun node => node) }
    rw [hsame, List.map_id']

theorem Turns.trans (h : Turns id change g after) (h' : Turns id change' after last) :
    Turns id (fun node => change' (change node)) g last where
  unlinking := fun node => by
    rw [(h'.unlinking _).1, (h'.unlinking _).2]
    exact h.unlinking node
  after := by
    rw [h'.after, h.after]
    simp only [affect, List.map_map]
    congr 1
    refine List.map_congr_left fun node _ => ?_
    by_cases hid : node.id = id
    · simp [touched, hid, (h.unlinking node).1]
    · simp [touched, hid]

theorem turns_alter (id : NodeId) (hchange : Unlinking change)
    (huntimed : ∀ node, (change node).untimed = change node.untimed) :
    Turns id change g (g.alter id change) where
  unlinking := hchange
  after := by
    have haltered : ∀ node, (g.altered id change node).untimed = touched id change node.untimed := by
      intro node
      unfold altered touched
      split
      · next hid => exact (huntimed node).trans (if_pos hid).symm
      · next hid => exact (if_neg hid).symm
    unfold Graph.untimed
    simp only [alter_nodes, affect, List.map_map, Function.comp_def, haltered]
    rfl

theorem Turns.get? (h : Turns id change g g') :
    (g'.get? id).map Node.untimed = ((g.get? id).map Node.untimed).map (touched id change) := by
  rw [← get?_untimed, ← get?_untimed, h.after]
  exact get?_map (touched id change) rfl h.unlinking.touched_id id

/-! ## The same change in two graphs -/

/-- A node is the same in two graphs, times apart. -/
def AgreeAt (id : NodeId) (g g' : Graph) : Prop :=
  (g'.get? id).map Node.untimed = (g.get? id).map Node.untimed

theorem AgreeAt.has (h : AgreeAt id g g') : g'.has id = g.has id := by
  have hsome := congrArg Option.isSome h
  rwa [Option.isSome_map, Option.isSome_map] at hsome

theorem AgreeAt.cases (h : AgreeAt id g g') :
    (g.get? id = none ∧ g'.get? id = none) ∨
      ∃ node node', g.get? id = some node ∧ g'.get? id = some node' ∧ node'.untimed = node.untimed := by
  unfold AgreeAt at h
  cases hnode : g.get? id with
  | none =>
      rw [hnode, Option.map_none, Option.map_eq_none_iff] at h
      exact Or.inl ⟨rfl, h⟩
  | some node =>
      rw [hnode, Option.map_some, Option.map_eq_some_iff] at h
      obtain ⟨node', hnode', huntimed⟩ := h
      exact Or.inr ⟨node, node', rfl, hnode', huntimed⟩

/-- Changes of a node in two graphs come to the same: both are refused for the same reason, or both turn the
    node in the same way. -/
inductive Concurs (id : NodeId) (g g' : Graph) : Except Rejection Graph → Except Rejection Graph → Prop where
  | refused (r : Rejection) : Concurs id g g' (.error r) (.error r)
  | turned {change : Node → Node} {after after' : Graph} (turns : Turns id change g after)
      (turns' : Turns id change g' after') : Concurs id g g' (.ok after) (.ok after')

theorem AgreeAt.turned (h : AgreeAt id g g') (turns : Turns id change g after)
    (turns' : Turns id change g' after') : AgreeAt id after after' := by
  unfold AgreeAt at h ⊢
  rw [turns.get?, turns'.get?, h]

/-- What concurs and goes on to concur, concurs altogether. -/
theorem Concurs.bind {result result' : Except Rejection Graph} {next next' : Graph → Except Rejection Graph}
    (h : AgreeAt id g g') (hfirst : Concurs id g g' result result')
    (hnext : ∀ after after', AgreeAt id after after' → Concurs id after after' (next after) (next' after')) :
    Concurs id g g' (result >>= next) (result' >>= next') := by
  cases hfirst with
  | refused r => exact .refused r
  | @turned change after after' turns turns' =>
      show Concurs id g g' (next after) (next' after')
      generalize hlater : next after = later
      generalize hlater' : next' after' = later'
      have hconcurs := hnext after after' (h.turned turns turns')
      rw [hlater, hlater'] at hconcurs
      cases hconcurs with
      | refused r => exact .refused r
      | turned second second' => exact .turned (turns.trans second) (turns'.trans second')

theorem concurs_edit (h : AgreeAt id g g') (edits : List Edit) :
    Concurs id g g' (g.edit id edits) (g'.edit id edits) := by
  have hturns : ∀ graph : Graph, Turns id (·.applyAll edits) graph (graph.alter id (·.applyAll edits)) :=
    fun graph => turns_alter id (fun node => ⟨node.applyAll_id edits, node.applyAll_parent edits⟩)
      fun node => node.untimed_applyAll edits
  unfold Graph.edit
  rw [h.has]
  split
  · exact .turned (hturns g) (hturns g')
  · exact .refused _

theorem concurs_setStatus (h : AgreeAt id g g') (status : Status) (failure : Option Failure) :
    Concurs id g g' (g.setStatus id status failure) (g'.setStatus id status failure) := by
  have hturns : ∀ graph : Graph,
      Turns id (Node.moved status failure) graph (graph.alter id (Node.moved status failure)) :=
    fun graph => turns_alter id (fun _ => ⟨rfl, rfl⟩) fun _ => rfl
  unfold Graph.setStatus
  rcases h.cases with ⟨hnone, hnone'⟩ | ⟨node, node', hnode, hnode', huntimed⟩
  · rw [hnone, hnone']
    exact .refused _
  · have hstatus := Node.congr_untimed Node.status (fun _ => rfl) huntimed
    simp only [hnode, hnode', hstatus]
    split
    · exact .turned (hturns g) (hturns g')
    · exact .refused _

theorem concurs_setStatusNamed (h : AgreeAt id g g') (status : Json) (failure : Option Failure) :
    Concurs id g g' (g.setStatusNamed id status failure) (g'.setStatusNamed id status failure) := by
  unfold Graph.setStatusNamed
  rw [h.has]
  split
  · split
    · exact .refused _
    · exact concurs_setStatus h _ failure
  · exact .refused _

theorem concurs_update (h : AgreeAt id g g') (updates : Json.Fields) :
    Concurs id g g' (g.update id updates) (g'.update id updates) := by
  unfold Graph.update
  rw [h.has]
  split
  · split
    · exact .refused _
    · split
      · exact .refused _
      · exact concurs_edit h _
  · exact .refused _

end Graph

end PromptCanvas
