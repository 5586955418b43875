import Mathlib.Data.List.Nodup
import PromptCanvas.Graph.Change
import PromptCanvas.Graph.Removal

set_option autoImplicit false

/-! # Nodes and how they are found

What an edit leaves alone in a node, and what `Graph.get?` finds in a graph and after a change of one
node. Ids are taken to be different from each other only where a lemma says so. -/

namespace PromptCanvas

/-! ## Edits of a node -/

namespace Node

/-- What no single edit touches is not touched by several. -/
theorem applyAll_congr {β : Type} (view : Node → β) (node : Node) (edits : List Edit)
    (h : ∀ edit ∈ edits, ∀ n : Node, view (n.apply edit) = view n) :
    view (node.applyAll edits) = view node := by
  induction edits generalizing node with
  | nil => rfl
  | cons edit rest ih =>
      show view ((node.apply edit).applyAll rest) = view node
      rw [ih (node.apply edit) (fun e he => h e (List.mem_cons_of_mem _ he))]
      exact h edit List.mem_cons_self node

variable (node : Node) (edits : List Edit)

@[simp]
theorem applyAll_id : (node.applyAll edits).id = node.id :=
  applyAll_congr Node.id node edits fun edit _ n => by cases edit <;> rfl

@[simp]
theorem applyAll_kind : (node.applyAll edits).kind = node.kind :=
  applyAll_congr Node.kind node edits fun edit _ n => by cases edit <;> rfl

@[simp]
theorem applyAll_parent : (node.applyAll edits).parent = node.parent :=
  applyAll_congr Node.parent node edits fun edit _ n => by cases edit <;> rfl

@[simp]
theorem applyAll_status : (node.applyAll edits).status = node.status :=
  applyAll_congr Node.status node edits fun edit _ n => by cases edit <;> rfl

@[simp]
theorem applyAll_generation : (node.applyAll edits).generation = node.generation :=
  applyAll_congr Node.generation node edits fun edit _ n => by cases edit <;> rfl

@[simp]
theorem applyAll_created : (node.applyAll edits).created = node.created :=
  applyAll_congr Node.created node edits fun edit _ n => by cases edit <;> rfl

@[simp]
theorem applyAll_failure : (node.applyAll edits).failure = node.failure :=
  applyAll_congr Node.failure node edits fun edit _ n => by cases edit <;> rfl

theorem applyAll_inputRef (h : ∀ edit ∈ edits, edit.field ≠ .inputRef) :
    (node.applyAll edits).inputRef = node.inputRef := by
  refine applyAll_congr Node.inputRef node edits fun edit hedit n => ?_
  have hfield := h edit hedit
  cases edit <;> first | rfl | exact absurd rfl hfield

theorem applyAll_outputRef (h : ∀ edit ∈ edits, edit.field ≠ .outputRef) :
    (node.applyAll edits).outputRef = node.outputRef := by
  refine applyAll_congr Node.outputRef node edits fun edit hedit n => ?_
  have hfield := h edit hedit
  cases edit <;> first | rfl | exact absurd rfl hfield

end Node

/-- The node when a run has begun under a name. -/
def Node.begun (name : String) (node : Node) : Node :=
  { node with generation := some name, status := .running, failure := none }

/-- The node when it has moved to a status. -/
def Node.moved (status : Status) (failure : Option Failure) (node : Node) : Node :=
  { node with status := status, failure := if status = .failed then failure else none }

theorem Status.running_mem_next_iff (status : Status) :
    Status.running ∈ status.next ↔ status ≠ .running := by
  cases status <;> decide

namespace Graph

/-! ## Finding nodes -/

/-- The ids of the live nodes, in order. -/
def ids (g : Graph) : List NodeId := g.nodes.map Node.id

theorem mem_of_get? {g : Graph} {id : NodeId} {node : Node} (h : g.get? id = some node) :
    node ∈ g.nodes :=
  List.mem_of_find?_eq_some h

theorem id_of_get? {g : Graph} {id : NodeId} {node : Node} (h : g.get? id = some node) :
    node.id = id := by
  have hfound := List.find?_some h
  simpa using hfound

theorem get?_eq_none_iff {g : Graph} {id : NodeId} : g.get? id = none ↔ id ∉ g.ids := by
  unfold Graph.get? ids
  rw [List.find?_eq_none, List.mem_map]
  constructor
  · rintro h ⟨node, hnode, rfl⟩
    exact h node hnode (by simp)
  · intro h node hnode hid
    exact h ⟨node, hnode, by simpa using hid⟩

theorem mem_ids_of_get? {g : Graph} {id : NodeId} {node : Node} (h : g.get? id = some node) :
    id ∈ g.ids :=
  List.mem_map.2 ⟨node, mem_of_get? h, id_of_get? h⟩

theorem exists_get?_of_mem_ids {g : Graph} {id : NodeId} (h : id ∈ g.ids) :
    ∃ node, g.get? id = some node := by
  cases hget : g.get? id with
  | some node => exact ⟨node, rfl⟩
  | none => exact absurd h (get?_eq_none_iff.1 hget)

theorem has_iff_mem_ids {g : Graph} {id : NodeId} : g.has id = true ↔ id ∈ g.ids := by
  unfold Graph.has
  rw [Option.isSome_iff_exists]
  exact ⟨fun ⟨_, hget⟩ => mem_ids_of_get? hget, exists_get?_of_mem_ids⟩

theorem has_eq_false_iff {g : Graph} {id : NodeId} : g.has id = false ↔ id ∉ g.ids := by
  rw [← has_iff_mem_ids, Bool.not_eq_true]

/-- With ids that differ, a live node is the one found under its id. -/
theorem get?_of_mem {g : Graph} (hnodup : g.ids.Nodup) {node : Node} (h : node ∈ g.nodes) :
    g.get? node.id = some node := by
  obtain ⟨found, hfound⟩ := exists_get?_of_mem_ids (List.mem_map.2 ⟨node, h, rfl⟩)
  rw [hfound, List.inj_on_of_nodup_map hnodup (mem_of_get? hfound) h (id_of_get? hfound)]

theorem get?_map {g g' : Graph} (change : Node → Node) (hnodes : g'.nodes = g.nodes.map change)
    (hid : ∀ node, (change node).id = node.id) (id : NodeId) :
    g'.get? id = (g.get? id).map change := by
  unfold Graph.get?
  rw [hnodes, List.find?_map]
  congr 2
  funext node
  simp only [Function.comp_apply, hid]

/-! ## Changing one node -/

/-- The graph with other draws to come. -/
def withDraws (g : Graph) (draws : Draws) : Graph := { g with draws := draws }

/-- Nothing but the node with an id, and no more than its fields, differs between two graphs. -/
structure SameBut (id : NodeId) (g g' : Graph) : Prop where
  ids : g'.ids = g.ids
  retired : g'.retired = g.retired
  get? : ∀ other, other ≠ id → g'.get? other = g.get? other

theorem SameBut.trans {id : NodeId} {g g' g'' : Graph} (h : SameBut id g g') (h' : SameBut id g' g'') :
    SameBut id g g'' :=
  ⟨h'.ids.trans h.ids, h'.retired.trans h.retired,
    fun other hne => (h'.get? other hne).trans (h.get? other hne)⟩

section Alter

variable {g : Graph} {id : NodeId} (change : Node → Node)
variable (hid : ∀ node, (change node).id = node.id)

/-- What `alter` makes of each node. -/
def altered (g : Graph) (id : NodeId) (change : Node → Node) (node : Node) : Node :=
  if node.id = id then { change node with tick := g.clock + 1 } else node

theorem alter_nodes : (g.alter id change).nodes = g.nodes.map (g.altered id change) := rfl

theorem altered_congr {β : Type} (view : Node → β) (hview : ∀ node, view (change node) = view node)
    (htick : ∀ node tick, view { node with tick := tick } = view node) (node : Node) :
    view (g.altered id change node) = view node := by
  unfold altered
  split
  · exact (htick (change node) (g.clock + 1)).trans (hview node)
  · rfl

include hid in
theorem altered_id (node : Node) : (g.altered id change node).id = node.id :=
  altered_congr change Node.id hid (fun _ _ => rfl) node

include hid in
theorem ids_alter : (g.alter id change).ids = g.ids := by
  unfold ids
  rw [alter_nodes, List.map_map]
  exact List.map_congr_left fun node _ => altered_id change hid node

include hid in
theorem get?_alter (other : NodeId) :
    (g.alter id change).get? other = (g.get? other).map (g.altered id change) :=
  get?_map _ (alter_nodes change) (altered_id change hid) other

include hid in
theorem get?_alter_self {node : Node} (h : g.get? id = some node) :
    (g.alter id change).get? id = some { change node with tick := g.clock + 1 } := by
  rw [get?_alter change hid, h, Option.map_some, altered, if_pos (id_of_get? h)]

include hid in
theorem get?_alter_of_ne {other : NodeId} (hne : other ≠ id) :
    (g.alter id change).get? other = g.get? other := by
  rw [get?_alter change hid]
  cases hget : g.get? other with
  | none => rfl
  | some node =>
      rw [Option.map_some, altered, if_neg (fun he => hne ((id_of_get? hget).symm.trans he))]

include hid in
theorem sameBut_alter : SameBut id g (g.alter id change) :=
  ⟨ids_alter change hid, rfl, fun _ hne => get?_alter_of_ne change hid hne⟩

end Alter

/-! ## What the changes of one node come to -/

theorem edit_eq_ok_iff {g g' : Graph} {id : NodeId} {edits : List Edit} :
    g.edit id edits = .ok g' ↔ id ∈ g.ids ∧ g' = g.alter id (·.applyAll edits) := by
  unfold Graph.edit
  rw [← has_iff_mem_ids]
  split
  · next hhas => simp [hhas, eq_comm]
  · next hhas => simp [hhas]

/-- A run can be begun of a live node that is not running; it takes its name from the next draw. -/
theorem begin_eq_ok_iff {g g' : Graph} {id : NodeId} :
    g.begin id = .ok g' ↔
      ∃ node, g.get? id = some node ∧ node.status ≠ .running ∧
        g' = (g.withDraws g.draws.next.2).alter id (Node.begun g.draws.next.1) := by
  unfold Graph.begin Node.begun withDraws
  cases hget : g.get? id with
  | none => simp
  | some node =>
      simp only [Status.running_mem_next_iff, Option.some.injEq, exists_eq_left']
      split
      · next h => simp [h, eq_comm]
      · next h => simp [h]

theorem setStatus_eq_ok_iff {g g' : Graph} {id : NodeId} {status : Status}
    {failure : Option Failure} :
    g.setStatus id status failure = .ok g' ↔
      ∃ node, g.get? id = some node ∧ status ∈ node.status.next ∧
        g' = g.alter id (Node.moved status failure) := by
  unfold Graph.setStatus Node.moved
  cases hget : g.get? id with
  | none => simp
  | some node =>
      simp only [Option.some.injEq, exists_eq_left']
      split
      · next h => simp [h, eq_comm]
      · next h => simp [h]

section

variable {g g' : Graph} {id : NodeId}

theorem sameBut_of_edit {edits : List Edit} (h : g.edit id edits = .ok g') : SameBut id g g' := by
  obtain ⟨_, rfl⟩ := edit_eq_ok_iff.1 h
  exact sameBut_alter _ fun node => node.applyAll_id _

theorem sameBut_of_begin (h : g.begin id = .ok g') : SameBut id g g' := by
  obtain ⟨_, _, _, rfl⟩ := begin_eq_ok_iff.1 h
  have hdraws : SameBut id g (g.withDraws g.draws.next.2) := ⟨rfl, rfl, fun _ _ => rfl⟩
  exact hdraws.trans (sameBut_alter (Node.begun _) fun _ => rfl)

theorem sameBut_of_setStatus {status : Status} {failure : Option Failure}
    (h : g.setStatus id status failure = .ok g') : SameBut id g g' := by
  obtain ⟨_, _, _, rfl⟩ := setStatus_eq_ok_iff.1 h
  exact sameBut_alter (Node.moved _ _) fun _ => rfl

/-- The node of which a run begins was not running; it is now, under the next name. -/
theorem get?_of_begin (h : g.begin id = .ok g') :
    ∃ before node, g.get? id = some before ∧ before.status ≠ .running ∧ g'.get? id = some node ∧
      node.status = .running ∧ node.generation = some g.draws.next.1 := by
  obtain ⟨before, hbefore, hstatus, rfl⟩ := begin_eq_ok_iff.1 h
  exact ⟨before, _, hbefore, hstatus, get?_alter_self (Node.begun _) (fun _ => rfl) hbefore, rfl, rfl⟩

/-- The node that moves to a status has it; its generation is as it was. -/
theorem get?_of_setStatus {status : Status} {failure : Option Failure}
    (h : g.setStatus id status failure = .ok g') :
    ∃ before node, g.get? id = some before ∧ status ∈ before.status.next ∧ g'.get? id = some node ∧
      node.status = status ∧ node.generation = before.generation := by
  obtain ⟨before, hbefore, hnext, rfl⟩ := setStatus_eq_ok_iff.1 h
  exact ⟨before, _, hbefore, hnext, get?_alter_self (Node.moved _ _) (fun _ => rfl) hbefore, rfl, rfl⟩

theorem get?_of_edit {edits : List Edit} (h : g.edit id edits = .ok g') :
    ∃ before node, g.get? id = some before ∧ g'.get? id = some node ∧ node.status = before.status ∧
      node.generation = before.generation := by
  obtain ⟨hlive, rfl⟩ := edit_eq_ok_iff.1 h
  obtain ⟨before, hbefore⟩ := exists_get?_of_mem_ids hlive
  exact ⟨before, _, hbefore, get?_alter_self (·.applyAll edits) (fun n => n.applyAll_id _) hbefore,
    before.applyAll_status _, before.applyAll_generation _⟩

end

end Graph

end PromptCanvas
