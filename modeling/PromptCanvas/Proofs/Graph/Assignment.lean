import PromptCanvas.Graph.Assignment
import PromptCanvas.Proofs.Graph.Operation

set_option autoImplicit false

/-! # What an update assigns

Writing an edit to a node and then looking at the field gives the edit back, and other fields are as they
were. So an update that goes through leaves in each named field what was read from its value. Every value that
a node can hold passes its own check and comes out the same. This is why the second pass of an update cannot
fail, and why it ends with the copy that the first pass has made. -/

namespace PromptCanvas

open Checked

/-! ## What a node holds -/

theorem Field.ofName?_name (field : Field) : Field.ofName? field.name = some field := by
  cases field <;> decide

namespace Node

variable (node : Node)

@[simp]
theorem field_held (field : Field) : (node.held field).field = field := by
  cases field <;> rfl

@[simp]
theorem held_apply_self (edit : Edit) : (node.apply edit).held edit.field = edit := by
  cases edit <;> rfl

theorem held_apply_of_ne {edit : Edit} {field : Field} (h : edit.field ≠ field) :
    (node.apply edit).held field = node.held field := by
  cases edit <;> cases field <;> first | rfl | exact absurd rfl h

theorem held_tick (tick : Nat) (field : Field) : { node with tick := tick }.held field = node.held field := by
  cases field <;> rfl

/-- The node without all that edits can write. -/
def bare (node : Node) : Node :=
  { id := node.id, kind := node.kind, parent := node.parent, status := node.status, failure := node.failure,
    generation := node.generation, created := node.created, tick := node.tick }

@[simp]
theorem bare_applyAll (edits : List Edit) : (node.applyAll edits).bare = node.bare :=
  applyAll_congr Node.bare node edits fun edit _ n => by cases edit <;> rfl

theorem applyAll_held : node.bare.applyAll (Field.all.map node.held) = node := by
  cases node with
  | mk => rfl

variable {node}

/-- Nodes are the same if they are so bare and hold the same. -/
theorem ext_of_held {other : Node} (hbare : node.bare = other.bare)
    (hheld : ∀ field, node.held field = other.held field) : node = other := by
  rw [← node.applyAll_held, ← other.applyAll_held, hbare, funext hheld]

theorem held_applyAll_of_forall_ne {edits : List Edit} {field : Field}
    (h : ∀ edit ∈ edits, edit.field ≠ field) : (node.applyAll edits).held field = node.held field :=
  applyAll_congr (fun n => n.held field) node edits fun edit hedit n => n.held_apply_of_ne (h edit hedit)

/-- Of edits whose fields differ, each is held in its field afterwards. -/
theorem held_applyAll_of_mem {edits : List Edit} {edit : Edit} (hnodup : (edits.map Edit.field).Nodup)
    (hedit : edit ∈ edits) : (node.applyAll edits).held edit.field = edit := by
  induction edits generalizing node with
  | nil => exact absurd hedit List.not_mem_nil
  | cons first rest ih =>
      rw [List.map_cons, List.nodup_cons] at hnodup
      obtain ⟨hnotin, hnodup⟩ := hnodup
      rcases List.mem_cons.1 hedit with rfl | hrest
      · have hother : ∀ later ∈ rest, later.field ≠ edit.field :=
          fun later hlater he => hnotin (he ▸ List.mem_map_of_mem hlater)
        exact (held_applyAll_of_forall_ne hother).trans (node.held_apply_self edit)
      · exact ih hnodup hrest

/-- What a copy holds in some fields is held there afterwards, and elsewhere what was held before. -/
theorem held_applyAll_map_held (copy : Node) (fields : List Field) (field : Field) :
    (node.applyAll (fields.map copy.held)).held field
      = if field ∈ fields then copy.held field else node.held field := by
  induction fields generalizing node with
  | nil => simp [applyAll]
  | cons first rest ih =>
      have hstep : node.applyAll ((first :: rest).map copy.held)
          = (node.apply (copy.held first)).applyAll (rest.map copy.held) := rfl
      rw [hstep, ih]
      by_cases hrest : field ∈ rest
      · rw [if_pos hrest, if_pos (List.mem_cons_of_mem first hrest)]
      · rw [if_neg hrest]
        by_cases hfirst : field = first
        · subst hfirst
          have hself := node.held_apply_self (copy.held field)
          rw [field_held] at hself
          rw [hself, if_pos List.mem_cons_self]
        · have hne : (copy.held first).field ≠ field := by
            rw [field_held]
            exact fun he => hfirst he.symm
          rw [node.held_apply_of_ne hne, if_neg (by simp [hfirst, hrest])]

end Node

/-! ## Checking again -/

namespace Value

@[simp]
theorem text?_ofText? (value : Option String) : text? (.ofText? value) = .ok value := by
  cases value <;> rfl

@[simp]
theorem reals_floats (table : Table Writing Binary64) :
    reals (.obj (table.map fun entry => (entry.1, .float entry.2))) = .ok table := by
  unfold reals object andThen
  rw [all_eq_ok_iff, List.map_map]
  rfl

end Value

/-- Every value that an edit can write passes its own check, and comes out the same. -/
@[simp]
theorem Edit.recheck_eq (edit : Edit) : edit.recheck = .ok edit := by
  cases edit with
  | basePrompt | customText | prompt | script | enhancedPrompt | inputRef | inputMimeType | outputRef
  | textOutput | position =>
      simp [Edit.recheck, Edit.value?, Edit.read, Edit.check, Edit.field, Checked.map, Checked.under]
  | aspectRatio | videoComplete | touched | metadata => rfl

/-! ## The two passes -/

/-- An edit that an entry of updates asks for: the one that its value is read as for the named field. -/
def Edit.Answers (edit : Edit) (entry : Writing × Json) : Prop :=
  entry.1 = edit.field.name ∧ Edit.read edit.field entry.2 = .ok edit

namespace Graph

variable {updates rest : Json.Fields} {edits : List Edit} {edit : Edit} {entry : Writing × Json}

theorem exists_field_of_refusedNames (h : refusedNames updates = none) (hentry : entry ∈ updates) :
    ∃ field, Field.ofName? entry.1 = some field := by
  unfold refusedNames at h
  simp only at h
  split at h
  · simp at h
  · split at h
    · simp at h
    · split at h
      · simp at h
      · next hunknown =>
          rw [not_not, List.filter_eq_nil_iff] at hunknown
          have hknown := hunknown entry.1 (List.mem_map_of_mem hentry)
          rwa [Option.isNone_iff_eq_none, ← ne_eq, Option.ne_none_iff_exists'] at hknown

theorem updateEdits_cons (h : edit.Answers entry) :
    updateEdits (entry :: rest) = (updateEdits rest).map (edit :: ·) := by
  obtain ⟨name, value⟩ := entry
  obtain ⟨rfl, hread⟩ := h
  simp only [updateEdits, Field.ofName?_name, hread]

theorem exists_updateEdits (hfit : ∀ entry ∈ updates, ∃ edit : Edit, edit.Answers entry) :
    ∃ edits, updateEdits updates = .ok edits := by
  induction updates with
  | nil => exact ⟨[], rfl⟩
  | cons entry rest ih =>
      obtain ⟨⟨edit, hedit⟩, hrest⟩ := List.forall_mem_cons.1 hfit
      obtain ⟨edits, hedits⟩ := ih hrest
      exact ⟨edit :: edits, by rw [updateEdits_cons hedit, hedits]; rfl⟩

/-- The edits for updates of known fields are asked for by the entries, one by each. -/
theorem forall₂_of_updateEdits (hknown : ∀ entry ∈ updates, ∃ field, Field.ofName? entry.1 = some field)
    (h : updateEdits updates = .ok edits) : List.Forall₂ Edit.Answers edits updates := by
  induction updates generalizing edits with
  | nil =>
      rw [updateEdits, Except.ok.injEq] at h
      exact h ▸ .nil
  | cons entry rest ih =>
      obtain ⟨⟨field, hfield⟩, hrestKnown⟩ := List.forall_mem_cons.1 hknown
      obtain ⟨name, value⟩ := entry
      simp only [updateEdits, hfield] at h
      cases hread : Edit.read field value with
      | faulty faults => simp [hread] at h
      | ok edit =>
          simp only [hread] at h
          cases hrest : updateEdits rest with
          | error r => simp [hrest, Except.map] at h
          | ok edits =>
              rw [hrest, Except.map, Except.ok.injEq] at h
              obtain rfl := Edit.field_of_read hread
              exact h ▸ .cons ⟨Field.name_of_ofName? hfield, hread⟩ (ih hrestKnown hrest)

theorem namedFields_eq (h : List.Forall₂ Edit.Answers edits updates) :
    namedFields updates = edits.map Edit.field := by
  induction h with
  | nil => rfl
  | @cons edit entry edits updates hedit _ ih =>
      have hname : Field.ofName? entry.1 = some edit.field := by rw [hedit.1, Field.ofName?_name]
      show (entry.1 :: Table.keys updates).filterMap Field.ofName? = edit.field :: edits.map Edit.field
      rw [List.filterMap_cons_some hname, ← ih]
      rfl

theorem keys_eq (h : List.Forall₂ Edit.Answers edits updates) :
    Table.keys updates = (edits.map Edit.field).map fun field => .whole field.name := by
  induction h with
  | nil => rfl
  | @cons edit entry edits updates hedit _ ih =>
      show entry.1 :: Table.keys updates = _
      rw [hedit.1, ih]
      rfl

theorem exists_answers (h : List.Forall₂ Edit.Answers edits updates) (hentry : entry ∈ updates) :
    ∃ edit ∈ edits, edit.Answers entry := by
  induction h with
  | nil => exact absurd hentry List.not_mem_nil
  | @cons first entry' edits updates hfirst _ ih =>
      rcases List.mem_cons.1 hentry with rfl | hrest
      · exact ⟨first, List.mem_cons_self, hfirst⟩
      · obtain ⟨edit, hedit, hanswers⟩ := ih hrest
        exact ⟨edit, List.mem_cons_of_mem first hedit, hanswers⟩

end Graph

namespace Node

/-- The first pass makes the edits for the updates, or breaks off for the reason for which there are none. -/
theorem assign_eq (node : Node) (updates : Json.Fields) :
    match Graph.updateEdits updates with
    | .ok edits => node.assign updates = (none, node.applyAll edits)
    | .error r => (node.assign updates).1 = some r := by
  induction updates generalizing node with
  | nil => rfl
  | cons entry rest ih =>
      obtain ⟨name, value⟩ := entry
      cases hfield : Field.ofName? name with
      | none =>
          simp only [Graph.updateEdits, assign, hfield]
          exact ih node
      | some field =>
          cases hread : Edit.read field value with
          | faulty faults => simp only [Graph.updateEdits, assign, hfield, hread]
          | ok edit =>
              have hrest := ih (node.apply edit)
              simp only [Graph.updateEdits, assign, hfield, hread]
              cases hedits : Graph.updateEdits rest with
              | error r =>
                  simp only [hedits] at hrest
                  exact hrest
              | ok edits =>
                  simp only [hedits] at hrest
                  exact hrest

/-- The second pass never breaks off. -/
theorem assignFrom_eq (copy node : Node) (fields : List Field) :
    copy.assignFrom node fields = (none, node.applyAll (fields.map copy.held)) := by
  induction fields generalizing node with
  | nil => rfl
  | cons field rest ih =>
      simp only [assignFrom, Edit.recheck_eq]
      rw [ih]
      rfl

/-- The second pass ends with the copy that the first pass has made. -/
theorem assignFrom_of_assign {node copy : Node} {updates : Json.Fields}
    (hknown : ∀ entry ∈ updates, ∃ field, Field.ofName? entry.1 = some field)
    (h : node.assign updates = (none, copy)) :
    copy.assignFrom node (Graph.namedFields updates) = (none, copy) := by
  have hassign := node.assign_eq updates
  cases hedits : Graph.updateEdits updates with
  | error r => simp [hedits, h] at hassign
  | ok edits =>
      simp only [hedits, h, Prod.mk.injEq, true_and] at hassign
      subst hassign
      have hfields := Graph.namedFields_eq (Graph.forall₂_of_updateEdits hknown hedits)
      rw [assignFrom_eq, hfields, Prod.mk.injEq]
      refine ⟨rfl, ext_of_held (by simp) fun field => ?_⟩
      rw [held_applyAll_map_held]
      split
      · rfl
      · next hother =>
          have hne : ∀ edit ∈ edits, edit.field ≠ field := by
            rintro edit hedit rfl
            exact hother (List.mem_map_of_mem hedit)
          exact (held_applyAll_of_forall_ne hne).symm

end Node

/-! ## Updates -/

namespace Node

/-- What an update makes of a node: each named field holds what was read from its value, and all else is as it
    was, but for the time of the last change. -/
structure Updated (updates : Json.Fields) (node after : Node) : Prop where
  named : ∀ name value, (name, value) ∈ updates →
    ∃ field, Field.ofName? name = some field ∧ Edit.read field value = .ok (after.held field)
  unnamed : ∀ field : Field, .whole field.name ∉ Table.keys updates → after.held field = node.held field
  bare : after.bare = { node.bare with tick := after.tick }

end Node

namespace Graph

variable {g g' : Graph} {id : NodeId} {node : Node} {updates : Json.Fields}

theorem update_eq_ok_iff :
    g.update id updates = .ok g' ↔
      ∃ edits, id ∈ g.ids ∧ refusedNames updates = none ∧ updateEdits updates = .ok edits ∧
        g' = g.alter id (·.applyAll edits) := by
  unfold Graph.update
  rw [← has_iff_mem_ids]
  split
  · next hhas =>
      cases hnames : refusedNames updates with
      | some r => simp
      | none =>
          cases hedits : updateEdits updates with
          | error r => simp
          | ok edits => simp [Graph.edit, hhas, eq_comm]
  · next hhas => simp [hhas]

/-- An update is accepted where the node lives, no name is refused, and every value fits. -/
theorem exists_update_iff :
    (∃ g', g.update id updates = .ok g') ↔
      g.has id = true ∧ refusedNames updates = none ∧
        ∀ entry ∈ updates, ∃ edit : Edit, edit.Answers entry := by
  simp only [update_eq_ok_iff, has_iff_mem_ids]
  constructor
  · rintro ⟨_, edits, hid, hnames, hedits, _⟩
    have hall := forall₂_of_updateEdits (fun _ => exists_field_of_refusedNames hnames) hedits
    refine ⟨hid, hnames, fun entry hentry => ?_⟩
    obtain ⟨edit, _, hanswers⟩ := exists_answers hall hentry
    exact ⟨edit, hanswers⟩
  · rintro ⟨hid, hnames, hfit⟩
    obtain ⟨edits, hedits⟩ := exists_updateEdits hfit
    exact ⟨_, edits, hid, hnames, hedits, rfl⟩

/-- With ids that differ, a change of a live node is the same as another that makes the same of it. -/
theorem alter_congr (hnodup : g.ids.Nodup) (hnode : g.get? id = some node) {change change' : Node → Node}
    (h : change node = change' node) : g.alter id change = g.alter id change' := by
  have hmap : g.nodes.map (g.altered id change) = g.nodes.map (g.altered id change') := by
    refine List.map_congr_left fun other hother => ?_
    unfold altered
    split
    · next hid =>
        obtain rfl : other = node :=
          Option.some.inj ((get?_of_mem hnodup hother).symm.trans (hid ▸ hnode))
        rw [h]
    · rfl
  have halter : ∀ change : Node → Node,
      g.alter id change = { g with clock := g.clock + 1, nodes := g.nodes.map (g.altered id change) } :=
    fun _ => rfl
  rw [halter, halter, hmap]

theorem alter_eq_of_get? (hnodup : g.ids.Nodup) (hnode : g.get? id = some node) (change : Node → Node) :
    g.alter id change = { g with
      clock := g.clock + 1
      nodes := g.nodes.map fun other =>
        if other.id = id then { change node with tick := g.clock + 1 } else other } :=
  alter_congr hnodup hnode rfl

/-- To assign in two passes is to update: what is refused, and why, and what is left behind are the same. -/
theorem assign_eq_update (hnodup : g.ids.Nodup) :
    g.assign id updates =
      match g.update id updates with
      | .ok g' => (none, g')
      | .error r => (some r, g) := by
  unfold Graph.assign Graph.update Graph.has
  cases hnode : g.get? id with
  | none => rfl
  | some node =>
      simp only [Option.isSome_some, if_true]
      cases hnames : refusedNames updates with
      | some r => rfl
      | none =>
          have hassign := node.assign_eq updates
          cases hedits : updateEdits updates with
          | error r =>
              cases hfirst : node.assign updates with
              | mk refusal copy =>
                  simp only [hedits, hfirst] at hassign
                  simp only [hassign]
          | ok edits =>
              simp only [hedits] at hassign
              have hknown : ∀ entry ∈ updates, ∃ field, Field.ofName? entry.1 = some field :=
                fun _ hentry => exists_field_of_refusedNames hnames hentry
              have halter : g.alter id (fun _ => node.applyAll edits) = g.alter id (·.applyAll edits) :=
                alter_congr hnodup hnode rfl
              have hedit : g.edit id edits = .ok (g.alter id (·.applyAll edits)) :=
                edit_eq_ok_iff.2 ⟨mem_ids_of_get? hnode, rfl⟩
              simp only [hassign, Node.assignFrom_of_assign hknown hassign, halter, hedit]

/-- The two passes go through exactly where the update is accepted. -/
theorem assign_accepted_iff (hnodup : g.ids.Nodup) :
    (g.assign id updates).1 = none ↔ ∃ g', g.update id updates = .ok g' := by
  rw [assign_eq_update hnodup]
  cases g.update id updates <;> simp

/-- An update that is accepted changes the one node as `Updated` says, and nothing else. -/
theorem updated_of_update (hnodup : g.ids.Nodup) (hkeys : (Table.keys updates).Nodup)
    (h : g.update id updates = .ok g') :
    ∃ node after, g.get? id = some node ∧ node.Updated updates after ∧
      g' = { g with
        clock := g.clock + 1
        nodes := g.nodes.map fun other => if other.id = id then after else other } := by
  obtain ⟨edits, hid, hnames, hedits, rfl⟩ := update_eq_ok_iff.1 h
  obtain ⟨node, hnode⟩ := exists_get?_of_mem_ids hid
  have hall := forall₂_of_updateEdits (fun _ => exists_field_of_refusedNames hnames) hedits
  have hfields : (edits.map Edit.field).Nodup := by
    rw [keys_eq hall] at hkeys
    exact hkeys.of_map _
  refine ⟨node, { node.applyAll edits with tick := g.clock + 1 }, hnode, ⟨?named, ?unnamed, ?bare⟩, ?graph⟩
  case named =>
    intro name value hentry
    obtain ⟨edit, hedit, hname, hread⟩ := exists_answers hall hentry
    refine ⟨edit.field, (congrArg Field.ofName? hname).trans edit.field.ofName?_name, ?_⟩
    rw [Node.held_tick, Node.held_applyAll_of_mem hfields hedit, hread]
  case unnamed =>
    intro field hfield
    rw [Node.held_tick]
    refine Node.held_applyAll_of_forall_ne ?_
    rintro edit hedit rfl
    rw [keys_eq hall] at hfield
    exact hfield (List.mem_map_of_mem (List.mem_map_of_mem hedit))
  case bare =>
    show { (node.applyAll edits).bare with tick := g.clock + 1 } = _
    rw [node.bare_applyAll]
  case graph => exact alter_eq_of_get? hnodup hnode (·.applyAll edits)

end Graph

end PromptCanvas
