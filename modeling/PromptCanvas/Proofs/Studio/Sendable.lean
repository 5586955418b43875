import PromptCanvas.Proofs.Studio.Frame
import PromptCanvas.Proofs.Validation.Sendable

set_option autoImplicit false

/-! # What nodes can tell

As long as all that comes in can be sent back, so can all that nodes hold, the failures of their runs aside: they
stand at finite numbers, and their metadata can be written. Only updates and additions write positions and
metadata. The message of a failure comes from the service, and may be torn. -/

namespace PromptCanvas

/-! ## One node -/

/-- What an edit writes can be sent back. Texts always can. -/
def Edit.Sendable : Edit → Prop
  | .position value => ∀ entry ∈ value, entry.2.isFinite = true
  | .metadata fields => (Json.obj fields).isSendable = true
  | _ => True

theorem Edit.sendable_of_not_mem {edit : Edit} (h : edit.field ∉ [.position, .metadata]) : edit.Sendable := by
  cases edit with
  | position | metadata => simp [Edit.field] at h
  | basePrompt | customText | prompt | script | enhancedPrompt | aspectRatio | inputRef | inputMimeType
  | outputRef | textOutput | videoComplete | touched => trivial

theorem Edit.sendable_of_read {edit : Edit} {value : Json} (hread : Edit.read edit.field value = .ok edit)
    (h : value.isSendable = true) (hplaces : edit.field = .position → value.placesFinite = true) :
    edit.Sendable := by
  rw [Edit.read, Checked.under_eq_ok_iff] at hread
  by_cases hfield : edit.field ∈ [.position, .metadata]
  · simp only [List.mem_cons, List.not_mem_nil, or_false] at hfield
    rcases hfield with hposition | hmetadata
    · rw [hposition, Edit.check, Checked.map_eq_ok_iff] at hread
      obtain ⟨position, hreals, rfl⟩ := hread
      exact fun entry hentry => (Value.sendable_of_reals h (hplaces rfl) hreals entry hentry).2
    · rw [hmetadata, Edit.check, Checked.map_eq_ok_iff] at hread
      obtain ⟨fields, hobject, rfl⟩ := hread
      rw [Value.eq_obj_of_object hobject] at h
      exact h
  · exact sendable_of_not_mem hfield

theorem Edit.sendable_of_mem {edit : Edit} {fields : Json.Fields} {value : Json}
    (h : Json.givesSendable fields = true) (hmem : (Writing.whole edit.field.name, value) ∈ fields)
    (hread : Edit.read edit.field value = .ok edit) : edit.Sendable := by
  refine sendable_of_read hread (Json.isSendable_of_mem h hmem) fun hfield => ?_
  rw [hfield] at hmem
  exact Json.placesFinite_of_mem h hmem

namespace Node

variable {node : Node}

/-- What a node holds can be sent back, its failure aside. -/
structure Sendable (node : Node) : Prop where
  position : ∀ entry ∈ node.position, entry.2.isFinite = true
  metadata : (Json.obj node.metadata).isSendable = true

theorem Sendable.applyAll {edits : List Edit} (h : node.Sendable) (hedits : ∀ edit ∈ edits, edit.Sendable) :
    (node.applyAll edits).Sendable := by
  induction edits generalizing node with
  | nil => exact h
  | cons edit rest ih =>
      obtain ⟨hedit, hrest⟩ := List.forall_mem_cons.1 hedits
      have happly : (node.apply edit).Sendable := by
        cases edit with
        | position => exact ⟨hedit, h.metadata⟩
        | metadata => exact ⟨h.position, hedit⟩
        | basePrompt | customText | prompt | script | enhancedPrompt | aspectRatio | inputRef | inputMimeType
        | outputRef | textOutput | videoComplete | touched => exact ⟨h.position, h.metadata⟩
      exact ih happly hrest

/-- The message of a failure of the node is torn. -/
def IsTorn (node : Node) : Prop := ∃ failure, node.failure = some failure ∧ failure.message.isWhole = false

/-- What such a node tells can be written, unless the message of its failure is torn. -/
theorem Sendable.told (h : node.Sendable) {value : Json} (hvalue : value ∈ node.told) :
    value.isSendable = true ∨ ∃ failure, node.failure = some failure ∧ value = failure.toJson := by
  simp only [Node.told, List.mem_cons, List.not_mem_nil, or_false] at hvalue
  rcases hvalue with rfl | rfl | rfl
  · cases node.failure with
    | none => exact Or.inl rfl
    | some failure => exact Or.inr ⟨failure, rfl, rfl⟩
  · refine Or.inl (Json.isSendable_obj_iff.2 fun entry hentry => ?_)
    obtain ⟨told, htold, rfl⟩ := List.mem_map.1 hentry
    obtain ⟨given, hgiven, heq⟩ := Json.exists_of_mem_mended htold
    have hfinite : told.2.isFinite = true := heq ▸ h.position given hgiven
    exact ⟨rfl, by simp [Json.isSendable, Json.parts, Json.numberFlaw?, Json.isTorn, hfinite]⟩
  · exact Or.inl (Json.isSendable_presented _ h.metadata)

end Node

namespace Graph

variable {g g' : Graph}

/-- What all nodes hold can be sent back, their failures aside. -/
def Sendable (g : Graph) : Prop := ∀ node ∈ g.nodes, node.Sendable

theorem Sendable.alter (h : g.Sendable) (id : NodeId) {change : Node → Node}
    (hchange : ∀ node : Node, node.Sendable → (change node).Sendable) : (g.alter id change).Sendable := by
  intro node hnode
  rw [alter_nodes, List.mem_map] at hnode
  obtain ⟨before, hbefore, rfl⟩ := hnode
  unfold altered
  split
  · have hchanged := hchange before (h before hbefore)
    exact ⟨hchanged.position, hchanged.metadata⟩
  · exact h before hbefore

theorem sendable_newcomer {id : NodeId} {kind : NodeKind} {aspectRatio : String} {parent : Option Node}
    {edits : List Edit} {created : Nat} (hedits : ∀ edit ∈ edits, edit.Sendable) :
    (newcomer id kind aspectRatio parent edits created).Sendable := by
  unfold newcomer
  refine Node.Sendable.applyAll ?_ fun edit hedit => ?_
  · -- without a given position a node stands at the origin
    refine ⟨fun entry hentry => ?_, rfl⟩
    simp only [List.mem_cons, List.not_mem_nil, or_false] at hentry
    rcases hentry with rfl | rfl <;> rfl
  · rcases List.mem_append.1 hedit with hseed | hgiven
    · unfold seeds at hseed
      split at hseed
      · split at hseed
        · simp only [List.mem_cons, List.not_mem_nil, or_false] at hseed
          rcases hseed with rfl | rfl <;> trivial
        · exact absurd hseed List.not_mem_nil
      · exact absurd hseed List.not_mem_nil
    · exact hedits edit hgiven

theorem Sendable.add (h : g.Sendable) (aspectRatio : String) (kind : Json) (parent : Option NodeId)
    {fields : Json.Fields} (hgiven : Json.givesSendable fields = true) :
    (g.add aspectRatio kind parent fields).2.Sendable := by
  rcases g.add_cases aspectRatio kind parent fields with ⟨r, draws, heq⟩ |
    ⟨fresh, slug, found, edits, draws, _, _, hedits, heq⟩
  · rw [heq]
    exact h
  · rw [heq]
    intro node hnode
    rw [nodes_attach, List.mem_append, List.mem_singleton] at hnode
    rcases hnode with hnode | rfl
    · exact h node hnode
    · refine sendable_newcomer fun edit hedit => ?_
      obtain ⟨value, hvalue, hread⟩ := read_of_mem_givenEdits hedits edit hedit
      exact Edit.sendable_of_mem hgiven (Table.mem_of_get? hvalue) hread

end Graph

/-! ## A studio -/

namespace Studio

variable {studio : Studio}

end Studio

end PromptCanvas
