import PromptCanvas.Proofs.Graph.Inheritance
import PromptCanvas.Proofs.Validation.Checked

set_option autoImplicit false

/-! # The paths of operations on a graph

Each operation on a graph, whether it succeeds or is refused, is a path of changes. What it adds, that it
leaves executions alone, and that it is orderly where its caller gives no artifacts is said once here. -/

namespace PromptCanvas

/-! ## Edits from given values -/

theorem Field.name_of_ofName? {name : Writing} {field : Field}
    (h : Field.ofName? name = some field) : name = field.name := by
  unfold Field.ofName? at h
  have hfound := List.find?_some h
  exact of_decide_eq_true hfound

theorem Edit.field_of_read {field : Field} {value : Json} {edit : Edit}
    (h : Edit.read field value = .ok edit) : edit.field = field := by
  rw [Edit.read, Checked.under_eq_ok_iff] at h
  cases field <;>
    · obtain ⟨_, _, rfl⟩ := Checked.map_eq_ok_iff.1 h
      rfl

namespace Graph

/-- The edits for given fields are read from what is given for their fields. -/
theorem read_of_mem_givenEdits {fields : Json.Fields} {edits : List Edit}
    (h : givenEdits fields = .ok edits) :
    ∀ edit ∈ edits, ∃ value, fields.get? edit.field.name = some value ∧
      Edit.read edit.field value = .ok edit := by
  intro edit hedit
  have hmem : Checked.ok edit ∈ edits.map Checked.ok := List.mem_map_of_mem hedit
  rw [← Checked.all_eq_ok_iff.1 h, List.mem_filterMap] at hmem
  obtain ⟨field, _, hfield⟩ := hmem
  obtain ⟨value, hvalue, hread⟩ := Option.map_eq_some_iff.1 hfield
  refine ⟨value, ?_⟩
  rw [Edit.field_of_read hread]
  exact ⟨hvalue, hread⟩

theorem has_of_mem_givenEdits {fields : Json.Fields} {edits : List Edit}
    (h : givenEdits fields = .ok edits) : ∀ edit ∈ edits, fields.has edit.field.name = true := by
  intro edit hedit
  obtain ⟨value, hvalue, _⟩ := read_of_mem_givenEdits h edit hedit
  rw [Table.has, hvalue, Option.isSome_some]

/-- The edits for updates are read from the values of their fields. -/
theorem read_of_mem_updateEdits {updates : Json.Fields} {edits : List Edit}
    (h : updateEdits updates = .ok edits) :
    ∀ edit ∈ edits, ∃ value, (Writing.whole edit.field.name, value) ∈ updates ∧
      Edit.read edit.field value = .ok edit := by
  induction updates generalizing edits with
  | nil =>
      rw [updateEdits, Except.ok.injEq] at h
      subst h
      simp
  | cons entry rest ih =>
      obtain ⟨name, value⟩ := entry
      rw [updateEdits] at h
      cases hfield : Field.ofName? name with
      | none =>
          rw [hfield] at h
          intro edit hedit
          obtain ⟨given, hgiven, hread⟩ := ih h edit hedit
          exact ⟨given, List.mem_cons_of_mem _ hgiven, hread⟩
      | some field =>
          simp only [hfield] at h
          cases hread : Edit.read field value with
          | faulty faults => simp [hread] at h
          | ok first =>
              simp only [hread] at h
              cases hrest : updateEdits rest with
              | error r => simp [hrest, Except.map] at h
              | ok tail =>
                  rw [hrest, Except.map, Except.ok.injEq] at h
                  subst h
                  intro edit hedit
                  rcases List.mem_cons.1 hedit with rfl | htail
                  · refine ⟨value, ?_, ?_⟩
                    · rw [Edit.field_of_read hread, ← Field.name_of_ofName? hfield]
                      exact List.mem_cons_self
                    · rw [Edit.field_of_read hread, hread]
                  · obtain ⟨given, hgiven, hread⟩ := ih hrest edit htail
                    exact ⟨given, List.mem_cons_of_mem _ hgiven, hread⟩

theorem has_of_mem_updateEdits {updates : Json.Fields} {edits : List Edit}
    (h : updateEdits updates = .ok edits) : ∀ edit ∈ edits, updates.has edit.field.name = true := by
  intro edit hedit
  obtain ⟨value, hvalue, _⟩ := read_of_mem_updateEdits h edit hedit
  exact Table.has_of_mem updates _ hvalue

/-! ## Adding -/

variable {g : Graph}

theorem unused_of_freshFrom {fuel : Nat} {draws rest : Draws} {id : NodeId}
    (h : g.freshFrom fuel draws = some (id, rest)) : g.unused id = true := by
  induction fuel generalizing draws with
  | zero => simp [freshFrom] at h
  | succ fuel ih =>
      simp only [freshFrom] at h
      split at h
      · next hunused =>
          rw [Option.some.injEq, Prod.mk.injEq] at h
          exact h.1 ▸ hunused
      · exact ih h

theorem mem_of_parentFor {parent : Option NodeId} {node : Node}
    (h : g.parentFor parent = .ok (some node)) : node ∈ g.nodes := by
  unfold Graph.parentFor at h
  split at h
  · simp at h
  · split at h
    · simp at h
    · split at h
      · next found hfound =>
          rw [Except.ok.injEq, Option.some.injEq] at h
          exact h ▸ mem_of_get? hfound
      · split at h <;> simp at h

/-- A node to be added at a time: idle, below the given parent, with what it takes over and the given
    edits. -/
def newcomer (id : NodeId) (kind : NodeKind) (aspectRatio : String) (parent : Option Node)
    (edits : List Edit) (created : Nat) : Node :=
  ({ id := id, kind := kind, parent := parent.map Node.id, aspectRatio := aspectRatio,
     created := created } : Node).applyAll (seeds parent ++ edits)

/-- An addition is refused, at most at the cost of draws, or adds a newcomer with a fresh id below a live
    parent or none. -/
theorem add_cases (g : Graph) (aspectRatio : String) (kind : Json) (parent : Option NodeId)
    (fields : Json.Fields) :
    (∃ r draws, g.add aspectRatio kind parent fields = (.error r, g.withDraws draws)) ∨
      ∃ id slug found edits draws,
        g.freshId? = some (id, draws) ∧ (∀ node, found = some node → node ∈ g.nodes) ∧
          givenEdits fields = .ok edits ∧
          g.add aspectRatio kind parent fields
            = (.ok (newcomer id slug aspectRatio found edits g.clock),
              (g.withDraws draws).attach (newcomer id slug aspectRatio found edits g.clock)) := by
  unfold Graph.add
  split
  · exact Or.inl ⟨_, g.draws, rfl⟩
  · split
    · exact Or.inl ⟨_, g.draws, rfl⟩
    · next slug _ =>
        split
        · exact Or.inl ⟨_, g.draws, rfl⟩
        · next found hfound =>
            split
            · exact Or.inl ⟨_, g.draws, rfl⟩
            · next id draws hfresh =>
                simp only
                split
                · exact Or.inl ⟨_, draws, rfl⟩
                · next edits hedits =>
                    refine Or.inr ⟨id, slug, found, edits, draws, hfresh, ?_, hedits, rfl⟩
                    rintro node rfl
                    exact mem_of_parentFor hfound

/-- A newcomer that is given no input has none, or that of the parent that supplies it. -/
theorem newcomer_supplied {id : NodeId} {kind : NodeKind} {aspectRatio : String} {parent : Option Node}
    {edits : List Edit} {created : Nat} (hlive : ∀ node, parent = some node → node ∈ g.nodes)
    (hinput : ∀ edit ∈ edits, edit.field ≠ .inputRef) :
    (newcomer id kind aspectRatio parent edits created).inputRef = none ∨
      g.Supplies (newcomer id kind aspectRatio parent edits created) := by
  -- the given edits come last and leave the input alone, so that it is the one of the seeds
  have happend : ∀ (node : Node) (first : List Edit),
      node.applyAll (first ++ edits) = (node.applyAll first).applyAll edits :=
    fun node first => List.foldl_append
  unfold newcomer
  rw [happend]
  rw [Node.applyAll_inputRef _ _ hinput]
  cases parent with
  | none => exact Or.inl rfl
  | some node =>
      by_cases hready : node.hasReadyOutput = true
      · have hseeds : seeds (some node) = [.basePrompt node.basePrompt, .inputRef node.outputRef] :=
          if_pos hready
        rw [hseeds]
        refine Or.inr ⟨node, hlive node rfl, ?_, ?_, ?_⟩
        · rw [Node.applyAll_parent, Node.applyAll_parent]
          rfl
        · unfold Node.hasReadyOutput at hready
          rw [Bool.and_eq_true, beq_iff_eq] at hready
          exact hready.1
        · rw [Node.applyAll_inputRef _ _ hinput]
          rfl
      · have hseeds : seeds (some node) = [] := if_neg hready
        rw [hseeds]
        exact Or.inl rfl

theorem add_path (g : Graph) (aspectRatio : String) (kind : Json) (parent : Option NodeId)
    (fields : Json.Fields) :
    ∃ changes,
      Path (fun g change => change.isQuiet = true ∧
          (fields.has "input_ref" = false → g.Orderly change))
        g changes (g.add aspectRatio kind parent fields).2 ∧
      changes.filterMap Change.added?
        = ((g.add aspectRatio kind parent fields).1.toOption.map Node.id).toList := by
  rcases add_cases g aspectRatio kind parent fields with ⟨r, draws, heq⟩ |
    ⟨id, slug, found, edits, draws, hfresh, hlive, hedits, heq⟩
  · rw [heq]
    exact ⟨[.draw], .single (.draw g draws) ⟨rfl, fun _ => trivial⟩, rfl⟩
  · rw [heq]
    have hid : (newcomer id slug aspectRatio found edits g.clock).id = id := Node.applyAll_id _ _
    refine ⟨[.draw, .add (newcomer id slug aspectRatio found edits g.clock)],
      .cons (.draw g draws) ⟨rfl, fun _ => trivial⟩ (.single (.add ?_ ?_ ?_ ?_ ?_) ⟨rfl, fun hinput => ?_⟩),
      rfl⟩
    · rw [hid]
      show g.unused id = true
      exact unused_of_freshFrom hfresh
    · intro parent hparent
      unfold newcomer at hparent
      rw [Node.applyAll_parent] at hparent
      obtain ⟨node, hnode, rfl⟩ := Option.map_eq_some_iff.1 hparent
      exact List.mem_map_of_mem (hlive node hnode)
    · exact Node.applyAll_status _ _
    · exact Node.applyAll_generation _ _
    · exact Node.applyAll_failure _ _
    · refine newcomer_supplied (g := _) hlive fun edit hedit hfield => ?_
      have hgiven := has_of_mem_givenEdits hedits edit hedit
      rw [hfield] at hgiven
      exact Bool.noConfusion (hgiven.symm.trans hinput)

/-! ## Changing and removing -/

theorem edit_of_update {g' : Graph} {id : NodeId} {updates : Json.Fields}
    (h : g.update id updates = .ok g') :
    ∃ edits, updateEdits updates = .ok edits ∧ g.edit id edits = .ok g' := by
  unfold Graph.update at h
  split at h
  · split at h
    · simp at h
    · split at h
      · simp at h
      · next edits hedits => exact ⟨edits, hedits, h⟩
  · simp at h

theorem update_path {g' : Graph} {id : NodeId} {updates : Json.Fields}
    (h : g.update id updates = .ok g') :
    ∃ edits, Path (fun g change => change.isQuiet = true ∧
        (updates.has "input_ref" = false → updates.has "output_ref" = false → g.Orderly change))
      g [.edit id edits] g' := by
  obtain ⟨edits, hedits, hedit⟩ := edit_of_update h
  refine ⟨edits, .single (.edit hedit) ⟨rfl, fun hinput houtput edit hmem node _ _ => ?_⟩⟩
  have hgiven := has_of_mem_updateEdits hedits edit hmem
  constructor
  · intro hfield
    rw [hfield] at hgiven
    exact Bool.noConfusion (hgiven.symm.trans hinput)
  · intro hfield
    rw [hfield] at hgiven
    exact Bool.noConfusion (hgiven.symm.trans houtput)

theorem setStatus_of_named {g' : Graph} {id : NodeId} {status : Json} {failure : Option Failure}
    (h : g.setStatusNamed id status failure = .ok g') :
    ∃ named, g.setStatus id named failure = .ok g' := by
  unfold Graph.setStatusNamed at h
  split at h
  · split at h
    · simp at h
    · exact ⟨_, h⟩
  · simp at h

theorem Sound.delete_path (h : g.Sound) (id : NodeId) :
    ∃ changes, Path (fun g change => change.isQuiet = true ∧ g.Orderly change) g changes
        (g.delete id).2 ∧
      changes.filterMap Change.added? = [] := by
  unfold Graph.delete
  split
  · exact ⟨[.remove (id :: g.descendants id)],
      .single (.remove (h.closed_subtree id)) ⟨rfl, trivial⟩, rfl⟩
  · exact ⟨[], .nil g, rfl⟩

theorem Sound.invalidate_path (h : g.Sound) (id : NodeId) :
    Path (fun g change => change.isQuiet = true ∧ g.Orderly change) g [.remove (g.descendants id)]
      (g.invalidate id).2 :=
  .single (.remove (h.closed_descendants id)) ⟨rfl, trivial⟩

end Graph

end PromptCanvas
