import PromptCanvas.Proofs.Graph.Step

set_option autoImplicit false

/-! # Inherited inputs

A child that is added below a ready parent takes the parent's output over as its input. Nothing keeps the
two the same afterwards, but an orderly change never breaks them apart: a run begins only where nothing is
left below the node, and only a running node gets a new output. So inputs that were taken over stay
current. -/

namespace PromptCanvas.Graph

/-- A live parent of the node is ready, and its output is the node's input. -/
def Supplies (g : Graph) (node : Node) : Prop :=
  ∃ parent ∈ g.nodes,
    node.parent = some parent.id ∧ parent.status = .ready ∧ parent.outputRef = node.inputRef

/-- Every input that was not uploaded is what a ready parent produces. -/
def Current (g : Graph) : Prop :=
  ∀ node ∈ g.nodes, node.kind ≠ .sourceUpload → node.inputRef = none ∨ g.Supplies node

/-- A change that cannot take an input away from under a child. -/
def Orderly (g : Graph) : Change → Prop
  | .draw => True
  | .add node => node.inputRef = none ∨ g.Supplies node
  | .edit id edits =>
      ∀ edit ∈ edits, ∀ node ∈ g.nodes, node.id = id →
        (edit.field = .inputRef → node.kind = .sourceUpload) ∧
          (edit.field = .outputRef → node.status = .running)
  | .begin id => ∀ node ∈ g.nodes, node.parent ≠ some id
  | .setStatus _ status _ => status ≠ .running
  | .remove _ => True

variable {g g' : Graph}

/-- A change of one node keeps inputs current if it leaves the input of the node alone, unless this is an
    upload, and leaves the output of a ready node alone, unless nothing is below it. -/
theorem Current.alter (h : g.Current) {id : NodeId} (change : Node → Node)
    (hid : ∀ node, (change node).id = node.id) (hparent : ∀ node, (change node).parent = node.parent)
    (hkind : ∀ node, (change node).kind = node.kind)
    (hinput : ∀ node ∈ g.nodes, node.id = id → node.kind ≠ .sourceUpload →
      (change node).inputRef = node.inputRef)
    (houtput : ∀ node ∈ g.nodes, node.id = id → node.status = .ready →
      (∀ child ∈ g.nodes, child.parent ≠ some id) ∨
        ((change node).status = .ready ∧ (change node).outputRef = node.outputRef)) :
    (g.alter id change).Current := by
  have hparent' : ∀ node, (g.altered id change node).parent = node.parent :=
    altered_congr change Node.parent hparent fun _ _ => rfl
  have hkind' : ∀ node, (g.altered id change node).kind = node.kind :=
    altered_congr change Node.kind hkind fun _ _ => rfl
  intro changed hchanged hupload
  rw [alter_nodes, List.mem_map] at hchanged
  obtain ⟨node, hnode, rfl⟩ := hchanged
  rw [hkind'] at hupload
  have hinput' : (g.altered id change node).inputRef = node.inputRef := by
    unfold altered
    split
    · next he => exact hinput node hnode he hupload
    · rfl
  rw [hinput']
  rcases h node hnode hupload with hnone | ⟨parent, hmem, hof, hready, hsame⟩
  · exact Or.inl hnone
  -- the parent still supplies the child: if it is the node that changes, it has a child, and so it
  -- keeps its output
  · refine Or.inr ⟨g.altered id change parent, List.mem_map_of_mem hmem, ?_, ?_⟩
    · rw [hparent', altered_id change hid]
      exact hof
    · rw [hinput']
      unfold altered
      split
      · next he =>
          rcases houtput parent hmem he hready with hleaf | ⟨hstatus, houtputRef⟩
          · exact absurd (he ▸ hof) (hleaf node hnode)
          · exact ⟨hstatus, houtputRef.trans hsame⟩
      · exact ⟨hready, hsame⟩

/-- What a node is supplied with depends on the nodes of the graph only. -/
theorem Supplies.mono {node : Node} (h : g.Supplies node)
    (hsub : ∀ parent ∈ g.nodes, node.parent = some parent.id → parent ∈ g'.nodes) :
    g'.Supplies node := by
  obtain ⟨parent, hmem, hof, hready, hsame⟩ := h
  exact ⟨parent, hsub parent hmem hof, hof, hready, hsame⟩

theorem Current.attach (h : g.Current) {node : Node} (hnode : node.inputRef = none ∨ g.Supplies node) :
    (g.attach node).Current := by
  have hsub : ∀ other ∈ g.nodes, other ∈ (g.attach node).nodes := fun other hother => by
    rw [nodes_attach]
    exact List.mem_append_left _ hother
  intro other hother hupload
  rw [nodes_attach, List.mem_append, List.mem_singleton] at hother
  have hbefore : other.inputRef = none ∨ g.Supplies other := by
    rcases hother with hother | rfl
    · exact h other hother hupload
    · exact hnode
  exact hbefore.imp_right fun hsupplies => hsupplies.mono fun parent hparent _ => hsub parent hparent

/-- Where nodes are removed with all that is below them, no node that stays loses its parent. -/
theorem Current.remove (h : g.Current) (hsound : g.Sound) {doomed : List NodeId}
    (hclosed : g.Closed doomed) : (g.remove doomed).Current := by
  intro node hnode hupload
  rw [hsound.nodes_remove_of_closed hclosed, List.mem_filter] at hnode
  obtain ⟨hmem, hstays⟩ := hnode
  refine (h node hmem hupload).imp_right fun hsupplies => hsupplies.mono fun parent hparent hof => ?_
  rw [hsound.nodes_remove_of_closed hclosed, List.mem_filter]
  refine ⟨hparent, ?_⟩
  simp only [decide_eq_true_eq] at hstays ⊢
  exact fun hdoomed => hstays (hclosed node hmem parent.id hdoomed hof)

theorem Step.current {change : Change} (step : Step g change g') (hsound : g.Sound)
    (hfit : g.Orderly change) (h : g.Current) : g'.Current := by
  cases step with
  | draw draws => exact h
  | add => exact h.attach hfit
  | @edit _ id edits hedit =>
      obtain ⟨_, rfl⟩ := edit_eq_ok_iff.1 hedit
      refine h.alter (·.applyAll edits) (fun node => node.applyAll_id _)
        (fun node => node.applyAll_parent _) (fun node => node.applyAll_kind _) ?_ ?_
      · intro node hnode he hupload
        exact node.applyAll_inputRef edits fun edit hmem hfield =>
          hupload ((hfit edit hmem node hnode he).1 hfield)
      · intro node hnode he hready
        refine Or.inr ⟨(node.applyAll_status edits).trans hready, ?_⟩
        refine node.applyAll_outputRef edits fun edit hmem hfield => ?_
        have hrunning := (hfit edit hmem node hnode he).2 hfield
        rw [hready] at hrunning
        exact Status.noConfusion hrunning
  | begin hbegin =>
      -- the node may have been ready, but then nothing is below it
      obtain ⟨_, _, _, rfl⟩ := begin_eq_ok_iff.1 hbegin
      exact Current.alter (g := g.withDraws _) h (Node.begun _) (fun _ => rfl) (fun _ => rfl)
        (fun _ => rfl) (fun _ _ _ _ => rfl) (fun _ _ _ _ => Or.inl hfit)
  | @setStatus _ id status failure hset =>
      obtain ⟨found, hfound, hnext, rfl⟩ := setStatus_eq_ok_iff.1 hset
      refine h.alter (Node.moved status failure) (fun _ => rfl) (fun _ => rfl) (fun _ => rfl)
        (fun _ _ _ _ => rfl) ?_
      -- a ready node can only begin to run, which this change does not do
      intro node hnode he hready
      have hsame : found = node :=
        Option.some.inj (hfound.symm.trans (he ▸ get?_of_mem hsound.nodup hnode))
      rw [hsame, hready] at hnext
      exact absurd (List.mem_singleton.1 hnext) hfit
  | remove hclosed => exact h.remove hsound hclosed

theorem Path.current {changes : List Change} (path : Path Orderly g changes g') (hsound : g.Sound)
    (h : g.Current) : g'.Current :=
  (path.keeps (fun g => g.Sound ∧ g.Current)
    (fun _ _ _ ⟨hsound, hcurrent⟩ hfit step => ⟨step.sound hsound, step.current hsound hfit hcurrent⟩)
    ⟨hsound, h⟩).2

end PromptCanvas.Graph
