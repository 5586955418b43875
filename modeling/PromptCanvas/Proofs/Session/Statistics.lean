import PromptCanvas.Proofs.Graph.Statistics
import PromptCanvas.Proofs.Session.Run

set_option autoImplicit false

/-! # The statistics of a session

Whatever happens in a session, its statistics are those of a forest, and they count what its other readings
show. -/

namespace PromptCanvas.Session

/-- In every reached graph: each node is a root or the target of one edge, the edges are as many as the children of
    all nodes together, and the counts by status and by kind add up to the number of nodes. Counted is each status
    and each kind of which there are nodes, once and with the number of such nodes, as listed and as exported; the
    export fails only where a node is nested too deep. -/
theorem statistics_add_up (settings : Settings) (registry : Registry) (strict : Bool) (draws : Draws)
    (moves : List Move) :
    let reached := ((opening settings registry strict draws).after moves).graph
    let stats := reached.stats
    stats.totalNodes = (reached.list none).length ∧
      stats.roots + stats.totalEdges = stats.totalNodes ∧
      stats.totalEdges = reached.nodes.foldr (fun node n => (reached.children node.id).length + n) 0 ∧
      stats.byStatus.total = stats.totalNodes ∧
      stats.byKind.total = stats.totalNodes ∧
      stats.byStatus.Counts (fun name => (reached.list none).countP fun node => node.status.slug == name) ∧
      stats.byKind.Counts (fun name => (reached.list none).countP fun node => node.kind.slug == name) ∧
      (∀ kind : NodeKind, (stats.byKind.get? kind.slug).getD 0 = (reached.list (some kind.slug)).length) ∧
      match reached.dump with
      | .ok document => ∃ nodes, document.field? "nodes" = some (.arr nodes) ∧
          stats.byStatus.Counts (fun name => nodes.countP (Json.shows "status" name)) ∧
          stats.byKind.Counts (fun name => nodes.countP (Json.shows "kind" name))
      | .error _ => ∃ node ∈ reached.nodes, node.isTooDeep = true := by
  intro reached stats
  have hsound : reached.Sound := sound_after (sound_opening settings registry strict draws) moves
  have hstatus := reached.counts_byStatus id (fun name node => node.status.slug == name) fun _ _ => rfl
  have hkind := reached.counts_byKind id (fun name node => node.kind.slug == name) fun _ _ => rfl
  rw [List.map_id] at hstatus hkind
  refine ⟨rfl, hsound.roots_add_edges, hsound.length_edges_eq_children, ?statuses, ?kinds, hstatus, hkind, ?listed,
    ?exported⟩
  case statuses => exact (Graph.total_tally _).trans (List.length_map _)
  case kinds => exact (Graph.total_tally _).trans (List.length_map _)
  case listed =>
    intro kind
    have hslug : kind.slug ≠ "" := by cases kind <;> decide
    rw [hkind.getD_get?, List.countP_eq_length_filter]
    simp [Graph.list, hslug]
  case exported =>
    rw [reached.dump_eq]
    by_cases hdeep : reached.nodes.any Node.isTooDeep = true
    · rw [if_pos hdeep]
      exact List.any_eq_true.1 hdeep
    · rw [if_neg hdeep]
      exact ⟨_, rfl, reached.counts_byStatus Node.toJson (Json.shows "status") fun _ _ => rfl,
        reached.counts_byKind Node.toJson (Json.shows "kind") fun _ _ => rfl⟩

end PromptCanvas.Session
