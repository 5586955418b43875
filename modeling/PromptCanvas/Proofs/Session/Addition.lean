import PromptCanvas.Proofs.Graph.Addition
import PromptCanvas.Proofs.Session.Result

set_option autoImplicit false

/-! # Additions in a session

In every reached session an addition writes one node with its edge and its place among its parent's children,
or it is refused and has cost draws at most. -/

namespace PromptCanvas.Session

/-- In every reached session an addition is refused exactly for the reasons that `Refuses` names, and then
    nothing but the draws may differ afterwards. Else one node with an unused id comes after the others: it is
    as `Added` says, below the live node that was named as its parent or a root. Its edge and its place among
    the children of its parent come last, and all else is as it was. -/
theorem addition_atomic (settings : Settings) (registry : Registry) (strict : Bool) (draws : Draws)
    (moves : List Move) :
    let reached := (opening settings registry strict draws).after moves
    reached.graph.strict = strict ∧
      ∀ (kind : Json) (parent : Option NodeId) (fields : Json.Fields),
        let ratio := settings.defaultAspectRatio
        let added := (reached.graph.add ratio kind parent fields).1
        let later := (reached.step (.perform (.add kind parent fields))).graph
        ((∃ r, added = .error r) ↔ reached.graph.Refuses kind parent fields) ∧
          ((∃ r, added = .error r) → ∃ rest, later = reached.graph.withDraws rest) ∧
          ∀ node, added = .ok node →
            reached.graph.unused node.id = true ∧
              node.Added kind (reached.graph.named? parent) ratio fields ∧
              later.nodes = reached.graph.nodes ++ [node] ∧
              later.parentEdges
                = reached.graph.parentEdges
                  ++ (node.parent.map fun source => (node.id, ⟨source, node.id⟩)).toList ∧
              (∀ id, later.childIds id
                = reached.graph.childIds id ++ if node.parent = some id then [node.id] else []) ∧
              later.retired = reached.graph.retired := by
  intro reached
  have hopening := sound_opening settings registry strict draws
  have hsound : reached.graph.Sound := sound_after hopening moves
  obtain ⟨_, path, _⟩ := after_path hopening moves
  refine ⟨path.strict, ?_⟩
  intro kind parent fields ratio added later
  have hlater : later = (reached.graph.add ratio kind parent fields).2 := by
    show (reached.graph.add reached.studio.settings.defaultAspectRatio kind parent fields).2 = _
    rw [settings_after hopening moves]
    rfl
  rcases reached.graph.add_outcome ratio kind parent fields with
    ⟨hrefuses, r, rest, heq⟩ | ⟨haccepts, node, rest, heq, hunused, hadded⟩
  · have herror : added = .error r := congrArg Prod.fst heq
    refine ⟨iff_of_true ⟨r, herror⟩ hrefuses, fun _ => ⟨rest, hlater.trans (congrArg Prod.snd heq)⟩,
      fun node hnode => ?_⟩
    rw [herror] at hnode
    simp at hnode
  · have hok : added = .ok node := congrArg Prod.fst heq
    have hgraph : later = (reached.graph.withDraws rest).attach node := hlater.trans (congrArg Prod.snd heq)
    have hnone : ¬ ∃ r, added = .error r := by simp [hok]
    refine ⟨iff_of_false hnone haccepts, fun hrefused => absurd hrefused hnone, fun node' hnode => ?_⟩
    obtain rfl : node = node' := Except.ok.inj (hok.symm.trans hnode)
    have hnew : node.id ∉ (reached.graph.withDraws rest).ids := (Graph.unused_iff.1 hunused).1
    rw [hgraph]
    exact ⟨hunused, hadded, Graph.nodes_attach node, (hsound.draws rest).parentEdges_attach hnew,
      Graph.childIds_attach node, Graph.retired_attach node⟩

/-- The parent is ready. Its child takes over the base prompt, and keeps the input that it is given. -/
theorem addition_atomic_below_ready :
    let root : NodeId := "node-000000000001"
    let moves : List Move :=
      [.perform (.add (.str "source-generate") none []),
        .perform (.update root [("base_prompt", .str "a crow"), ("output_ref", .str "data:,crow")]),
        .perform (.begin root), .perform (.setStatus root (.str "ready") none)]
    let draws : Draws := { given := ["000000000001", "first", "000000000002"] }
    let reached := (opening { defaultAspectRatio := "16:9" } {} true draws).after moves
    let fields : Json.Fields := [("input_ref", .str "data:,owl")]
    ∃ node, (reached.graph.add "16:9" (.str "op-style") (some root) fields).1 = .ok node ∧
      node.parent = some root ∧ node.basePrompt = some "a crow" ∧ node.inputRef = some "data:,owl" := by
  intro root moves draws reached fields
  obtain ⟨_, _, hok⟩ := (addition_atomic { defaultAspectRatio := "16:9" } {} true draws moves).2
    (.str "op-style") (some root) fields
  have hsome : (reached.graph.add "16:9" (.str "op-style") (some root) fields).1.toOption.isSome = true := by
    decide +kernel
  cases hadded : (reached.graph.add "16:9" (.str "op-style") (some root) fields).1 with
  | error r =>
      rw [hadded] at hsome
      exact Bool.noConfusion hsome
  | ok node =>
      obtain ⟨_, hnode, _⟩ := hok node hadded
      refine ⟨node, rfl, hnode.parent.trans ?_, (hnode.basePrompt ?_).trans ?_, ?_⟩
      · decide +kernel
      · decide +kernel
      · decide +kernel
      · have hread := hnode.given .inputRef (.str "data:,owl") rfl
        exact (Edit.inputRef.inj (Checked.ok.inj hread)).symm

end PromptCanvas.Session
