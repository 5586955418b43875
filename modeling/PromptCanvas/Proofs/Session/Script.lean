import PromptCanvas.Proofs.Session.Run
import PromptCanvas.Proofs.Studio.Begin

set_option autoImplicit false

/-! # Scripts and the runs of their nodes

The prompt that a script is compiled to is a normal form of the script. So a node with a script can be run
unless it has no script or a blank one, and its run then ends at once. -/

namespace PromptCanvas.Session

open Script Text

/-- Compiling gives a trimmed prompt, which is empty for blank scripts only, and compiling a prompt gives it
    back. In every reached session a node with a script that is not running fails for want of a prompt, and
    makes no request, exactly when it has no script or a blank one. -/
theorem compile_normal (settings : Settings) (registry : Registry) (strict : Bool) (draws : Draws)
    (moves : List Move) :
    (∀ script,
      (∀ c ∈ (compile script).toList.head?, isBlank c = false) ∧
        (∀ c ∈ (compile script).toList.getLast?, isBlank c = false) ∧
        (compile script = "" ↔ blank script = true) ∧ compile (compile script) = compile script) ∧
      let studio := ((opening settings registry strict draws).after moves).studio
      ∀ id node, studio.graph.get? id = some node → node.kind = .sourceImagescript →
        node.status ≠ .running → ∀ custom aspectRatio,
          ((∃ after failed, studio.begin id custom aspectRatio = .ok (none, after) ∧
              after.graph.get? id = some failed ∧ failed.status = .failed ∧
              failed.failure.map Failure.kind = some .emptyPrompt) ↔
            node.script = none ∨ ∃ script, node.script = some script ∧ blank script = true) := by
  refine ⟨fun script => ?_, ?_⟩
  · obtain ⟨s, hs⟩ := exists_compile_eq_trimmed script
    refine ⟨?_, ?_, compile_eq_empty_iff script, compile_compile script⟩
    · rw [hs, toList_trimmed]
      exact not_isBlank_of_mem_head?_trim s.toList
    · rw [hs, toList_trimmed]
      exact not_isBlank_of_mem_getLast?_trim s.toList
  · intro studio id node hnode hkind hstatus custom aspectRatio
    have hsound : studio.graph.Sound :=
      sound_after (sound_opening settings registry strict draws) moves
    exact Studio.begin_script_fails_iff hsound hnode hkind hstatus custom aspectRatio

/-- A node with a blank script fails when it is run. -/
theorem compile_normal_blank_script :
    let moves : List Move :=
      [.perform (.add (.str "source-imagescript") none [("script", .str " \n")])]
    let studio := ((opening {} {} false { given := ["000000000001"] }).after moves).studio
    ∃ node, studio.graph.get? "node-000000000001" = some node ∧ node.kind = .sourceImagescript ∧
      node.status ≠ .running ∧
        ∃ after failed, studio.begin "node-000000000001" none none = .ok (none, after) ∧
          after.graph.get? "node-000000000001" = some failed ∧ failed.status = .failed ∧
          failed.failure.map Failure.kind = some .emptyPrompt := by
  intro moves studio
  have hview : (studio.graph.get? "node-000000000001").map (fun n => (n.kind, n.status, n.script))
      = some (.sourceImagescript, .idle, some " \n") := by decide +kernel
  obtain ⟨node, hnode, hfields⟩ := Option.map_eq_some_iff.1 hview
  obtain ⟨hkind, hrest⟩ := Prod.mk.inj hfields
  obtain ⟨hidle, hscript⟩ := Prod.mk.inj hrest
  have hstatus : node.status ≠ .running := by rw [hidle]; decide
  refine ⟨node, hnode, hkind, hstatus, ?_⟩
  exact ((compile_normal {} {} false { given := ["000000000001"] } moves).2 _ node hnode hkind hstatus none
    none).2 (Or.inr ⟨_, hscript, by decide⟩)

end PromptCanvas.Session
