import PromptCanvas.Proofs.Session.Run

set_option autoImplicit false

/-! # Inherited inputs of a session

Runs remove what is below their node before they begin, and only running nodes get new outputs. So as
long as callers neither move nodes by hand nor give artifacts, what a child has taken over from its parent
is what its parent produces. -/

namespace PromptCanvas.Session

/-- In every reached graph a node other than an upload has no input, or the output of its live parent,
    which is ready. -/
theorem inherited_input_current (settings : Settings) (registry : Registry) (strict : Bool)
    (draws : Draws) (moves : List Move) (hindirect : ∀ move ∈ moves, move.isIndirect = true)
    (hspares : ∀ move ∈ moves, move.sparesArtifacts = true) :
    let reached := ((opening settings registry strict draws).after moves).graph
    ∀ child ∈ reached.nodes, child.kind ≠ .sourceUpload →
      child.inputRef = none ∨
        ∃ parent ∈ reached.nodes, child.parent = some parent.id ∧ parent.status = .ready ∧
          parent.outputRef = child.inputRef := by
  intro reached
  have hsound := sound_opening settings registry strict draws
  obtain ⟨changes, path, _⟩ := after_path hsound moves
  have horderly : Graph.Path Graph.Orderly _ changes reached :=
    path.mono fun g change ⟨move, hmove, hfit⟩ => hfit (hindirect move hmove) (hspares move hmove)
  exact horderly.current hsound fun _ hnode => absurd hnode List.not_mem_nil

/-- A child that has taken over the picture of its parent. -/
theorem inherited_input_current_below_picture :
    let service : Service :=
      ⟨fun _ _ => .ok [105, 109, 103], fun _ _ => .ok "", fun _ => .ok "", fun _ _ _ => .ok [], Json.stackRoom⟩
    let moves : List Move :=
      [.perform (.add (.str "source-generate") none []),
        .perform (.run "node-000000000001" (some "a cat") none), .reply 0 service [],
        .perform (.add (.str "op-style") (some "node-000000000001") [])]
    let draws : Draws := { given := ["000000000001", "first", "000000000002"] }
    let reached := ((opening {} {} false draws).after moves).graph
    (∀ move ∈ moves, move.isIndirect = true) ∧ (∀ move ∈ moves, move.sparesArtifacts = true) ∧
      reached.nodes.map Node.inputRef = [none, some "data:image/png;base64,aW1n"] ∧
        ∀ child ∈ reached.nodes, child.kind ≠ .sourceUpload →
          child.inputRef = none ∨
            ∃ parent ∈ reached.nodes, child.parent = some parent.id ∧ parent.status = .ready ∧
              parent.outputRef = child.inputRef := by
  intro service moves draws reached
  have hindirect : ∀ move ∈ moves, move.isIndirect = true := by decide
  have hspares : ∀ move ∈ moves, move.sparesArtifacts = true := by decide
  exact ⟨hindirect, hspares, by decide +kernel,
    inherited_input_current {} {} false draws moves hindirect hspares⟩

end PromptCanvas.Session
