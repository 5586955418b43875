import PromptCanvas.Proofs.Graph.Fresh
import PromptCanvas.Proofs.Session.Run

set_option autoImplicit false

/-! # Ids are given once

Draws may repeat each other, and they may come to ids that live or that were deleted. Still no id is given
to two nodes of a session: a removed id is retired, and a new node gets the id of the first draw to come that
is neither live nor retired. Any texts may be given as draws, as many as the moves of a session use. -/

namespace PromptCanvas.Session

variable {session : Session}

/-- A move that adds a node gives it the id of the first draw to come whose id was never used. -/
theorem firstUnused_of_creates {move : Move} {id : NodeId} (h : session.creates move = some id) :
    ∃ n, session.graph.FirstUnused session.graph.draws n ∧
      id = Graph.idOfDraw (session.graph.draws.nth n) := by
  obtain ⟨operation, _, hcreates⟩ := Option.bind_eq_some_iff.1 h
  cases operation with
  | add kind parent fields =>
      simp only [Studio.creates] at hcreates
      split at hcreates
      · next node hnode =>
          rw [Option.some.injEq] at hcreates
          rw [← hcreates]
          exact Graph.id_of_add hnode
      · simp at hcreates
  | update | begin | setStatus | delete | invalidate | run | start | upload | enhance | animation | preview =>
      simp [Studio.creates] at hcreates

theorem has_or_retired_step (hsound : session.graph.Sound) (move : Move) {id : NodeId}
    (h : session.graph.has id = true) :
    (session.step move).graph.has id = true ∨ id ∈ (session.step move).graph.retired := by
  obtain ⟨_, path, _⟩ := step_path hsound move
  rw [Graph.has_iff_mem_ids] at h ⊢
  exact path.mem_ids_or_retired (Or.inl h)

theorem retired_step (hsound : session.graph.Sound) (move : Move) {id : NodeId}
    (h : id ∈ session.graph.retired) : id ∈ (session.step move).graph.retired := by
  obtain ⟨_, path, _⟩ := step_path hsound move
  exact path.mem_retired h

/-- No id is given to two nodes, also after removals: the ids that were given are live or retired, never
    both; what a move removes is retired, for good; and a new node gets the id of the first draw to come
    that is neither live nor retired. There is such an id, and it is found, as soon as one of the draws to
    come has an unused id. -/
theorem ids_given_once (settings : Settings) (registry : Registry) (strict : Bool) (draws : Draws)
    (moves : List Move) :
    let start := opening settings registry strict draws
    let reached := start.after moves
    (start.created moves).Nodup ∧
      (∀ id ∈ start.created moves, reached.graph.has id = true ∨ id ∈ reached.graph.retired) ∧
      (∀ id ∈ reached.graph.retired, reached.graph.has id = false) ∧
      (∀ move id,
        (reached.graph.has id = true →
            (reached.step move).graph.has id = true ∨ id ∈ (reached.step move).graph.retired) ∧
          (id ∈ reached.graph.retired → id ∈ (reached.step move).graph.retired) ∧
          (reached.creates move = some id →
            ∃ n, reached.graph.FirstUnused reached.graph.draws n ∧
              id = Graph.idOfDraw (reached.graph.draws.nth n))) ∧
      (∀ id rest, reached.graph.freshId? = some (id, rest) ↔
        ∃ n, reached.graph.FirstUnused reached.graph.draws n ∧
          id = Graph.idOfDraw (reached.graph.draws.nth n) ∧ rest = reached.graph.draws.skip (n + 1)) ∧
      (∀ n, reached.graph.unused (Graph.idOfDraw (reached.graph.draws.nth n)) = true →
        reached.graph.freshId?.isSome = true) := by
  intro start reached
  have hstart : start.graph.Sound := sound_opening settings registry strict draws
  have hsound : reached.graph.Sound := sound_after hstart moves
  obtain ⟨changes, path, hadded⟩ := after_path hstart moves
  refine ⟨?_, ?_, ?_, ?_, ?_, ?_⟩
  · rw [← hadded]
    exact path.nodup_added.1
  · intro id hid
    rw [Graph.has_iff_mem_ids]
    exact path.mem_ids_or_retired_of_added (hadded ▸ hid)
  · intro id hid
    exact Graph.has_eq_false_iff.2 (hsound.retired id hid)
  · intro move id
    exact ⟨has_or_retired_step hsound move, retired_step hsound move, firstUnused_of_creates⟩
  · intro id rest
    exact Graph.freshId?_eq_some_iff
  · intro n hunused
    exact Graph.isSome_freshId?_iff.2 ⟨n, hunused⟩

/-- Draws that repeat each other, a live id and a deleted one: each of them is passed over, and the draws
    to come repeat the deleted id once more before they show a new one. -/
theorem ids_given_once_colliding :
    let add : Move := .perform (.add (.str "source-generate") none [])
    let moves : List Move := [add, add, .perform (.delete "node-aaaaaaaaaaaa"), add]
    let given := ["aaaaaaaaaaaa", "aaaaaaaaaaaa", "bbbbbbbbbbbb", "bbbbbbbbbbbb", "aaaaaaaaaaaa",
      "cccccccccccc", "aaaaaaaaaaaa", "dddddddddddd"]
    let start := opening {} {} false { given := given }
    let reached := start.after moves
    start.created moves = ["node-aaaaaaaaaaaa", "node-bbbbbbbbbbbb", "node-cccccccccccc"] ∧
      reached.graph.retired = ["node-aaaaaaaaaaaa"] ∧
      reached.graph.unused (Graph.idOfDraw (reached.graph.draws.nth 0)) = false ∧
      reached.graph.unused (Graph.idOfDraw (reached.graph.draws.nth 1)) = true ∧
      (start.created moves).Nodup ∧ reached.graph.freshId?.isSome = true := by
  intro add moves given start reached
  obtain ⟨hnodup, _, _, _, _, hfound⟩ := ids_given_once {} {} false { given := given } moves
  exact ⟨by decide +kernel, by decide +kernel, by decide +kernel, by decide +kernel, hnodup,
    hfound 1 (by decide +kernel)⟩

end PromptCanvas.Session
