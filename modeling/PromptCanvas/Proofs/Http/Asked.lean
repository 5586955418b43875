import PromptCanvas.Http.Asked
import PromptCanvas.Proofs.Studio.Operation

set_option autoImplicit false

/-! # Requests as operations

Handling a request leaves behind what performing the operation that it asks for does. A request that asks
for none leaves the studio as it was. So whatever holds of all operations holds of all requests. `Asks` says which
operations a request with a body can ask for. -/

namespace PromptCanvas

/-- What an optional operation leaves behind. -/
def Studio.performAsked (studio : Studio) : Option Operation → Studio × Option Errand
  | some operation => studio.perform operation
  | none => (studio, none)

namespace Http

variable {studio : Studio}

theorem left_map {α β : Type} (f : α → β) (served : Served α) : (served.map f).left = served.left := by
  cases served <;> rfl

theorem left_checking {α : Type} (checked : Except BodyRefusal α) (next : α → Served Answer)
    (asked : α → Option Operation) (h : ∀ a, (next a).left = studio.performAsked (asked a)) :
    (checking studio checked next).left = studio.performAsked (checked.toOption.bind asked) := by
  unfold checking
  cases checked with
  | ok a => exact h a
  | error refusal => cases refusal <;> rfl

theorem left_checking_map {α : Type} (checked : Except BodyRefusal α) (next : α → Served Answer)
    (asked : α → Operation) (h : ∀ a, (next a).left = studio.perform (asked a)) :
    (checking studio checked next).left = studio.performAsked (checked.toOption.map asked) := by
  rw [Option.map_eq_bind]
  exact left_checking checked next (some ∘ asked) h

theorem left_checking_of_done {α : Type} (checked : Except BodyRefusal α) (next : α → Served Answer)
    (h : ∀ a, (next a).left = (studio, none)) :
    (checking studio checked next).left = (studio, none) := by
  unfold checking
  cases checked with
  | ok a => exact h a
  | error refusal => cases refusal <;> rfl

theorem left_requiring_of_done {id : NodeId} {next : Node → Served Answer}
    (h : ∀ node, (next node).left = (studio, none)) :
    (requiring studio id next).left = (studio, none) := by
  unfold requiring
  split
  · exact h _
  · rfl

theorem left_updateNode (id : NodeId) (body : Body) :
    (updateNode studio id body).left
      = studio.performAsked (body.fields.toOption.map fun updates => .update id updates) := by
  refine left_checking_map _ _ _ fun updates => ?_
  simp only [Studio.perform]
  cases studio.graph.update id updates with
  | error r => rfl
  | ok graph =>
      simp only [requiring]
      split <;> rfl

theorem left_deleteNode (id : NodeId) :
    (requiring studio id fun _ => removing studio "deleted" (studio.graph.delete id)).left
      = studio.perform (.delete id) := by
  unfold requiring
  cases hget : studio.graph.get? id with
  | some node => rfl
  | none =>
      have hgone := Graph.has_eq_false_iff.2 (Graph.get?_eq_none_iff.1 hget)
      simp only [Studio.perform, Graph.delete, hgone]
      rfl

theorem left_invalidate (hsound : studio.graph.Sound) (id : NodeId) :
    (requiring studio id fun _ => removing studio "invalidated" (studio.graph.invalidate id)).left
      = studio.perform (.invalidate id) := by
  unfold requiring
  cases hget : studio.graph.get? id with
  | some node => rfl
  | none =>
      -- the request is refused, but the operation would remove nothing
      have hnone := hsound.descendants_of_not_mem (Graph.get?_eq_none_iff.1 hget)
      simp only [Studio.perform, Graph.invalidate, hnone, Graph.remove_nil]
      rfl

theorem left_runNode (id : NodeId) (body : Body) :
    (runNode studio id body).left
      = studio.performAsked ((body.form RunForm.read).toOption.map fun form =>
          if form.wait then .run id form.customText form.aspectRatio
          else .start id form.customText form.aspectRatio) := by
  refine left_checking_map _ _ _ fun form => ?_
  by_cases hwait : form.wait = true
  · rw [if_pos hwait, if_pos hwait]
    exact left_map _ _
  · rw [if_neg hwait, if_neg hwait]
    simp only [Studio.perform]
    cases studio.start id form.customText form.aspectRatio <;> rfl

theorem left_uploadPicture (id : NodeId) (body : Body) :
    (uploadPicture studio id body).left
      = studio.performAsked ((body.form UploadForm.read).toOption.bind fun form =>
          (Base64.decode? form.picture.toList).map fun data => .upload id data form.mimeType) := by
  refine left_checking _ _ _ fun form => ?_
  cases Base64.decode? form.picture.toList with
  | none => rfl
  | some data => exact left_map _ _

theorem left_act (hsound : studio.graph.Sound) (action : Action) (id : NodeId) (query : List Char)
    (body : Body) :
    (act studio action id query body).left = studio.performAsked (action.asked id body) := by
  cases action with
  | health | kinds | listEdges | exportGraph | stats | validate => rfl
  | listNodes | compile | lint => exact left_checking_of_done _ _ fun _ => rfl
  | getNode | descendants | ancestors => exact left_requiring_of_done fun _ => rfl
  | addNode => exact left_checking_map _ _ _ fun _ => rfl
  | updateNode => exact left_updateNode id body
  | deleteNode => exact left_deleteNode id
  | invalidate => exact left_invalidate hsound id
  | run => exact left_runNode id body
  | upload => exact left_uploadPicture id body
  | enhance => exact left_map _ _
  | animation => exact left_checking_map _ _ _ fun _ => left_map _ _

/-- A request does to the studio what the operation that it asks for does. -/
theorem left_handle (hsound : studio.graph.Sound) (request : HttpRequest) :
    (handle studio request).left = studio.performAsked request.asked := by
  unfold handle HttpRequest.asked
  cases find request.method request.path with
  | action action id => exact left_act hsound action id request.query request.body
  | wrongMethod | redirect | nothing => rfl

/-! ## What can be asked for -/

theorem eq_ok_of_toOption {α ε : Type} {result : Except ε α} {a : α} (h : result.toOption = some a) :
    result = .ok a := by
  cases result with
  | error e => exact absurd h nofun
  | ok b => exact congrArg Except.ok (Option.some.inj h)

end Http

end PromptCanvas
