import PromptCanvas.Http.Server
import PromptCanvas.Studio.Operation

set_option autoImplicit false

/-! # What a request asks for

Behind every request that can change the studio stands one operation. A request that only reads, or whose
body does not fit, asks for none. -/

namespace PromptCanvas.Http

/-- The operation that an action on a node with a body asks for. -/
def Action.asked (action : Action) (id : NodeId) (body : Body) : Option Operation :=
  match action with
  | .addNode =>
      (body.form AddForm.read).toOption.map fun form =>
        .add (.str form.kind.slug) form.parent form.fields
  | .updateNode => body.fields.toOption.map fun updates => .update id updates
  | .deleteNode => some (.delete id)
  | .invalidate => some (.invalidate id)
  | .run =>
      (body.form RunForm.read).toOption.map fun form =>
        if form.wait then .run id form.customText form.aspectRatio
        else .start id form.customText form.aspectRatio
  | .upload =>
      (body.form UploadForm.read).toOption.bind fun form =>
        (Base64.decode? form.picture.toList).map fun data => .upload id data form.mimeType
  | .enhance => some (.enhance id)
  | .animation =>
      (body.form AnimationForm.read).toOption.map fun form =>
        .animation form.basePrompt form.instruction form.frameCount
  | _ => none

/-- The operation that a request asks for. -/
def HttpRequest.asked (request : HttpRequest) : Option Operation :=
  match find request.method request.path with
  | .action action id => action.asked id request.body
  | _ => none

end PromptCanvas.Http
