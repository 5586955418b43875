import PromptCanvas.Graph.Export
import PromptCanvas.Http.Form
import PromptCanvas.Http.Route
import PromptCanvas.Script.Export
import PromptCanvas.Studio.Served

set_option autoImplicit false

/-! # The server

Every operation of the studio over HTTP. A body is read before its operation starts, so a request with a
bad body changes nothing. What an operation refuses is answered with a status for the cause: 404 for an
unknown node, 409 for a busy one, 400 for bad values and blank prompts, 502 for a service that failed. Each
route answers the causes that it looks for; a refusal for another cause is an error of the server itself. So is an
answer that cannot be written, because a node is nested too deep, a number is not finite or too long, or a text is
torn: answers are written without escapes. What the operation has done by then stays done. -/

namespace PromptCanvas.Http

/-- A request. -/
structure HttpRequest where
  method : String
  path : List Char
  query : List Char := []
  body : Body := .absent

/-- The request of a method, a target and a body. -/
def HttpRequest.ofTarget (method target : String) (body : Body) : HttpRequest :=
  let (path, query) := splitTarget target.toList
  ⟨method, path, query, body⟩

/-- A response. -/
structure HttpResponse where
  status : Nat
  body : Json

/-- A response, or the reason why none could be written. -/
abbrev Answer := Except Rejection HttpResponse

/-! ## Responses -/

/-- The response of success. -/
def succeeded (body : Json) : HttpResponse := ⟨200, body⟩

/-- A response that tells what went wrong. -/
def detailed (status : Nat) (detail : Json) : HttpResponse := ⟨status, .obj [("detail", detail)]⟩

/-- A response that tells some values, if these can be written. -/
def sending (told : List Json) (response : HttpResponse) : Answer :=
  match Json.flaw? told with
  | none => .ok response
  | some flaw => .error (.unwritable flaw)

/-- The answer to values that do not fit. It tells what was given. -/
def unprocessable (faults : List Fault) : Answer :=
  sending (faults.map Fault.given) (detailed 422 (.arr (faults.map Fault.toJson)))

/-- The response to a body that could not be read. -/
def unreadableBody : HttpResponse := detailed 400 (.str "There was an error parsing the body")

/-- The response to an unknown node. -/
def nodeNotFound (id : NodeId) : HttpResponse :=
  detailed 404 (.ofWriting (Rejection.notFound id).message)

/-- The response to a failure of the service, or to a blank prompt. -/
def failureResponse (failure : Failure) : HttpResponse :=
  detailed (if failure.kind = .emptyPrompt then 400 else 502) failure.toJson

/-- The response to a refusal. -/
def refused : Rejection → HttpResponse
  | .notFound id => nodeNotFound id
  | .busy id => detailed 409 (.ofWriting (Rejection.busy id).message)
  | .failed failure => failureResponse failure
  | r => detailed 400 (.ofWriting r.message)

/-- The answer of a route that looks for some causes to a refusal. It tells the message. -/
def refusal (looked : List RefusalCause) (r : Rejection) : Answer :=
  if r.cause ∈ looked then sending [.ofWriting r.message] (refused r) else .error r

/-- The response to a picture that is not in base64. -/
def badPicture : HttpResponse := detailed 400 (.str "image_base64 is not valid base64")

/-- The version of the program. -/
def version : String := "1.0.0"

/-! ## Answers -/

/-- Names of nodes in an answer, in increasing order. -/
def sortedIds (ids : List NodeId) : Json := .ofTexts (Graph.sorted ids)

/-- A counted list in an answer. -/
def counted (name : String) (items : List Json) : Json :=
  .obj [("count", .ofNat items.length), (name, .arr items)]

/-- An entry of the canvas menu in an answer. -/
def menuEntryJson (entry : MenuEntry) : Json :=
  .obj
    [("category", .str entry.place.name), ("kind", .str entry.kind.slug),
      ("title", .str entry.kind.title), ("is_source", .bool entry.kind.isSource)]

/-- The answer that tells of nodes. -/
def telling (nodes : List Node) (body : Json) : Answer :=
  sending (nodes.flatMap Node.told) (succeeded body)

/-- The answer that is a node. -/
def nodeAnswer (node : Node) : Answer := node.dump.bind (telling [node])

/-- The answer that lists nodes. -/
def nodesAnswer (nodes : List Node) : Answer :=
  (nodes.mapM Node.dump).bind fun dumps => telling nodes (counted "nodes" dumps)

/-- The answer that is the graph. -/
def graphAnswer (graph : Graph) : Answer := graph.dump.bind (telling graph.nodes)

/-- The answer of a run: the node, or word that its result was dropped. -/
def runAnswer (id : NodeId) : Option Node → Answer
  | some node => nodeAnswer node
  | none => .ok (succeeded (.obj [("status", .str "discarded"), ("node_id", .str id)]))

/-- The answer of a route that looks for some causes to an outcome. -/
def respond {α : Type} (looked : List RefusalCause) (answer : α → Answer) : Except Rejection α → Answer
  | .ok a => answer a
  | .error r => refusal looked r

/-! ## Handling requests -/

/-- The studio with a changed graph. -/
def withGraph (studio : Studio) (graph : Graph) : Studio := { studio with graph := graph }

/-- Answers at once, without a change. -/
def replying (studio : Studio) (response : HttpResponse) : Served Answer :=
  .done studio (.ok response)

/-- Answers at once if the request does not fit, else goes on with what it says. -/
def checking {α : Type} (studio : Studio) (checked : Except BodyRefusal α)
    (next : α → Served Answer) : Served Answer :=
  match checked with
  | .ok a => next a
  | .error (.faulty faults) => .done studio (unprocessable faults)
  | .error .unreadable => replying studio unreadableBody

/-- Goes on with the live node of an id. -/
def requiring (studio : Studio) (id : NodeId) (next : Node → Served Answer) : Served Answer :=
  match studio.graph.get? id with
  | some node => next node
  | none => replying studio (nodeNotFound id)

/-- Lists the nodes, all or those of one kind. -/
def listNodes (studio : Studio) (query : List Char) : Served Answer :=
  let kind : Checked (Option NodeKind) :=
    match parameter? query "kind" with
    | none => .ok none
    | some slug =>
        ((Value.choice NodeKind.ofSlug? (.str slug)).map some).under "kind" |>.under "query"
  checking studio (accepted kind) fun kind =>
    .done studio (nodesAnswer (studio.graph.list (kind.map NodeKind.slug)))

/-- Adds a node. -/
def addNode (studio : Studio) (body : Body) : Served Answer :=
  checking studio (body.form AddForm.read) fun form =>
    let (result, graph) :=
      studio.graph.add studio.settings.defaultAspectRatio (.str form.kind.slug) form.parent
        form.fields
    .done (withGraph studio graph) (respond [.unknownNode, .badValue] nodeAnswer result)

/-- Updates a node. -/
def updateNode (studio : Studio) (id : NodeId) (body : Body) : Served Answer :=
  checking studio body.fields fun updates =>
    match studio.graph.update id updates with
    | .error r => .done studio (refusal [.unknownNode, .badValue] r)
    | .ok graph =>
        requiring (withGraph studio graph) id fun node =>
          .done (withGraph studio graph) (nodeAnswer node)

/-- Answers with removed ids. -/
def removing (studio : Studio) (status : String) (removal : List NodeId × Graph) :
    Served Answer :=
  replying (withGraph studio removal.2)
    (succeeded (.obj [("status", .str status), ("removed", sortedIds removal.1)]))

/-- Runs a node, or only starts to. -/
def runNode (studio : Studio) (id : NodeId) (body : Body) : Served Answer :=
  checking studio (body.form RunForm.read) fun form =>
    if form.wait then
      (studio.run id form.customText form.aspectRatio).map
        (respond [.unknownNode, .busyNode] (runAnswer id))
    else
      match studio.start id form.customText form.aspectRatio with
      | .error r => .done studio (refusal [.unknownNode, .busyNode] r)
      | .ok (_, started) => .done started (runAnswer id (started.graph.get? id))

/-- Takes a picture for an upload node. -/
def uploadPicture (studio : Studio) (id : NodeId) (body : Body) : Served Answer :=
  checking studio (body.form UploadForm.read) fun form =>
    match Base64.decode? form.picture.toList with
    | none => replying studio badPicture
    | some data =>
        (studio.upload id data form.mimeType).map
          (respond [.unknownNode, .busyNode, .badValue] (runAnswer id))

/-- Expands a node's base prompt. -/
def enhanceNode (studio : Studio) (id : NodeId) : Served Answer :=
  (studio.enhance id).map (respond [.unknownNode, .busyNode, .failure] fun node =>
    .ok
      (succeeded
        (.obj [("node_id", .str node.id), ("enhanced_prompt", .ofText? node.enhancedPrompt)])))

/-- Compiles a script. -/
def compileScript (studio : Studio) (body : Body) : Served Answer :=
  checking studio (body.form readScript) fun script =>
    replying studio
      (succeeded
        (.obj
          [("prompt", .str (Script.compile script)),
            ("parsed", (Script.Outline.ofScript script).toJson)]))

/-- Checks the lines of a script. -/
def lintScript (studio : Studio) (body : Body) : Served Answer :=
  checking studio (body.form readScript) fun script =>
    replying studio
      (succeeded (counted "errors" ((Script.lint script).map Script.Diagnostic.toJson)))

/-- Makes the prompts of an animation. -/
def animationPrompts (studio : Studio) (body : Body) : Served Answer :=
  checking studio (body.form AnimationForm.read) fun form =>
    (studio.animation form.basePrompt form.instruction form.frameCount).map
      (respond [.failure] fun frames => .ok (succeeded (counted "prompts" (frames.map .str))))

/-- Carries out an action. -/
def act (studio : Studio) (action : Action) (id : NodeId) (query : List Char) (body : Body) :
    Served Answer :=
  match action with
  | .health =>
      replying studio
        (succeeded
          (.obj
            [("status", .str "ok"), ("version", .str version),
              ("nodes", .ofNat studio.graph.nodes.length),
              ("generation_configured", .bool (studio.settings.apiKey.getD "" != ""))]))
  | .kinds => replying studio (succeeded (counted "kinds" (menu.map menuEntryJson)))
  | .listNodes => listNodes studio query
  | .addNode => addNode studio body
  | .getNode => requiring studio id fun node => .done studio (nodeAnswer node)
  | .updateNode => updateNode studio id body
  | .deleteNode =>
      requiring studio id fun _ => removing studio "deleted" (studio.graph.delete id)
  | .descendants =>
      requiring studio id fun _ =>
        replying studio
          (succeeded
            (.obj
              [("node_id", .str id), ("descendants", sortedIds (studio.graph.descendants id))]))
  | .ancestors =>
      requiring studio id fun _ =>
        replying studio
          (succeeded
            (.obj [("node_id", .str id), ("ancestors", .ofTexts (studio.graph.ancestors id))]))
  | .invalidate =>
      requiring studio id fun _ => removing studio "invalidated" (studio.graph.invalidate id)
  | .run => runNode studio id body
  | .upload => uploadPicture studio id body
  | .enhance => enhanceNode studio id
  | .listEdges =>
      replying studio (succeeded (counted "edges" (studio.graph.edges.map Edge.toJson)))
  | .exportGraph => .done studio (graphAnswer studio.graph)
  | .stats => replying studio (succeeded studio.graph.stats.toJson)
  | .validate =>
      let problems := studio.graph.problems
      replying studio
        (succeeded
          (.obj
            [("valid", .bool problems.isEmpty),
              ("errors", .ofTexts (problems.map GraphProblem.message))]))
  | .compile => compileScript studio body
  | .lint => lintScript studio body
  | .animation => animationPrompts studio body

/-- Handles a request. -/
def handle (studio : Studio) (request : HttpRequest) : Served Answer :=
  match find request.method request.path with
  | .action action id => act studio action id request.query request.body
  | .wrongMethod => replying studio (detailed 405 (.str "Method Not Allowed"))
  | .redirect => replying studio ⟨307, .null⟩
  | .nothing => replying studio (detailed 404 (.str "Not Found"))

end PromptCanvas.Http
