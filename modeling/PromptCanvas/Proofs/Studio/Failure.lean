import PromptCanvas.Proofs.Generation.Method
import PromptCanvas.Proofs.Studio.Result

set_option autoImplicit false

/-! # How failures reach those who asked

The reply to an errand may be trouble. A current run then leaves its node failed; a boost and an animation
hand the failure to their caller. Each of them classifies the trouble under a purpose of its own, but what the
generation service gets into is a failure already, and reaches the node or the caller as it is. Only where the
service had no room to classify a client's trouble is it otherwise: then there is nothing left of that trouble,
and what is classified under the purpose of the errand is that the reader had no room. -/

namespace PromptCanvas

/-- A node whose run has ended, in a failure or in none. -/
def Node.EndedWith (node : Node) (failure : Option Failure) : Prop :=
  node.failure = failure ∧ node.status = if failure.isSome then .failed else .ready

namespace Studio

variable {studio : Studio}

/-- How it is told that a reply is a failure, or that it is none. A current run leaves it on its node; a run
    that is no longer current tells nothing. A boost and an animation are refused with the failure and leave
    the studio as it is, or bring their result. -/
def Tells (studio : Studio) (service : Service) (seen : List Graph) (failure : Option Failure) :
    Errand → Prop
  | .run ticket =>
      match studio.current? ticket with
      | some _ =>
          ∃ node after, studio.resume service seen (.run ticket) = (.ok (some node), after) ∧
            after.graph.get? ticket.node = some node ∧ node.EndedWith failure
      | none => studio.resume service seen (.run ticket) = (.ok none, studio)
  | .boost before =>
      match failure with
      | some failure => studio.resume service seen (.boost before) = (.error (.failed failure), studio)
      | none => ∃ node, (studio.resume service seen (.boost before)).1 = .ok node
  | .animation basePrompt instruction frameCount =>
      match failure with
      | some failure =>
          studio.resume service seen (.animation basePrompt instruction frameCount)
            = (.error (.failed failure), studio)
      | none =>
          ∃ frames, studio.resume service seen (.animation basePrompt instruction frameCount)
            = (.ok frames, studio)

/-! ## Runs -/

/-- The node of a run that is settled bears the failure of the reply. -/
theorem endedWith_of_settle {α : Type} {ticket : Ticket} {held final : Node} {after : Studio}
    {reply : Except Failure α} {edits : Node → α → List Edit}
    (hcurrent : studio.current? ticket = some held)
    (h : studio.settle ticket reply edits = .ok (some final, after)) : final.EndedWith (errorOf? reply) := by
  simp only [settle, hcurrent] at h
  cases reply with
  | error failure =>
      obtain ⟨graph, hset, h⟩ := bind_eq_ok_iff.1 h
      rw [Except.ok.injEq, Prod.mk.injEq] at h
      obtain ⟨_, hheld, _, rfl⟩ := Graph.setStatus_eq_ok_iff.1 hset
      have hfailed := Graph.get?_alter_self (Node.moved .failed (some failure)) (fun _ => rfl) hheld
      obtain rfl := Option.some.inj (h.1.symm.trans hfailed)
      exact ⟨rfl, rfl⟩
  | ok result =>
      obtain ⟨edited, _, h⟩ := bind_eq_ok_iff.1 h
      obtain ⟨graph, hset, h⟩ := bind_eq_ok_iff.1 h
      rw [Except.ok.injEq, Prod.mk.injEq] at h
      obtain ⟨_, hheld, _, rfl⟩ := Graph.setStatus_eq_ok_iff.1 hset
      have hready := Graph.get?_alter_self (Node.moved .ready none) (fun _ => rfl) hheld
      obtain rfl := Option.some.inj (h.1.symm.trans hready)
      exact ⟨rfl, rfl⟩

theorem endedWith_of_complete {ticket : Ticket} {held final : Node} {after : Studio} {service : Service}
    {failure : Option Failure} (hverdict : (Errand.run ticket).verdict service = .ok failure)
    (hcurrent : studio.current? ticket = some held)
    (h : studio.complete service ticket = .ok (some final, after)) : final.EndedWith failure := by
  obtain ⟨id, generation, request⟩ := ticket
  unfold complete at h
  cases request <;>
    · obtain ⟨settled, hreceived, rfl⟩ := received_of_verdict hverdict
      obtain ⟨_, hreceived', hsettle⟩ := bind_eq_ok_iff.1 h
      obtain rfl := Except.ok.inj (hreceived.symm.trans hreceived')
      exact endedWith_of_settle hcurrent hsettle

/-! ## Errands -/

/-- Where there is room, the reply to an errand tells what the service got into, as it is classified under the
    purpose of the errand. -/
theorem resume_tells (studio : Studio) {service : Service} {errand : Errand} {failure : Option Failure}
    (seen : List Graph) (hverdict : errand.verdict service = .ok failure) :
    studio.Tells service seen failure errand := by
  cases errand with
  | run ticket =>
      cases hcurrent : studio.current? ticket with
      | none =>
          simp only [Tells, hcurrent]
          exact resume_of_stale seen hverdict hcurrent
      | some held =>
          obtain ⟨graph, hends, hresume⟩ := resume_of_current seen hverdict hcurrent
          obtain ⟨_, node, _, _, hnode, _⟩ := hends.stops
          rw [hnode] at hresume
          obtain ⟨after, hcomplete⟩ := complete_of_resume (congrArg Prod.fst hresume)
          simp only [Tells, hcurrent]
          exact ⟨node, _, hresume, hnode, endedWith_of_complete hverdict hcurrent hcomplete⟩
  | boost before =>
      obtain ⟨settled, hreceived, rfl⟩ := received_of_verdict hverdict
      have hresume : studio.resume service seen (.boost before) = studio.boosted before seen (.ok settled) :=
        congrArg (studio.boosted before seen) hreceived
      simp only [Tells, hresume]
      cases settled with
      | error failure => rfl
      | ok text =>
          cases hlive : studio.graph.has before.id with
          | true =>
              obtain ⟨_, node, _, _, heq⟩ := boosted_of_live hlive seen text
              exact ⟨node, congrArg Prod.fst heq⟩
          | false => exact ⟨_, congrArg Prod.fst (boosted_of_gone hlive seen text)⟩
  | animation basePrompt instruction frameCount =>
      obtain ⟨settled, hreceived, rfl⟩ := received_of_verdict hverdict
      have hresume : studio.resume service seen (.animation basePrompt instruction frameCount)
          = (animated (.ok settled), studio) :=
        congrArg (fun reply => (animated reply, studio)) hreceived
      simp only [Tells, hresume]
      cases settled with
      | error failure => rfl
      | ok frames => exact ⟨frames, rfl⟩

end Studio

/-! ## The generation service -/

/-- The failure that is told, for a purpose, of a call to the generation service: the missing key, the trouble of
    the client as it is classified under the purpose of the call, or the flaw of a reply. Where there was no room to
    classify the trouble, it is that the reader had none, and only this names the purpose for which the call was
    made. -/
def Call.told (settings : Settings) (client : Option Generation.Client) (purpose : String) (call : Call) :
    Option Failure :=
  match client with
  | none => some Generation.missingKey
  | some client =>
      match (call.modelCall settings).bind client.answer with
      | .ok reply => call.flaw reply
      | .error trouble =>
          match trouble.classify client.room call.purpose with
          | .ok failure => some failure
          | .error container => some (Trouble.unclear (Trouble.overrun container).text purpose)

/-- What the reader says when it has no room holds neither a document nor the number of a used-up quota. -/
theorem Trouble.classify_overrun (container : Json.Container) (room : Nat) (context : String) :
    (overrun container).classify room context = .ok (unclear (overrun container).text context) := by
  have hquiet : (Text.occurs (Text.symbols quotaStatus.toList) (overrun container).text.symbols ||
      Text.occurs (Text.symbols quotaCode.toList) (overrun container).text.symbols) = false := by
    cases container <;> decide +kernel
  have hnothing : fromBrace (overrun container).text.symbols = [] := by
    cases container <;> decide +kernel
  have htext : (overrun container).classify room context = ofText room (overrun container).text context := by
    cases container <;> rfl
  rw [htext, ofText, hquiet, embeddedMessage?, hnothing]
  rfl

theorem Errand.verdict_ofClient (settings : Settings) (client : Option Generation.Client) (room : Nat)
    (errand : Errand) :
    errand.verdict (Service.ofClient settings client room)
      = .ok (errand.call.told settings client errand.purpose) := by
  show Trouble.verdict room errand.purpose _ = _
  rw [Service.trouble?_ofClient]
  unfold Call.trouble? Generation.ending Call.told
  cases client with
  | none => rfl
  | some client =>
      simp only
      cases (errand.call.modelCall settings).bind client.answer with
      | ok reply =>
          simp only
          cases errand.call.flaw reply <;> rfl
      | error trouble =>
          simp only [Trouble.reduced]
          cases trouble.classify client.room errand.call.purpose with
          | ok failure => rfl
          | error container =>
              simp only [Trouble.verdict, Trouble.classify_overrun]
              rfl

namespace Call

variable {settings : Settings} {client : Generation.Client} {call : Call} {made : Generation.ModelCall}
  {trouble : Trouble}

theorem told_of_overruns (hmade : call.modelCall settings = .ok made) (htrouble : client.answer made = .error trouble)
    {container : Json.Container} (h : trouble.Overruns client.room container) (purpose : String) :
    call.told settings (some client) purpose
      = some (Trouble.unclear (Trouble.overrun container).text purpose) := by
  simp only [told, hmade, Except.bind, htrouble, Trouble.classify_of_overruns h]

/-- Where there is room for the client's trouble, it does not matter what the call is made for. -/
theorem told_congr (h : ∀ made trouble, call.modelCall settings = .ok made → client.answer made = .error trouble →
      trouble.Shallow client.room) (purpose purpose' : String) :
    call.told settings (some client) purpose = call.told settings (some client) purpose' := by
  unfold told
  cases hmade : call.modelCall settings with
  | error trouble =>
      obtain rfl := modelCall_eq_error hmade
      simp only [Except.bind, Trouble.classify_tooManyDigits]
  | ok made =>
      simp only [Except.bind]
      cases htrouble : client.answer made with
      | ok reply => rfl
      | error trouble =>
          obtain ⟨failure, hfailure, _⟩ := Trouble.reduced_of_shallow (h made trouble hmade htrouble) call.purpose
          simp only [hfailure]

end Call

/-- What a trouble was classified as does not change when it is classified again, whatever the second purpose and
    the room then. The failure that a current run of a call to the generation service leaves on its node, and that a
    boost or an animation hands to its caller, is the one that is told of the call; and the purpose of the run, the
    boost or the animation has a part in it only where a client's trouble could not be classified for want of
    room. -/
theorem Studio.failure_classified_once (settings : Settings) (client : Option Generation.Client) :
    (∀ (trouble : Trouble) (room later : Nat) (context purpose : String),
        (trouble.classify room context).bind (fun failure => (Trouble.known failure).classify later purpose)
          = trouble.classify room context) ∧
      (∀ (studio : Studio) (room : Nat) (seen : List Graph) (errand : Errand),
        studio.Tells (Service.ofClient settings client room) seen
          (errand.call.told settings client errand.purpose) errand) ∧
      ∀ call : Call,
        (∀ purpose purpose', call.told settings client purpose = call.told settings client purpose') ↔
          ∀ answers made trouble, client = some answers → call.modelCall settings = .ok made →
            answers.answer made = .error trouble → trouble.Shallow answers.room := by
  refine ⟨fun trouble room later context purpose => ?_, fun studio room seen errand => ?_, fun call => ?_⟩
  · cases trouble.classify room context <;> rfl
  · exact studio.resume_tells seen (errand.verdict_ofClient settings client room)
  · refine ⟨fun hsame answers made trouble hclient hmade htrouble container hoverruns => ?_, fun h => ?_⟩
    · -- two purposes would make two failures
      have htold := hsame "" "x"
      rw [hclient, Call.told_of_overruns hmade htrouble hoverruns,
        Call.told_of_overruns hmade htrouble hoverruns] at htold
      exact absurd htold (by cases container <;> decide +kernel)
    · cases client with
      | none => exact fun _ _ => rfl
      | some answers => exact Call.told_congr fun made trouble => h answers made trouble rfl

/-- A trouble for which there is no room reaches the node of a podcast as a failure that names the run, and is not
    what the trouble is classified as under the purpose of the call. -/
theorem Studio.failure_names_run :
    let client : Generation.Client := { answer := fun _ => .error (.opened 2000) }
    let node : Node :=
      { id := "node-1", kind := .generatePodcast, parent := none, status := .running, generation := some "first" }
    let studio : Studio := { graph := ({} : Graph).attach node }
    (Trouble.opened 2000).classify client.room "generate text" = .error .list ∧
      ∃ failed after,
        studio.resume (Service.ofClient {} (some client) Json.stackRoom) []
            (.run ⟨"node-1", "first", .podcast "a cat"⟩) = (.ok (some failed), after) ∧
          failed.failure = some ⟨.unknown, "An error occurred while trying to generate podcast script: " ++
            "maximum recursion depth exceeded while decoding a JSON array from a unicode string"⟩ := by
  intro client node studio
  have hoverruns : (Trouble.opened 2000).Overruns client.room .list :=
    Trouble.overruns_opened (by decide) (by decide)
  have hcurrent : studio.current? ⟨"node-1", "first", .podcast "a cat"⟩ = some node := rfl
  have htells := studio.resume_tells [] (Errand.verdict_ofClient {} (some client) Json.stackRoom
    (.run ⟨"node-1", "first", .podcast "a cat"⟩))
  simp only [Studio.Tells, hcurrent] at htells
  obtain ⟨failed, after, hresume, _, hfailed, _⟩ := htells
  refine ⟨Trouble.classify_of_overruns hoverruns, failed, after, hresume, hfailed.trans ?_⟩
  exact Call.told_of_overruns rfl rfl hoverruns _

-- a podcast is a text to the service, and fails as one
example :
    (Request.podcast "a cat").call.told {} (some { answer := fun _ => .error (.other "timeout") })
        "generate podcast script"
      = some ⟨.unknown, "An error occurred while trying to generate text: timeout"⟩ := by decide +kernel

end PromptCanvas
