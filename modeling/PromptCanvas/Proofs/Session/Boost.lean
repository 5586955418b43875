import PromptCanvas.Proofs.Generation.Overrun
import PromptCanvas.Proofs.Session.Run
import PromptCanvas.Proofs.Studio.Boost

set_option autoImplicit false

/-! # Boosts in a session

Between the asking for a boost and its reply anything may happen to the node. Neither the asking nor the reply
changes more than the enhanced prompt of the node, whatever it has become in the meantime. -/

namespace PromptCanvas.Session

variable {session : Session}

/-! ## Asking -/

section

variable {id : NodeId} {move : Move}
variable (hsound : session.graph.Sound) (hmove : move.operation? = some (.enhance id))

include hsound hmove

/-- Asking for a boost changes nothing; its errand is out afterwards, if it waits for one. -/
theorem step_of_enhance :
    session.step move
      = { session with awaiting := session.awaiting ++ (session.studio.enhance id).left.2.toList } := by
  rw [step_of_operation hsound hmove, Session.enter, Studio.perform, (Studio.left_enhance id).1]

theorem step_of_enhance_done {studio : Studio} {answer : Except Rejection Node}
    (h : session.studio.enhance id = .done studio answer) : session.step move = session := by
  rw [step_of_enhance hsound hmove, h]
  exact enter_idle

end

/-- What a move that asks for a boost comes to. It is refused where the node does not live, is running, or has
    a blank base prompt, and then nothing has happened. Else the one call of the boost goes out. Either way the
    studio stays as it is. -/
structure AsksBoost (session : Session) (id : NodeId) (move : Move) : Prop where
  studio : (session.step move).studio = session.studio
  missing : session.graph.get? id = none →
    session.studio.enhance id = .done session.studio (.error (.notFound id)) ∧ session.step move = session
  busy : ∀ node, session.graph.get? id = some node → node.status = .running →
    session.studio.enhance id = .done session.studio (.error (.busy id)) ∧ session.step move = session
  blank : ∀ node, session.graph.get? id = some node → node.status ≠ .running →
    Text.blank (node.basePrompt.getD "") = true →
      session.studio.enhance id
          = .done session.studio (.error (.failed ⟨.emptyPrompt, Studio.nothingToBoost⟩)) ∧
        session.step move = session
  waits : ∀ node, session.graph.get? id = some node → node.status ≠ .running →
    Text.blank (node.basePrompt.getD "") = false →
      session.studio.enhance id = .waiting session.studio (.boost node) (fun result => result) ∧
        (session.step move).awaiting = session.awaiting ++ [.boost node] ∧
        session.calls move = some (.text (Errand.boostPrompt node))
  refusedForBlank : (∃ studio message, session.studio.enhance id
      = .done studio (.error (.failed ⟨.emptyPrompt, message⟩))) ↔
    ∃ node, session.graph.get? id = some node ∧ node.status ≠ .running ∧
      Text.blank (node.basePrompt.getD "") = true

theorem asksBoost (hsound : session.graph.Sound) {id : NodeId} {move : Move}
    (hmove : move.operation? = some (.enhance id)) : session.AsksBoost id move := by
  refine ⟨?studio, fun hnone => ?missing, fun node hnode hrunning => ?busy,
    fun node hnode hstatus hblank => ?blank, fun node hnode hstatus hblank => ?waits,
    Studio.enhance_eq_emptyPrompt_iff⟩
  case studio => rw [step_of_enhance hsound hmove]
  case missing =>
    have hserved := Studio.enhance_of_missing hnone
    exact ⟨hserved, step_of_enhance_done hsound hmove hserved⟩
  case busy =>
    have hserved := Studio.enhance_of_running hnode hrunning
    exact ⟨hserved, step_of_enhance_done hsound hmove hserved⟩
  case blank =>
    have hserved := Studio.enhance_of_idle hnode hstatus
    rw [hblank, if_pos rfl] at hserved
    exact ⟨hserved, step_of_enhance_done hsound hmove hserved⟩
  case waits =>
    have hserved := Studio.enhance_of_idle hnode hstatus
    rw [hblank, if_neg Bool.false_ne_true] at hserved
    have hout : (session.step move).awaiting = session.awaiting ++ [.boost node] := by
      rw [step_of_enhance hsound hmove, hserved]
      rfl
    refine ⟨hserved, hout, ?_⟩
    rw [calls, hout, List.getElem?_concat_length]
    rfl

/-! ## The reply -/

/-- What the reply to a boost comes to. Trouble is handed to the caller as the failure that it is classified as, and
    nothing changes. Nor does anything where there is no room to classify it, and the boost breaks off without a
    failure, or if no node lives under the id any more. The node that lives there gets the text without surrounding
    white space as its enhanced prompt, and is stamped; nothing else changes. No execution does in any case. -/
structure EndsBoost (session : Session) (place : Nat) (before : Node) (service : Service) (seen : List Graph) :
    Prop where
  awaiting : (session.step (.reply place service seen)).awaiting = session.awaiting.eraseIdx place
  trouble : ∀ trouble failure, service.text (Errand.boostPrompt before) = .error trouble →
    trouble.classify service.room "enhance prompt" = .ok failure →
      (session.studio.resume service seen (.boost before)).1 = .error (.failed failure) ∧
        (session.step (.reply place service seen)).studio = session.studio
  overrun : ∀ trouble container, service.text (Errand.boostPrompt before) = .error trouble →
    trouble.classify service.room "enhance prompt" = .error container →
      (session.studio.resume service seen (.boost before)).1 = .error (.overrun container) ∧
        (session.step (.reply place service seen)).studio = session.studio
  gone : ∀ text, service.text (Errand.boostPrompt before) = .ok text → session.graph.get? before.id = none →
    (session.studio.resume service seen (.boost before)).1 = .ok (Studio.lastSeen before seen) ∧
      (session.step (.reply place service seen)).studio = session.studio
  written : ∀ text node, service.text (Errand.boostPrompt before) = .ok text →
    session.graph.get? before.id = some node →
      let after : Node := { node with
        enhancedPrompt := some (Text.trimmed text), tick := session.graph.clock + 1 }
      (session.studio.resume service seen (.boost before)).1 = .ok after ∧
        (session.step (.reply place service seen)).studio = { session.studio with
          graph := { session.graph with
            clock := session.graph.clock + 1
            nodes := session.graph.nodes.map fun other => if other.id = before.id then after else other } }
  executions : ∀ id, ((session.step (.reply place service seen)).graph.get? id).map Node.execution
    = (session.graph.get? id).map Node.execution

theorem endsBoost (hsound : session.graph.Sound) {place : Nat} {before : Node}
    (hplace : session.awaiting[place]? = some (.boost before)) (service : Service) (seen : List Graph) :
    session.EndsBoost place before service seen := by
  have hresume : session.studio.resume service seen (.boost before)
      = session.studio.boosted before seen
          (Studio.received service.room "enhance prompt" (service.text (Errand.boostPrompt before))) := rfl
  have hlater : session.step (.reply place service seen)
      = { studio := (session.studio.resume service seen (.boost before)).2
          awaiting := session.awaiting.eraseIdx place } := by
    simp only [Session.step, hplace]
  refine ⟨by rw [hlater], fun trouble failure htrouble hfailure => ?trouble,
    fun trouble container htrouble hdeep => ?overrun, fun text htext hgone => ?gone,
    fun text node htext hnode => ?written, fun id => ?executions⟩
  case trouble =>
    rw [hlater, hresume, htrouble, Studio.received, hfailure]
    exact ⟨rfl, rfl⟩
  case overrun =>
    rw [hlater, hresume, htrouble, Studio.received, hdeep]
    exact ⟨rfl, rfl⟩
  case gone =>
    have hhas : session.graph.has before.id = false := by
      rw [Graph.has, hgone]
      rfl
    rw [hlater, hresume, htext, Studio.received, Studio.boosted_of_gone hhas]
    exact ⟨rfl, rfl⟩
  case written =>
    rw [hlater, hresume, htext, Studio.received, Studio.boosted_eq_of_get? hsound.nodup hnode]
    exact ⟨rfl, rfl⟩
  case executions =>
    rw [hlater, hresume]
    exact Studio.execution_boosted before seen _ id

/-! ## Boosts of a session -/

/-- In every reached session a boost that is asked for comes to what `AsksBoost` says. Whatever happens to the
    session then, in every session in which the boost is out its reply comes to what `EndsBoost` says: at most
    the enhanced prompt of the node that lives under the id is another, and its stamp. -/
theorem boost_touches_one_field (settings : Settings) (registry : Registry) (strict : Bool) (draws : Draws)
    (moves : List Move) :
    let reached := (opening settings registry strict draws).after moves
    (∀ (id : NodeId) (move : Move), move.operation? = some (.enhance id) → reached.AsksBoost id move) ∧
      ∀ (place : Nat) (before : Node), reached.awaiting[place]? = some (.boost before) →
        ∀ (service : Service) (seen : List Graph), reached.EndsBoost place before service seen := by
  intro reached
  have hsound : reached.graph.Sound := sound_after (sound_opening settings registry strict draws) moves
  exact ⟨fun id move hmove => asksBoost hsound hmove,
    fun place before hplace service seen => endsBoost hsound hplace service seen⟩

/-- A boost whose node is run before the reply is there: the run goes on. -/
theorem boost_touches_one_field_running :
    let id : NodeId := "node-000000000001"
    let service : Service :=
      ⟨fun _ _ => .ok [], fun _ _ => .ok "", fun _ => .ok " a crow at dusk\n", fun _ _ _ => .ok [], Json.stackRoom⟩
    let added : List Move :=
      [.perform (.add (.str "op-prompt-magic") none [("base_prompt", .str "a crow")])]
    let draws : Draws := { given := ["000000000001", "first"] }
    let start := opening {} {} false draws
    let boost : Move := .perform (.enhance id)
    let reached := start.after (added ++ [boost, .perform (.run id none none)])
    (∃ node, (start.after added).graph.get? id = some node ∧ node.status ≠ .running ∧
        (start.after added).calls boost = some (.text (Errand.boostPrompt node))) ∧
      ∃ before node, reached.awaiting[0]? = some (.boost before) ∧
        reached.graph.get? before.id = some node ∧ node.status = .running ∧
        (reached.studio.resume service [] (.boost before)).1
          = .ok { node with enhancedPrompt := some "a crow at dusk", tick := reached.graph.clock + 1 } := by
  intro id service added draws start boost reached
  have hidle : ((start.after added).graph.get? id).map (fun node => (node.status, node.basePrompt))
      = some (.idle, some "a crow") := by decide +kernel
  have hout : (reached.awaiting[0]?).map (fun errand => (errand.ticket?, errand.target?))
      = some (none, some id) := by decide +kernel
  have hrunning : (reached.graph.get? id).map Node.status = some .running := by decide +kernel
  have htrimmed : Text.trimmed " a crow at dusk\n" = "a crow at dusk" := by decide +kernel
  refine ⟨?_, ?_⟩
  · obtain ⟨node, hnode, hview⟩ := Option.map_eq_some_iff.1 hidle
    obtain ⟨hstatus, hbase⟩ := Prod.mk.inj hview
    have hstatus' : node.status ≠ .running := by rw [hstatus]; decide
    have hblank : Text.blank (node.basePrompt.getD "") = false := by rw [hbase]; decide +kernel
    have hasks : (start.after added).AsksBoost id boost :=
      (boost_touches_one_field {} {} false draws added).1 id boost rfl
    exact ⟨node, hnode, hstatus', (hasks.waits node hnode hstatus' hblank).2.2⟩
  · obtain ⟨errand, hplace, hview⟩ := Option.map_eq_some_iff.1 hout
    obtain ⟨node, hnode, hstatus⟩ := Option.map_eq_some_iff.1 hrunning
    obtain ⟨hticket, htarget⟩ := Prod.mk.inj hview
    cases errand with
    | run ticket => simp [Errand.ticket?] at hticket
    | animation => simp [Errand.target?] at htarget
    | boost before =>
        have hid : before.id = id := Option.some.inj htarget
        rw [← hid] at hnode
        have hends : reached.EndsBoost 0 before service [] :=
          (boost_touches_one_field {} {} false draws _).2 0 before hplace service []
        refine ⟨before, node, hplace, hnode, hstatus, ?_⟩
        rw [← htrimmed]
        exact (hends.written _ node rfl hnode).1

/-- Where there is no room for the trouble of the service, a boost that is out breaks off without a failure. -/
theorem boost_breaks_off :
    let id : NodeId := "node-000000000001"
    let service : Service :=
      ⟨fun _ _ => .ok [], fun _ _ => .ok "", fun _ => .error (.opened 2000), fun _ _ _ => .ok [], Json.stackRoom⟩
    let moves : List Move :=
      [.perform (.add (.str "op-style") none [("base_prompt", .str "a crow")]), .perform (.enhance id)]
    let reached := (opening {} {} false { given := ["000000000001"] }).after moves
    ∃ before, reached.awaiting[0]? = some (.boost before) ∧
      (reached.studio.resume service [] (.boost before)).1 = .error (.overrun .list) := by
  intro id service moves reached
  have hout : (reached.awaiting[0]?).map (fun errand => (errand.ticket?, errand.target?))
      = some (none, some id) := by decide +kernel
  obtain ⟨errand, hplace, hview⟩ := Option.map_eq_some_iff.1 hout
  obtain ⟨hticket, htarget⟩ := Prod.mk.inj hview
  cases errand with
  | run ticket => simp [Errand.ticket?] at hticket
  | animation => simp [Errand.target?] at htarget
  | boost before =>
      have hoverruns : (Trouble.opened 2000).Overruns Json.stackRoom .list :=
        Trouble.overruns_opened (by decide) (by decide)
      have hverdict : (Errand.boost before).verdict service = .error .list := by
        show (Trouble.classify Json.stackRoom (.opened 2000) "enhance prompt").map some = _
        rw [Trouble.classify_of_overruns hoverruns]
        rfl
      exact ⟨before, hplace, congrArg Prod.fst (Studio.resume_of_overrun [] hverdict)⟩

end PromptCanvas.Session
