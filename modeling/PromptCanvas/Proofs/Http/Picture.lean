import PromptCanvas.Http.Server
import PromptCanvas.Proofs.Codec.DataUrl
import PromptCanvas.Proofs.Codec.Payload
import PromptCanvas.Proofs.Validation.Checked
import PromptCanvas.Studio.Operation

set_option autoImplicit false

/-! # Which pictures are accepted

A picture comes in as a data URL or in the form of an upload. Both times its bytes are in base64, and they are
accepted exactly if they are a payload. What else an upload is answered is not taken for the answer to a
picture that is not accepted. -/

namespace PromptCanvas

open Base64 (Payload)

/-! ## Data URLs -/

namespace DataUrl

/-- A URL of a media type and a payload. The media type holds no mark. -/
def Joins (url mimeType : String) (payload : Payload) : Prop :=
  url = "data:" ++ mimeType ++ ";base64," ++ payload.text ∧ ¬ mark <:+: mimeType.toList

theorem toList_joined {mimeType : String} {payload : Payload} :
    ("data:" ++ mimeType ++ ";base64," ++ payload.text).toList
      = scheme ++ (mimeType.toList ++ (mark ++ payload.chars)) := by
  have htexts : ("data:" ++ mimeType ++ ";base64," ++ payload.text).toList
      = "data:".toList ++ mimeType.toList ++ ";base64,".toList ++ payload.chars := by
    rw [String.toList_append, String.toList_append, String.toList_append, Payload.toList_text]
  rw [htexts, List.append_assoc, List.append_assoc]
  rfl

theorem decode?_eq_some_iff_joins {url mimeType : String} {data : Bytes} :
    decode? url = some (data, mimeType) ↔ ∃ payload : Payload, Joins url mimeType payload ∧ payload.Writes data := by
  rw [decode?_eq_some_iff]
  constructor
  · rintro ⟨rest, chars, hrest, hcut, hdata⟩
    obtain ⟨payload, rfl, hwrites⟩ := Base64.decode?_eq_some_iff.1 hdata
    refine ⟨payload, ⟨String.toList_inj.1 ?_, Text.not_infix_of_cutAt? mark_ne_nil hcut⟩, hwrites⟩
    rw [toList_joined, hrest, ((Text.cutAt?_eq_some_iff mark_ne_nil).1 hcut).1]
  · rintro ⟨payload, ⟨rfl, hmark⟩, hwrites⟩
    exact ⟨_, _, toList_joined, Text.cutAt?_append_mark mark_eq (by decide) hmark,
      Base64.decode?_eq_some_iff.2 ⟨payload, rfl, hwrites⟩⟩

end DataUrl

/-! ## Refusals of uploads -/

/-- A refusal that names a node in its first words. -/
inductive Rejection.NamesNode : Rejection → Prop where
  | notFound (id : NodeId) : NamesNode (.notFound id)
  | busy (id : NodeId) : NamesNode (.busy id)
  | badTransition (id : NodeId) (current requested : Status) : NamesNode (.badTransition id current requested)
  | notUpload (id : NodeId) (kind : NodeKind) : NamesNode (.notUpload id kind)

namespace Studio

variable {studio : Studio} {graph : Graph} {id : NodeId} {r : Rejection}

theorem namesNode_of_edit {edits : List Edit} (h : graph.edit id edits = .error r) : r.NamesNode := by
  unfold Graph.edit at h
  split at h
  · simp at h
  · rw [← Except.error.inj h]
    exact .notFound id

theorem namesNode_of_setStatus {status : Status} {failure : Option Failure}
    (h : graph.setStatus id status failure = .error r) : r.NamesNode := by
  unfold Graph.setStatus at h
  split at h
  · rw [← Except.error.inj h]
    exact .notFound id
  · split at h
    · simp at h
    · rw [← Except.error.inj h]
      exact .badTransition id _ _

theorem namesNode_of_begun (h : graph.begin id = .error r) : r.NamesNode := by
  unfold Graph.begin at h
  split at h
  · rw [← Except.error.inj h]
    exact .notFound id
  · split at h
    · simp at h
    · rw [← Except.error.inj h]
      exact .badTransition id _ _

theorem namesNode_of_readied {custom aspectRatio : Option String}
    (h : readied graph id custom aspectRatio = .error r) : r.NamesNode := by
  unfold readied at h
  simp only at h
  split at h
  · simp at h
  · exact namesNode_of_edit h

theorem namesNode_of_carryOut {generation : String} {plan : Plan}
    (h : studio.carryOut id generation plan = .error r) : r.NamesNode := by
  cases plan with
  | submit request => simp [carryOut] at h
  | finishVideo =>
      rcases bind_eq_error_iff.1 h with hedit | ⟨edited, _, h⟩
      · exact namesNode_of_edit hedit
      · rcases bind_eq_error_iff.1 h with hset | ⟨graph, _, h⟩
        · exact namesNode_of_setStatus hset
        · simp at h
  | refuse message =>
      rcases bind_eq_error_iff.1 h with hset | ⟨graph, _, h⟩
      · exact namesNode_of_setStatus hset
      · simp at h

theorem namesNode_of_begin {custom aspectRatio : Option String}
    (h : studio.begin id custom aspectRatio = .error r) : r.NamesNode := by
  unfold Studio.begin at h
  split at h
  · rw [← Except.error.inj h]
    exact .notFound id
  · split at h
    · rw [← Except.error.inj h]
      exact .busy id
    · rcases bind_eq_error_iff.1 h with hready | ⟨ready, _, h⟩
      · exact namesNode_of_readied hready
      · rcases bind_eq_error_iff.1 h with hbegin | ⟨begun, _, h⟩
        · exact namesNode_of_begun hbegin
        · split at h
          · rw [← Except.error.inj h]
            exact .notFound id
          · exact namesNode_of_carryOut h

theorem namesNode_of_attach {data : Bytes} {mimeType : String}
    (h : studio.attach id data mimeType = .error r) : r.NamesNode := by
  unfold Studio.attach at h
  split at h
  · rw [← Except.error.inj h]
    exact .notFound id
  · split at h
    · rw [← Except.error.inj h]
      exact .notUpload id _
    · split at h
      · rw [← Except.error.inj h]
        exact .busy id
      · cases hedit : studio.graph.edit id
            [.inputRef (some (DataUrl.encode data mimeType)), .inputMimeType (some mimeType)] with
        | error refused =>
            rw [hedit] at h
            rw [← Except.error.inj h]
            exact namesNode_of_edit hedit
        | ok graph => simp [hedit, Except.map] at h

end Studio

/-! ## Uploads -/

namespace Http

variable {studio : Studio} {id : NodeId} {r : Rejection}

theorem eq_of_sending {told : List Json} {response sent : HttpResponse} (h : sending told response = .ok sent) :
    sent = response := by
  unfold sending at h
  split at h
  · exact (Except.ok.inj h).symm
  · simp at h

theorem status_of_runAnswer {found : Option Node} {response : HttpResponse}
    (h : runAnswer id found = .ok response) : response.status = 200 := by
  cases found with
  | none =>
      obtain rfl := Except.ok.inj h
      rfl
  | some node =>
      simp only [runAnswer, nodeAnswer] at h
      cases hdump : node.dump with
      | error r => simp [hdump, Except.bind] at h
      | ok dump =>
          simp only [hdump, Except.bind, telling] at h
          rw [eq_of_sending h]
          rfl

theorem prefix_toList_append {lead : List Char} {s : String} (h : lead <+: s.toList) (t : String) :
    lead <+: (s ++ t).toList := by
  rw [String.toList_append]
  exact h.trans (List.prefix_append _ _)

theorem message_of_namesNode (h : r.NamesNode) :
    ∃ text, r.message = .whole text ∧ "Node '".toList <+: text.toList := by
  unfold Rejection.message
  cases h with
  | notFound | busy =>
      refine ⟨_, rfl, ?_⟩
      iterate 2 refine prefix_toList_append ?_ _
      exact List.prefix_rfl
  | badTransition =>
      refine ⟨_, rfl, ?_⟩
      iterate 7 refine prefix_toList_append ?_ _
      exact List.prefix_rfl
  | notUpload =>
      refine ⟨_, rfl, ?_⟩
      iterate 4 refine prefix_toList_append ?_ _
      exact List.prefix_rfl

/-- A refusal for a node is not answered like a picture that is not accepted. -/
theorem refused_ne_badPicture (h : r.NamesNode) : refused r ≠ badPicture := by
  obtain ⟨text, hmessage, hnode⟩ := message_of_namesNode h
  intro hsame
  have hbody : Json.obj [("detail", .ofWriting r.message)]
      = .obj [("detail", .str "image_base64 is not valid base64")] := by
    cases h <;> exact congrArg HttpResponse.body hsame
  rw [hmessage] at hbody
  simp only [Json.ofWriting, Json.obj.injEq, List.cons.injEq, Prod.mk.injEq, Json.str.injEq, true_and,
    and_true] at hbody
  rw [hbody] at hnode
  exact absurd hnode (by decide +kernel)

/-- What an upload answers is not taken for the answer to a picture that is not accepted. -/
theorem upload_ne_badPicture (data : Bytes) (mimeType : String) (looked : List RefusalCause) :
    (studio.upload id data mimeType).map (respond looked (runAnswer id)) ≠ replying studio badPicture := by
  have hrefused : ∀ {after : Studio} {r : Rejection}, r.NamesNode →
      Served.done after (refusal looked r) ≠ replying studio badPicture := by
    intro after r hnames h
    have hanswer := (Served.done.inj h).2
    unfold refusal at hanswer
    split at hanswer
    · exact refused_ne_badPicture hnames (eq_of_sending hanswer).symm
    · simp at hanswer
  unfold Studio.upload
  cases hattach : studio.attach id data mimeType with
  | error r => exact hrefused (Studio.namesNode_of_attach hattach)
  | ok attached =>
      simp only [Studio.run]
      cases hbegin : attached.begin id none none with
      | error r => exact hrefused (Studio.namesNode_of_begin hbegin)
      | ok begun =>
          obtain ⟨issued, after⟩ := begun
          cases issued with
          | none =>
              intro h
              exact absurd (status_of_runAnswer (Served.done.inj h).2) (by decide)
          | some ticket => simp [Studio.submit, Served.map, replying]

theorem handle_upload {request : HttpRequest}
    (hfind : find request.method request.path = .action .upload id) :
    handle studio request = uploadPicture studio id request.body := by
  simp only [handle, hfind, act]

theorem uploadPicture_of_none {body : Body} {form : UploadForm}
    (hform : body.form UploadForm.read = .ok form) (hdecode : Base64.decode? form.picture.toList = none) :
    uploadPicture studio id body = replying studio badPicture := by
  simp only [uploadPicture, checking, hform, hdecode]

theorem uploadPicture_of_some {body : Body} {form : UploadForm} {data : Bytes}
    (hform : body.form UploadForm.read = .ok form)
    (hdecode : Base64.decode? form.picture.toList = some data) :
    uploadPicture studio id body
      = (studio.upload id data form.mimeType).map
          (respond [.unknownNode, .busyNode, .badValue] (runAnswer id)) := by
  simp only [uploadPicture, checking, hform, hdecode]

/-- A URL is read exactly if it joins a media type without a mark to a payload, and what is read are the media
    type and the bytes that the payload writes. An upload whose form fits is answered that its picture is not
    accepted exactly if that is no payload; if it is one, the bytes that it writes are uploaded. -/
theorem exactly_payloads_accepted :
    (∀ (url : Option String) (data : Bytes) (mimeType : String),
        DataUrl.decodeRef? url = some (data, mimeType) ↔
          ∃ s payload, url = some s ∧ DataUrl.Joins s mimeType payload ∧ payload.Writes data) ∧
      (∀ url : Option String,
        (DataUrl.decodeRef? url).isSome = true ↔
          ∃ s mimeType payload, url = some s ∧ DataUrl.Joins s mimeType payload) ∧
      ∀ (studio : Studio) (request : HttpRequest) (id : NodeId) (form : UploadForm),
        find request.method request.path = .action .upload id →
        request.body.form UploadForm.read = .ok form →
          (handle studio request = replying studio badPicture ↔ ¬ ∃ payload : Payload, form.picture = payload.text) ∧
            ∀ (payload : Payload) (data : Bytes), form.picture = payload.text → payload.Writes data →
              handle studio request
                = (studio.upload id data form.mimeType).map
                    (respond [.unknownNode, .busyNode, .badValue] (runAnswer id)) := by
  have hread : ∀ (url : Option String) (data : Bytes) (mimeType : String),
      DataUrl.decodeRef? url = some (data, mimeType) ↔
        ∃ s payload, url = some s ∧ DataUrl.Joins s mimeType payload ∧ payload.Writes data := by
    intro url data mimeType
    simp only [DataUrl.decodeRef?, Option.bind_eq_some_iff, DataUrl.decode?_eq_some_iff_joins, exists_and_left]
  refine ⟨hread, fun url => ?_, fun studio request id form hfind hform => ?_⟩
  · rw [Option.isSome_iff_exists, Prod.exists]
    constructor
    · rintro ⟨data, mimeType, hurl⟩
      obtain ⟨s, payload, hs, hjoins, _⟩ := (hread url data mimeType).1 hurl
      exact ⟨s, mimeType, payload, hs, hjoins⟩
    · rintro ⟨s, mimeType, payload, hs, hjoins⟩
      exact ⟨payload.data, mimeType, (hread url _ mimeType).2 ⟨s, payload, hs, hjoins, payload.writes_iff.2 rfl⟩⟩
  · have huploaded : ∀ (payload : Payload), form.picture = payload.text → handle studio request
        = (studio.upload id payload.data form.mimeType).map
            (respond [.unknownNode, .busyNode, .badValue] (runAnswer id)) := by
      intro payload hpicture
      have hdecode : Base64.decode? form.picture.toList = some payload.data := by
        rw [hpicture, payload.toList_text, payload.decode?_chars]
      rw [handle_upload hfind, uploadPicture_of_some hform hdecode]
    refine ⟨⟨?_, fun hnone => ?_⟩, fun payload data hpicture hwrites => ?_⟩
    · rintro hrefused ⟨payload, hpicture⟩
      exact upload_ne_badPicture _ _ _ ((huploaded payload hpicture).symm.trans hrefused)
    · rw [handle_upload hfind]
      cases hdecode : Base64.decode? form.picture.toList with
      | none => exact uploadPicture_of_none hform hdecode
      | some data =>
          obtain ⟨payload, hchars, _⟩ := Base64.decode?_eq_some_iff.1 hdecode
          exact absurd ⟨payload, String.toList_inj.1 (hchars.trans payload.toList_text.symm)⟩ hnone
    · rw [payload.writes_iff.1 hwrites]
      exact huploaded payload hpicture

/-- An upload of one byte, and one whose last equals sign is missing. -/
theorem exactly_payloads_accepted_one_byte :
    let studio := (({} : Studio).perform (.add (.str "source-upload") none [])).1
    let request (picture : String) : HttpRequest :=
      ⟨"POST", "/nodes/node-000000000001/upload".toList, [], .json (.obj [("image_base64", .str picture)])⟩
    DataUrl.decodeRef? (some "data:image/png;base64,QQ==") = some ([65], "image/png") ∧
      handle studio (request "QQ==")
        = (studio.upload "node-000000000001" [65] "image/png").map
            (respond [.unknownNode, .busyNode, .badValue] (runAnswer "node-000000000001")) ∧
      handle studio (request "QQ=") = replying studio badPicture := by
  intro studio request
  let payload : Payload :=
    { letters := ['Q', 'Q']
      pads := 2
      alphabetic := by
        have hletter : 'Q' ∈ Base64.alphabet := Base64.mem_alphabet_iff.2 ⟨16, by decide, rfl⟩
        simpa using hletter
      closing := .two 0 }
  have hwrites : payload.Writes [65] := payload.writes_iff.2 (by decide +kernel)
  have hfind : find "POST" "/nodes/node-000000000001/upload".toList = .action .upload "node-000000000001" := by
    decide +kernel
  have hshort : ¬ ∃ payload : Payload, "QQ=" = payload.text := by
    rintro ⟨payload, htext⟩
    have hnone : Base64.decode? "QQ=".toList = none := by decide +kernel
    rw [htext, payload.toList_text, payload.decode?_chars] at hnone
    simp at hnone
  obtain ⟨hread, _, hupload⟩ := exactly_payloads_accepted
  refine ⟨(hread _ _ _).2 ⟨_, payload, rfl, ⟨by decide +kernel, by decide +kernel⟩, hwrites⟩, ?_, ?_⟩
  · exact (hupload studio (request "QQ==") _ ⟨"QQ==", "image/png"⟩ hfind rfl).2 payload [65] (by decide +kernel)
      hwrites
  · exact (hupload studio (request "QQ=") _ ⟨"QQ=", "image/png"⟩ hfind rfl).1.2 hshort

end Http

end PromptCanvas
