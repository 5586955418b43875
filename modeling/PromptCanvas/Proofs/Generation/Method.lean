import PromptCanvas.Proofs.Generation.Failure
import PromptCanvas.Proofs.Generation.Overrun

set_option autoImplicit false

/-! # What a call to the service comes to

Every method of the service asks the client once, if there is one and the call comes about, and then makes a value
of the reply or finds that it cannot (`asked_eq`). Which value a reply gives is said by `Call.Gives`, for frames by
the grammar of the text that writes them. -/

namespace PromptCanvas

open Generation Text

/-! ## Frames in a text -/

namespace Generation

theorem textsOf?_eq_some_iff {items : List Json} {texts : List String} :
    textsOf? items = some texts ↔ items = texts.map .str := by
  induction items generalizing texts with
  | nil => cases texts <;> simp [textsOf?]
  | cons item items ih =>
      cases texts with
      | nil => cases item <;> simp [textsOf?]
      | cons text texts => cases item <;> simp [textsOf?, ih, and_comm]

/-- A text writes frames: it is an object with a list of texts under `prompts`, or an object without `prompts`. -/
def WritesFrames (text : String) (frames : List String) : Prop :=
  ∃ fields : Json.Fields, Json.IsDocument .reply (.obj fields) (symbols text.toList) ∧
    (fields.get? "prompts" = none ∧ frames = [] ∨ fields.get? "prompts" = some (.arr (frames.map .str)))

theorem framesIn?_eq_some_iff {text : String} {frames : List String} :
    framesIn? text = some frames ↔ WritesFrames text frames := by
  simp only [framesIn?, WritesFrames, ← Json.read?_eq_some_iff, Option.bind_eq_bind, Option.bind_eq_some_iff]
  constructor
  · rintro ⟨document, hdocument, h⟩
    cases document with
    | obj fields =>
        refine ⟨fields, hdocument, ?_⟩
        simp only at h
        split at h
        · next hnone => exact Or.inl ⟨hnone, (Option.some.inj h).symm⟩
        · next items hitems => exact Or.inr (textsOf?_eq_some_iff.1 h ▸ hitems)
        · simp at h
    | _ => simp at h
  · rintro ⟨fields, hdocument, ⟨hnone, rfl⟩ | htexts⟩
    · exact ⟨_, hdocument, by simp only [hnone]⟩
    · exact ⟨_, hdocument, by simp only [htexts, textsOf?_eq_some_iff]⟩

/-! ## Values of replies -/

variable {reply : ModelReply} {failure : Failure}

theorem picture_eq_ok_iff {data : Bytes} :
    reply.picture = .ok data ↔ reply.pictures.head? = some (some data) ∧ data ≠ [] := by
  unfold ModelReply.picture
  split
  · next byte rest hhead =>
      rw [hhead, Except.ok.injEq, Option.some.injEq, Option.some.injEq]
      exact ⟨fun h => ⟨h, h ▸ List.cons_ne_nil byte rest⟩, And.left⟩
  · next hhead =>
      refine iff_of_false (by simp) fun h => ?_
      obtain ⟨byte, rest, rfl⟩ := List.exists_cons_of_ne_nil h.2
      exact hhead byte rest h.1

theorem eq_noPicture (h : reply.picture = .error failure) : failure = noPicture := by
  unfold ModelReply.picture at h
  split at h
  · simp at h
  · exact (Except.error.inj h).symm

theorem animation_eq_ok_iff {frames : List String} :
    reply.animation = .ok frames ↔
      reply.frames = some frames ∨ reply.frames = none ∧ WritesFrames (reply.text.getD "") frames := by
  rw [← framesIn?_eq_some_iff, ← Option.or_eq_some_iff]
  unfold ModelReply.animation
  cases reply.frames.or (framesIn? (reply.text.getD "")) <;> simp

theorem eq_badFrames (h : reply.animation = .error failure) : failure = badFrames := by
  unfold ModelReply.animation at h
  split at h
  · simp at h
  · exact (Except.error.inj h).symm

end Generation

namespace Call

/-- What a call is answered with. -/
abbrev Value : Call → Type
  | image _ _ => Bytes
  | describe _ _ => String
  | text _ => String
  | animation _ _ _ => List String

/-- What a method makes of a reply. -/
def finish : (call : Call) → ModelReply → Except Failure call.Value
  | image _ _, reply => reply.picture
  | describe _ _, reply => .ok reply.words
  | text _, reply => .ok reply.words
  | animation _ _ _, reply => reply.animation

/-- The method that answers a call. -/
def asked (settings : Settings) (client : Option Client) : (call : Call) → Asked call.Value
  | image prompt aspectRatio => generateImage settings client prompt aspectRatio
  | describe data mimeType => describeImage settings client data mimeType
  | text prompt => generateText settings client prompt
  | animation basePrompt instruction frameCount =>
      generateAnimation settings client basePrompt instruction frameCount

/-- A reply gives a call a value: the bytes of its first picture, its text without white space around it, or the
    frames that it has in the form that was asked for or, without them, in its text. -/
def Gives (reply : ModelReply) : (call : Call) → call.Value → Prop
  | image _ _, data => reply.pictures.head? = some (some data) ∧ data ≠ []
  | describe _ _, words => words = trimmed (reply.text.getD "")
  | text _, words => words = trimmed (reply.text.getD "")
  | animation _ _ _, frames =>
      reply.frames = some frames ∨ reply.frames = none ∧ WritesFrames (reply.text.getD "") frames

/-- The failure of a reply that gives no value. -/
def unusable : Call → Failure
  | image _ _ => noPicture
  | _ => badFrames

/-- What every value is: a picture has bytes, and a text has no white space around it. -/
def Tidy : (call : Call) → call.Value → Prop
  | image _ _, data => data ≠ []
  | describe _ _, words | text _, words =>
      ∀ c, words.toList.head? = some c ∨ words.toList.getLast? = some c → isBlank c = false
  | animation _ _ _, _ => True

variable {call : Call} {settings : Settings} {reply : ModelReply}

theorem finish_eq_ok_iff {value : call.Value} : call.finish reply = .ok value ↔ call.Gives reply value := by
  cases call with
  | image prompt aspectRatio => exact picture_eq_ok_iff
  | describe data mimeType => simp [finish, Gives, ModelReply.words, eq_comm]
  | text prompt => simp [finish, Gives, ModelReply.words, eq_comm]
  | animation basePrompt instruction frameCount => exact animation_eq_ok_iff

/-- A reply that cannot be used ends in the one failure for it. -/
theorem eq_unusable {failure : Failure} (h : call.finish reply = .error failure) : failure = call.unusable := by
  cases call with
  | image prompt aspectRatio => exact eq_noPicture h
  | describe data mimeType => exact absurd h (by simp [finish])
  | text prompt => exact absurd h (by simp [finish])
  | animation basePrompt instruction frameCount => exact eq_badFrames h

theorem finish_eq_error_iff {failure : Failure} :
    call.finish reply = .error failure ↔ failure = call.unusable ∧ ∀ value, ¬ call.Gives reply value := by
  simp only [← finish_eq_ok_iff]
  cases hfinish : call.finish reply with
  | ok value => simp
  | error found => simp [eq_unusable hfinish, eq_comm]

theorem tidy_of_gives {value : call.Value} (h : call.Gives reply value) : call.Tidy value := by
  have htrimmed : ∀ (s : String) (c : Char), (trimmed s).toList.head? = some c ∨
      (trimmed s).toList.getLast? = some c → isBlank c = false := by
    intro s c hc
    rw [toList_trimmed] at hc
    rcases hc with hhead | hlast
    · exact not_isBlank_of_mem_head?_trim _ c hhead
    · exact not_isBlank_of_mem_getLast?_trim _ c hlast
  cases call with
  | image prompt aspectRatio => exact h.2
  | describe data mimeType => exact h ▸ htrimmed _
  | text prompt => exact h ▸ htrimmed _
  | animation basePrompt instruction frameCount => trivial

theorem asked_eq (client : Option Client) :
    call.asked settings client = (ask client (call.modelCall settings) call.purpose).andThen call.finish := by
  cases call <;> rfl

theorem asked_none :
    (call.asked settings none).calls = [] ∧ (call.asked settings none).result = .error (.known missingKey) := by
  rw [asked_eq]
  exact ⟨rfl, rfl⟩

theorem asked_of_unmade {client : Client} {trouble : Trouble} (h : call.modelCall settings = .error trouble) :
    (call.asked settings (some client)).calls = [] ∧
      (call.asked settings (some client)).result = .error (trouble.reduced client.room call.purpose) := by
  rw [asked_eq, h]
  exact ⟨rfl, rfl⟩

section

variable {client : Client} {made : ModelCall} (hmade : call.modelCall settings = .ok made)
include hmade

theorem calls_of_made : (call.asked settings (some client)).calls = [made] := by
  rw [asked_eq, hmade, ask]
  cases client.answer made <;> rfl

theorem result_of_trouble {trouble : Trouble} (h : client.answer made = .error trouble) :
    (call.asked settings (some client)).result = .error (trouble.reduced client.room call.purpose) := by
  rw [asked_eq, hmade]
  simp only [ask, h, Asked.andThen]
  rfl

theorem result_of_reply (h : client.answer made = .ok reply) :
    (call.asked settings (some client)).result = (call.finish reply).mapError .known := by
  rw [asked_eq, hmade]
  simp only [ask, h, Asked.andThen]
  rfl

end

theorem mapError_eq_ok_iff {ε ε' α : Type} {x : Except ε α} {f : ε → ε'} {a : α} :
    x.mapError f = .ok a ↔ x = .ok a := by
  cases x <;> simp [Except.mapError]

theorem mapError_eq_error_iff {ε ε' α : Type} {x : Except ε α} {f : ε → ε'} {e : ε'} :
    x.mapError f = .error e ↔ ∃ found, x = .error found ∧ e = f found := by
  cases x <;> simp [Except.mapError, eq_comm]

theorem modelCall_animation {frameCount : Int} (basePrompt instruction : String)
    (h : hasNumeral (frameLimit settings frameCount) = true) :
    (animation basePrompt instruction frameCount).modelCall settings
      = .ok (.content settings.textModel
          (.words (Instruction.animation (frameLimit settings frameCount) basePrompt instruction))
          (some "application/json")) := by
  rw [modelCall, animationCall, if_pos h]

theorem finish_mapError_eq_error_iff {trouble : Trouble} :
    (call.finish reply).mapError Trouble.known = .error trouble ↔
      trouble = .known call.unusable ∧ ∀ value, ¬ call.Gives reply value := by
  rw [mapError_eq_error_iff]
  constructor
  · rintro ⟨failure, hfinish, rfl⟩
    obtain ⟨rfl, hnone⟩ := finish_eq_error_iff.1 hfinish
    exact ⟨rfl, hnone⟩
  · rintro ⟨rfl, hnone⟩
    exact ⟨_, finish_eq_error_iff.2 ⟨rfl, hnone⟩, rfl⟩

theorem modelCall_eq_error {trouble : Trouble} (h : call.modelCall settings = .error trouble) :
    trouble = .tooManyDigits := by
  cases call with
  | animation basePrompt instruction frameCount =>
      simp only [modelCall, animationCall] at h
      split at h
      · simp at h
      · exact (Except.error.inj h).symm
  | image | describe | text => simp [modelCall] at h

end Call

/-! ## The number of frames -/

namespace Generation

theorem hasNumeral_of_lt {n : Int} (h : n.natAbs < 10) : hasNumeral n = true := by
  have hpow (count : Nat) (hcount : count ≠ 0) : 10 ≤ Nat.pow 10 count := Nat.le_self_pow hcount 10
  exact decide_eq_true (h.trans_le (hpow maxDigits (by decide)))

theorem frameLimit_bounds (settings : Settings) (frameCount : Int) :
    1 ≤ frameLimit settings frameCount ∧ frameLimit settings frameCount ≤ max 1 settings.animationMaxFrames := by
  unfold frameLimit
  omega

theorem frameLimit_eq_self {settings : Settings} {frameCount : Int} (hleast : 1 ≤ frameCount)
    (hmost : frameCount ≤ settings.animationMaxFrames) : frameLimit settings frameCount = frameCount := by
  unfold frameLimit
  omega

end Generation

namespace Trouble

variable {trouble : Trouble} {room : Nat}

/-- A trouble that there is room for is reduced to the failure that it is. -/
theorem reduced_of_shallow (h : trouble.Shallow room) (context : String) :
    ∃ failure, trouble.classify room context = .ok failure ∧ trouble.reduced room context = .known failure := by
  cases hclassified : trouble.classify room context with
  | ok failure => exact ⟨failure, rfl, by rw [reduced, hclassified]⟩
  | error container => exact absurd (classify_eq_error_iff.1 hclassified) (h container)

theorem reduced_of_overruns {container : Json.Container} (h : trouble.Overruns room container)
    (context : String) : trouble.reduced room context = overrun container := by
  rw [reduced, classify_of_overruns h]

theorem classify_tooManyDigits (room : Nat) (context : String) :
    tooManyDigits.classify room context = .ok (unclear tooManyDigits.text context) := by
  have hquiet : (occurs (symbols quotaStatus.toList) tooManyDigits.text.symbols ||
      occurs (symbols quotaCode.toList) tooManyDigits.text.symbols) = false := by decide +kernel
  have hnothing : fromBrace tooManyDigits.text.symbols = [] := by decide +kernel
  show ofText room tooManyDigits.text context = _
  rw [ofText, hquiet, embeddedMessage?, hnothing]
  rfl

end Trouble

namespace Call

/-- A call comes about, and is answered with a reply or with trouble, or it does not. -/
theorem asked_cases (settings : Settings) (client : Client) (call : Call) :
    (call.modelCall settings = .error .tooManyDigits ∧
      (call.asked settings (some client)).result
        = .error (.known (Trouble.unclear Trouble.tooManyDigits.text call.purpose))) ∨
    (∃ made trouble, call.modelCall settings = .ok made ∧ client.answer made = .error trouble ∧
      (call.asked settings (some client)).result = .error (trouble.reduced client.room call.purpose)) ∨
    ∃ made reply, call.modelCall settings = .ok made ∧ client.answer made = .ok reply ∧
      (call.asked settings (some client)).result = (call.finish reply).mapError .known := by
  cases hmade : call.modelCall settings with
  | error trouble =>
      obtain rfl := modelCall_eq_error hmade
      refine Or.inl ⟨rfl, (asked_of_unmade hmade).2.trans ?_⟩
      rw [Trouble.reduced, Trouble.classify_tooManyDigits]
  | ok made =>
      cases hanswer : client.answer made with
      | error trouble => exact Or.inr (Or.inl ⟨made, trouble, rfl, hanswer, result_of_trouble hmade hanswer⟩)
      | ok reply => exact Or.inr (Or.inr ⟨made, reply, rfl, hanswer, result_of_reply hmade hanswer⟩)

end Call

/-! ## Every call -/

/-- A call asks the client at most once: not at all without one, or where the number of frames has no numeral. It
    ends in a value or in a failure: the missing key, the number that cannot be written, the client's trouble as it
    is classified, or what is wrong with a reply that gives no value. Nothing is said of a trouble that there is no
    room to classify. The number of frames that is sent is the one asked for where the settings allow it. -/
theorem Call.asked_ends (settings : Settings) (client : Option Client) (call : Call) :
    (call.asked settings client).calls.length ≤ 1 ∧
    ((∀ answers made trouble, client = some answers → call.modelCall settings = .ok made →
        answers.answer made = .error trouble → trouble.Shallow answers.room) →
      (∃ value, (call.asked settings client).result = .ok value) ∨
        ∃ failure, (call.asked settings client).result = .error (.known failure)) ∧
    (client = none →
      (call.asked settings client).calls = [] ∧
        (call.asked settings client).result = .error (.known missingKey)) ∧
    (∀ answers, client = some answers →
      (∀ trouble, call.modelCall settings = .error trouble →
        trouble = .tooManyDigits ∧ (call.asked settings client).calls = [] ∧
          (call.asked settings client).result = .error (.known (Trouble.unclear trouble.text call.purpose))) ∧
      (∀ made, call.modelCall settings = .ok made →
        (call.asked settings client).calls = [made] ∧
        (∀ trouble, answers.answer made = .error trouble → trouble.Shallow answers.room →
          ∃ failure, trouble.classify answers.room call.purpose = .ok failure ∧
            (call.asked settings client).result = .error (.known failure)) ∧
        (∀ reply, answers.answer made = .ok reply →
          (∀ value, (call.asked settings client).result = .ok value ↔ call.Gives reply value) ∧
          (∀ trouble, (call.asked settings client).result = .error trouble ↔
            trouble = .known call.unusable ∧ ∀ value, ¬ call.Gives reply value)))) ∧
    (∀ value, (call.asked settings client).result = .ok value → call.Tidy value) ∧
    (∀ basePrompt instruction frameCount, call = .animation basePrompt instruction frameCount →
      ∃ sent, call.modelCall settings
          = (if hasNumeral sent then
              .ok (.content settings.textModel (.words (Instruction.animation sent basePrompt instruction))
                (some "application/json"))
            else .error .tooManyDigits) ∧
        1 ≤ sent ∧ sent ≤ max 1 settings.animationMaxFrames ∧
        (1 ≤ frameCount → frameCount ≤ settings.animationMaxFrames → sent = frameCount)) ∧
    ((∀ basePrompt instruction frameCount, call ≠ .animation basePrompt instruction frameCount) →
      ∃ made, call.modelCall settings = .ok made) := by
  refine ⟨?_, ?_, ?_, ?_, ?_, ?_, ?_⟩
  · cases client with
    | none => simp [Call.asked_none]
    | some answers =>
        cases hmade : call.modelCall settings with
        | error trouble => simp [Call.asked_of_unmade hmade]
        | ok made => simp [Call.calls_of_made hmade]
  · intro hshallow
    cases client with
    | none => exact Or.inr ⟨_, Call.asked_none.2⟩
    | some answers =>
        obtain ⟨_, hresult⟩ | ⟨made, trouble, hmade, htrouble, hresult⟩ | ⟨made, reply, _, _, hresult⟩ :=
          Call.asked_cases settings answers call
        · exact Or.inr ⟨_, hresult⟩
        · obtain ⟨failure, _, hreduced⟩ :=
            Trouble.reduced_of_shallow (hshallow answers made trouble rfl hmade htrouble) call.purpose
          exact Or.inr ⟨failure, hreduced ▸ hresult⟩
        · cases hfinish : call.finish reply with
          | ok value => exact Or.inl ⟨value, by rw [hresult, hfinish]; rfl⟩
          | error failure => exact Or.inr ⟨failure, by rw [hresult, hfinish]; rfl⟩
  · rintro rfl
    exact Call.asked_none
  · rintro answers rfl
    refine ⟨fun trouble hunmade => ?_, fun made hmade => ⟨Call.calls_of_made hmade, ?_, ?_⟩⟩
    · obtain rfl := Call.modelCall_eq_error hunmade
      refine ⟨rfl, (Call.asked_of_unmade hunmade).1, (Call.asked_of_unmade hunmade).2.trans ?_⟩
      rw [Trouble.reduced, Trouble.classify_tooManyDigits]
    · intro trouble htrouble hshallow
      obtain ⟨failure, hfailure, hreduced⟩ := Trouble.reduced_of_shallow hshallow call.purpose
      exact ⟨failure, hfailure, (Call.result_of_trouble hmade htrouble).trans (congrArg Except.error hreduced)⟩
    · intro reply hreply
      rw [Call.result_of_reply hmade hreply]
      exact ⟨fun value => Call.mapError_eq_ok_iff.trans Call.finish_eq_ok_iff,
        fun trouble => Call.finish_mapError_eq_error_iff⟩
  · intro value hvalue
    cases client with
    | none =>
        rw [Call.asked_none.2] at hvalue
        simp at hvalue
    | some answers =>
        obtain ⟨_, hresult⟩ | ⟨_, _, _, _, hresult⟩ | ⟨made, reply, _, _, hresult⟩ :=
          Call.asked_cases settings answers call
        · simp [hresult] at hvalue
        · simp [hresult] at hvalue
        · rw [hresult, Call.mapError_eq_ok_iff, Call.finish_eq_ok_iff] at hvalue
          exact Call.tidy_of_gives hvalue
  · rintro basePrompt instruction frameCount rfl
    obtain ⟨hleast, hmost⟩ := frameLimit_bounds settings frameCount
    exact ⟨frameLimit settings frameCount, rfl, hleast, hmost, frameLimit_eq_self⟩
  · intro hother
    cases call with
    | image | describe | text => exact ⟨_, rfl⟩
    | animation basePrompt instruction frameCount => exact absurd rfl (hother basePrompt instruction frameCount)

/-- A text that holds frames, a trouble with a text, and a number of frames that the settings allow. -/
theorem Call.asked_ends_frames_and_trouble :
    ((Call.animation "a fox" "it jumps" 2).asked {} (some
      { answer := fun _ => .ok ({ text := some "\x7b\"prompts\": [\"a\", \"b\"]\x7d" } : ModelReply) })).result
        = .ok ["a", "b"] ∧
    ((Call.text "a fox").asked {} (some { answer := fun _ => .error (.other "socket closed") })).result
      = .error (.known ⟨.unknown, "An error occurred while trying to generate text: socket closed"⟩) ∧
    ((Call.text "a fox").asked {} none).result = .error (.known missingKey) ∧
    ∃ sent, (Call.animation "a fox" "it jumps" 2).modelCall {}
      = (if hasNumeral sent then
          .ok (.content "gemini-2.5-flash" (.words (Instruction.animation sent "a fox" "it jumps"))
            (some "application/json"))
        else .error .tooManyDigits) ∧ sent = 2 := by
  refine ⟨?_, ?_, ?_, ?_⟩
  · have hmade := @Call.modelCall_animation {} 2 "a fox" "it jumps" (hasNumeral_of_lt (by decide))
    have hends := (Call.asked_ends {}
      (some { answer := fun _ => .ok { text := some "\x7b\"prompts\": [\"a\", \"b\"]\x7d" } })
      (.animation "a fox" "it jumps" 2)).2.2.2.1 _ rfl
    refine (((hends.2 _ hmade).2.2 _ rfl).1 ["a", "b"]).2 (Or.inr ⟨rfl, framesIn?_eq_some_iff.1 ?_⟩)
    decide +kernel
  · have hends := (Call.asked_ends {} (some { answer := fun _ => .error (.other "socket closed") })
      (.text "a fox")).2.2.2.1 _ rfl
    have hshallow : (Trouble.other "socket closed").Shallow Json.stackRoom := by
      rintro container ⟨_, _, _, document, hopens, _⟩
      have hnothing : Trouble.fromBrace (Trouble.other "socket closed").text.symbols = [] := by decide +kernel
      rw [Trouble.fromBrace_of_opens hopens] at hnothing
      obtain ⟨_, _, _, _, hdocument⟩ := hopens
      exact List.cons_ne_nil _ _ (hdocument.symm.trans hnothing)
    obtain ⟨failure, hfailure, hresult⟩ := (hends.2 _ rfl).2.1 _ rfl hshallow
    have hclassified : (Trouble.other "socket closed").classify Json.stackRoom "generate text"
        = .ok ⟨.unknown, "An error occurred while trying to generate text: socket closed"⟩ := by decide +kernel
    rw [Except.ok.inj (hfailure.symm.trans hclassified)] at hresult
    exact hresult
  · exact ((Call.asked_ends {} none (.text "a fox")).2.2.1 rfl).2
  · obtain ⟨sent, hcall, _, _, hsent⟩ :=
      (Call.asked_ends {} none (.animation "a fox" "it jumps" 2)).2.2.2.2.2.1 _ _ _ rfl
    exact ⟨sent, hcall, hsent (by decide) (by decide)⟩

/-- An object without frames, in which lists are nested two hundred and one deep. -/
def Generation.deepText : List Char :=
  "\x7b\"a\":".toList ++ (List.replicate 201 '[' ++ (List.replicate 201 ']' ++ ['\x7d']))

/-- Frames are returned as they stand, an object without `prompts` is refused where something in it is nested past
    the limit, and a trouble whose text is nested past the room of its reader does not end in a failure. -/
theorem Generation.untrimmed_frame_and_deep_texts :
    ((Call.animation "b" "i" 2).asked {}
      (some { answer := fun _ => .ok { text := some "\x7b\"prompts\": [\" a\"]\x7d" } })).result = .ok [" a"] ∧
    (∃ fields : Json.Fields, Json.IsDocument .unlimited (.obj fields) (symbols deepText) ∧
      fields.get? "prompts" = none) ∧
    ((Call.animation "b" "i" 2).asked {}
      (some { answer := fun _ => .ok { text := some (String.ofList deepText) } })).result
        = .error (.known badFrames) ∧
    ((Call.text "a").asked {} (some { answer := fun _ => .error (.opened 2000) })).result
      = .error (Trouble.overrun .list) := by
  have hobject : (Json.read? .unlimited deepText).map (fun document =>
      (document.isObject, (document.field? "prompts").isNone)) = some (true, true) := by decide +kernel
  have hnone : (Json.read? .reply deepText).isNone = true := by decide +kernel
  have hmade := @Call.modelCall_animation {} 2 "b" "i" (hasNumeral_of_lt (by decide))
  refine ⟨?_, ?_, ?_, ?_⟩
  · refine (Call.result_of_reply hmade rfl).trans (Call.mapError_eq_ok_iff.2 (Call.finish_eq_ok_iff.2 ?_))
    exact Or.inr ⟨rfl, framesIn?_eq_some_iff.1 (by decide +kernel)⟩
  · obtain ⟨document, hdocument, h⟩ := Option.map_eq_some_iff.1 hobject
    obtain ⟨hfields, hprompts⟩ := Prod.mk.inj h
    cases document with
    | obj fields => exact ⟨fields, Json.read?_eq_some_iff.1 hdocument, Option.isNone_iff_eq_none.1 hprompts⟩
    | _ => simp [Json.isObject] at hfields
  · refine (Call.result_of_reply hmade rfl).trans (Call.finish_mapError_eq_error_iff.2 ⟨rfl, ?_⟩)
    rintro frames (hframes | ⟨_, fields, hdocument, _⟩)
    · simp at hframes
    · rw [Option.getD_some, String.toList_ofList, ← Json.read?_eq_some_iff] at hdocument
      rw [hdocument] at hnone
      simp at hnone
  · refine (Call.result_of_trouble rfl rfl).trans (congrArg Except.error ?_)
    exact Trouble.reduced_of_overruns (Trouble.overruns_opened (by decide) (by decide)) "generate text"

end PromptCanvas
