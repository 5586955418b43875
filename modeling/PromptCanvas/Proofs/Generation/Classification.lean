import PromptCanvas.Http.Server
import PromptCanvas.Proofs.Text.Search
import PromptCanvas.Proofs.Text.Trim

set_option autoImplicit false

/-! # What the kinds of failures mean

A trouble that is no failure yet becomes one by tests in an order: what an error answer shows by itself comes
before what its text shows, and a used-up quota before a message. `Exhausted` and `Tells` say without that
order which quota is used up and which message is told, and `Overruns` where the search for a message breaks
off. Each of the three kinds that are left has its own lemma, and the kinds exclude each other, so that the
conditions are necessary as well. -/

namespace PromptCanvas

open Text

theorem Json.field?_eq_some_iff {name : String} {document value : Json} :
    document.field? name = some value ↔
      ∃ fields : Json.Fields, document = .obj fields ∧ fields.get? name = some value := by
  cases document with
  | obj fields => simp [Json.field?]
  | _ => simp [Json.field?]

/-! ## Texts that may be torn -/

namespace Writing

theorem whole_append_inj {s : String} {w v : Writing} : (whole s ++ w : Writing) = whole s ++ v ↔ w = v := by
  refine ⟨fun h => ?_, fun h => h ▸ rfl⟩
  cases w with
  | whole t =>
      cases v with
      | whole u => exact congrArg whole ((String.append_right_inj s).1 (Writing.whole.inj h))
      | torn later => exact Writing.noConfusion h
  | torn symbols =>
      cases v with
      | whole u => exact Writing.noConfusion h
      | torn later => exact congrArg torn (List.append_cancel_left (Writing.torn.inj h))

theorem whole_append_ne_empty {s : String} (h : s ≠ "") (w : Writing) : (whole s ++ w : Writing) ≠ whole "" := by
  cases w with
  | whole t => exact fun happend => h (String.append_eq_empty_iff.1 (Writing.whole.inj happend)).1
  | torn symbols => exact Writing.noConfusion

theorem symbols_append (w v : Writing) : (w ++ v).symbols = w.symbols ++ v.symbols := by
  cases w with
  | whole s =>
      cases v with
      | whole t =>
          show Text.symbols (s ++ t).toList = _
          rw [String.toList_append, Text.symbols, List.map_append]
          rfl
      | torn symbols => rfl
  | torn symbols => cases v <;> rfl

end Writing

/-- An error answer says by its code or its status that a quota is used up. A code is the number 429 whether
    it is written with a fraction or not. -/
def ApiError.Exhausts (error : ApiError) : Prop :=
  (error.code = .int 429 ∨ ∃ x, error.code = .float x ∧ x.toInt? = some 429) ∨
    error.status = .str Trouble.quotaStatus

namespace Trouble

/-- A trouble is an error answer with a message. -/
def Worded (trouble : Trouble) : Prop := ∃ error, trouble = .api error ∧ error.message.isSomething

/-- A quota is used up: an error answer says so by itself, or else the text does, if no error answer has a
    message that counts for more. -/
def Exhausted (trouble : Trouble) : Prop :=
  (∃ error, trouble = .api error ∧ error.Exhausts) ∨
    ((symbols quotaStatus.toList <:+: trouble.text.symbols ∨
        symbols quotaCode.toList <:+: trouble.text.symbols) ∧
      ¬ trouble.Worded)

/-- What a text is from its first brace on. -/
def Opens (text document : List Symbol) : Prop :=
  ∃ front rest, text = front ++ .char '{' :: rest ∧ .char '{' ∉ front ∧ document = .char '{' :: rest

/-- A text holds a message: from its first brace on it is one document, an object whose `error` is an object
    with that message. With text after it, or with a numeral that is too long, it is none. -/
def Holds (room : Nat) (text : List Symbol) (message : Json) : Prop :=
  ∃ document, Opens text document ∧
    ∃ fields error : Json.Fields, Json.read (.document room) document = .ok (.obj fields) ∧
      fields.get? "error" = some (.obj error) ∧ error.get? "message" = some message ∧
      message.isSomething = true

/-- A trouble tells a message: that of an error answer or, without one, that in its text. -/
inductive Tells (room : Nat) : Trouble → Json → Prop where
  | answered {error : ApiError} (h : error.message.isSomething = true) : Tells room (.api error) error.message
  | written {trouble : Trouble} {message : Json} (hplain : ¬ trouble.Worded)
      (h : Holds room trouble.text.symbols message) : Tells room trouble message

/-- There is no room for a container in the text of a trouble, and the text is read: the trouble is no failure,
    and neither a used-up quota nor the message of an error answer counts before it. -/
structure Overruns (room : Nat) (trouble : Trouble) (container : Json.Container) : Prop where
  raw : trouble.isFailure = false
  quiet : ¬ trouble.Exhausted
  plain : ¬ trouble.Worded
  deep : ∃ document, Opens trouble.text.symbols document ∧
    Json.read (.document room) document = .error (.tooDeep container)

/-- There is room for all containers in the text of a trouble, as far as the text is read. -/
def Shallow (room : Nat) (trouble : Trouble) : Prop := ∀ container, ¬ trouble.Overruns room container

/-! ## The tests one by one -/

theorem isQuotaCode_iff {code : Json} :
    isQuotaCode code = true ↔ code = .int 429 ∨ ∃ x, code = .float x ∧ x.toInt? = some 429 := by
  cases code with
  | int n => simp [isQuotaCode]
  | float x => simp [isQuotaCode]
  | _ => simp [isQuotaCode]

theorem isQuotaStatus_iff {status : Json} :
    isQuotaStatus status = true ↔ status = .str quotaStatus := by
  cases status with
  | str s => simp [isQuotaStatus]
  | _ => simp [isQuotaStatus]

/-- A text from its first brace on is what the text opens, or the text has no brace. -/
theorem opens_or_eq_nil (text : List Symbol) : Opens text (fromBrace text) ∨ fromBrace text = [] := by
  unfold fromBrace
  cases hdrop : text.dropWhile (· ≠ .char '{') with
  | nil => exact Or.inr rfl
  | cons symbol rest =>
      have hsymbol := not_of_mem_head?_dropWhile text symbol (by rw [hdrop]; rfl)
      obtain rfl : symbol = .char '{' := not_not.1 (of_decide_eq_false hsymbol)
      refine Or.inl ⟨text.takeWhile (· ≠ .char '{'), rest, ?_, fun hmem => ?_, rfl⟩
      · rw [← hdrop, List.takeWhile_append_dropWhile]
      · simpa using List.mem_takeWhile_imp hmem

theorem fromBrace_of_opens {text document : List Symbol} (h : Opens text document) :
    fromBrace text = document := by
  obtain ⟨front, rest, rfl, hfront, rfl⟩ := h
  exact dropWhile_append_eq (fun symbol hmem => decide_eq_true (ne_of_mem_of_not_mem hmem hfront)) (by simp)

/-- A result of reading a text from its first brace on, other than that nothing is there. -/
theorem read_fromBrace_eq_iff {room : Nat} {text : List Symbol} {result : Except Json.Refusal Json}
    (hresult : .error .malformed ≠ result) :
    Json.read (.document room) (fromBrace text) = result ↔
      ∃ document, Opens text document ∧ Json.read (.document room) document = result := by
  constructor
  · intro hread
    rcases opens_or_eq_nil text with hopens | hnil
    · exact ⟨_, hopens, hread⟩
    · rw [hnil] at hread
      exact absurd hread hresult
  · rintro ⟨document, hopens, hread⟩
    rw [fromBrace_of_opens hopens, hread]

theorem messageOf?_eq_some_iff {document message : Json} :
    messageOf? document = some message ↔
      ∃ fields error : Json.Fields, document = .obj fields ∧ fields.get? "error" = some (.obj error) ∧
        error.get? "message" = some message ∧ message.isSomething = true := by
  simp only [messageOf?, Option.bind_eq_bind, Option.bind_eq_some_iff, Json.field?_eq_some_iff,
    Option.ite_none_right_eq_some, Option.some.injEq]
  constructor
  · rintro ⟨_, ⟨fields, rfl, herror⟩, _, ⟨error, rfl, hmessage⟩, hsome, rfl⟩
    exact ⟨fields, error, rfl, herror, hmessage, hsome⟩
  · rintro ⟨fields, error, rfl, herror, hmessage, hsome⟩
    exact ⟨_, ⟨fields, rfl, herror⟩, _, ⟨error, rfl, hmessage⟩, hsome, rfl⟩

theorem embeddedMessage?_cases (room : Nat) (text : List Symbol) :
    (∃ container, Json.read (.document room) (fromBrace text) = .error (.tooDeep container) ∧
        embeddedMessage? room text = .error container) ∨
      (∃ document, Json.read (.document room) (fromBrace text) = .ok document ∧
        embeddedMessage? room text = .ok (messageOf? document)) ∨
      (∃ refusal, Json.read (.document room) (fromBrace text) = .error refusal ∧
        (∀ container, refusal ≠ .tooDeep container) ∧ embeddedMessage? room text = .ok none) := by
  unfold embeddedMessage?
  cases Json.read (.document room) (fromBrace text) with
  | ok document => exact Or.inr (Or.inl ⟨document, rfl, rfl⟩)
  | error refusal =>
      cases refusal with
      | tooDeep container => exact Or.inl ⟨container, rfl, rfl⟩
      | malformed | tooLong => exact Or.inr (Or.inr ⟨_, rfl, fun _ => Json.Refusal.noConfusion, rfl⟩)

/-- A message in a text is found from the first brace on; without a brace there is no document. -/
theorem embeddedMessage?_eq_some_iff {room : Nat} {text : List Symbol} {message : Json} :
    embeddedMessage? room text = .ok (some message) ↔ Holds room text message := by
  have hholds : Holds room text message ↔
      ∃ document, Json.read (.document room) (fromBrace text) = .ok document ∧
        messageOf? document = some message := by
    constructor
    · rintro ⟨document, hopens, fields, error, hread, htold⟩
      exact ⟨_, (read_fromBrace_eq_iff (by simp)).2 ⟨document, hopens, hread⟩,
        messageOf?_eq_some_iff.2 ⟨fields, error, rfl, htold⟩⟩
    · rintro ⟨value, hread, htold⟩
      obtain ⟨document, hopens, hdocument⟩ := (read_fromBrace_eq_iff (by simp)).1 hread
      obtain ⟨fields, error, rfl, herror⟩ := messageOf?_eq_some_iff.1 htold
      exact ⟨document, hopens, fields, error, hdocument, herror⟩
  rw [hholds]
  obtain ⟨container, hread, hfound⟩ | ⟨document, hread, hfound⟩ | ⟨refusal, hread, _, hfound⟩ :=
    embeddedMessage?_cases room text
  · simp [hread, hfound]
  · simp [hread, hfound]
  · simp [hread, hfound]

theorem embeddedMessage?_eq_error_iff {room : Nat} {text : List Symbol} {container : Json.Container} :
    embeddedMessage? room text = .error container ↔
      ∃ document, Opens text document ∧ Json.read (.document room) document = .error (.tooDeep container) := by
  rw [← read_fromBrace_eq_iff (by simp)]
  obtain ⟨found, hread, hfound⟩ | ⟨document, hread, hfound⟩ | ⟨refusal, hread, hother, hfound⟩ :=
    embeddedMessage?_cases room text
  · simp [hread, hfound]
  · simp [hread, hfound]
  · simp [hread, hfound, hother]

theorem exhausts_iff {error : ApiError} :
    (isQuotaCode error.code || isQuotaStatus error.status) = true ↔ error.Exhausts := by
  rw [Bool.or_eq_true, isQuotaCode_iff, isQuotaStatus_iff]
  rfl

theorem showsQuota_iff {text : List Symbol} :
    (occurs (symbols quotaStatus.toList) text || occurs (symbols quotaCode.toList) text) = true ↔
      symbols quotaStatus.toList <:+: text ∨ symbols quotaCode.toList <:+: text := by
  rw [Bool.or_eq_true, occurs_iff, occurs_iff]

/-! ## Each kind -/

section

variable {trouble : Trouble} {room : Nat} {context : String}

/-- Without a message, an error answer that does not say itself that a quota is used up is classified by its
    text, as any trouble is. -/
theorem classify_eq_ofText (h : trouble.isFailure = false) (hplain : ¬ trouble.Worded)
    (hquiet : ∀ error, trouble = .api error → ¬ error.Exhausts) :
    trouble.classify room context = ofText room trouble.text context := by
  cases trouble with
  | known failure => cases h
  | api error =>
      have hmessage : ¬ error.message.isSomething = true := fun hsome => hplain ⟨error, rfl, hsome⟩
      rw [classify, ofApi, if_neg (mt exhausts_iff.1 (hquiet error rfl)), if_neg hmessage]
      rfl
  | codeless found => rfl
  | other text => rfl

theorem classify_of_exhausted (h : trouble.isFailure = false) (hquota : trouble.Exhausted) :
    trouble.classify room context = .ok quotaFailure := by
  by_cases hapi : ∃ error, trouble = .api error ∧ error.Exhausts
  · obtain ⟨error, rfl, hexhausts⟩ := hapi
    rw [classify, ofApi, if_pos (exhausts_iff.2 hexhausts)]
  · obtain ⟨hshows, hplain⟩ := hquota.resolve_left hapi
    rw [classify_eq_ofText h hplain fun error herror hexhausts => hapi ⟨error, herror, hexhausts⟩, ofText,
      if_pos (showsQuota_iff.2 hshows)]

/-- Where no quota is used up, a trouble without a message of its own is what the document in its text
    tells, or else unclear. -/
theorem classify_of_plain (h : trouble.isFailure = false) (hquota : ¬ trouble.Exhausted)
    (hplain : ¬ trouble.Worded) :
    trouble.classify room context
      = (embeddedMessage? room trouble.text.symbols).map fun message =>
          (message.map reported).getD (unclear trouble.text context) := by
  have hquiet : ∀ error, trouble = .api error → ¬ error.Exhausts := fun error herror hexhausts =>
    hquota (Or.inl ⟨error, herror, hexhausts⟩)
  have hshows := mt showsQuota_iff.1 fun hshows => hquota (Or.inr ⟨hshows, hplain⟩)
  rw [classify_eq_ofText h hplain hquiet, ofText, if_neg hshows]

theorem classify_of_tells (h : trouble.isFailure = false) (hquota : ¬ trouble.Exhausted) {message : Json}
    (htells : trouble.Tells room message) : trouble.classify room context = .ok (reported message) := by
  cases htells with
  | @answered error hmessage =>
      have hquiet : ¬ error.Exhausts := fun hexhausts => hquota (Or.inl ⟨error, rfl, hexhausts⟩)
      rw [classify, ofApi, if_neg (mt exhausts_iff.1 hquiet), if_pos hmessage]
  | written hplain hholds =>
      rw [classify_of_plain h hquota hplain, embeddedMessage?_eq_some_iff.2 hholds]
      rfl

theorem classify_of_overruns {container : Json.Container} (h : trouble.Overruns room container) :
    trouble.classify room context = .error container := by
  rw [classify_of_plain h.raw h.quiet h.plain, embeddedMessage?_eq_error_iff.2 h.deep]
  rfl

theorem classify_of_untold (h : trouble.isFailure = false) (hquota : ¬ trouble.Exhausted)
    (huntold : ∀ message, ¬ trouble.Tells room message) (hshallow : trouble.Shallow room) :
    trouble.classify room context = .ok (unclear trouble.text context) := by
  have hplain : ¬ trouble.Worded := by
    rintro ⟨error, rfl, hmessage⟩
    exact huntold _ (.answered hmessage)
  rw [classify_of_plain h hquota hplain]
  cases hfound : embeddedMessage? room trouble.text.symbols with
  | error container =>
      exact absurd ⟨h, hquota, hplain, embeddedMessage?_eq_error_iff.1 hfound⟩ (hshallow container)
  | ok found =>
      cases found with
      | none => rfl
      | some message =>
          exact absurd (.written hplain (embeddedMessage?_eq_some_iff.1 hfound)) (huntold message)

/-! ## What follows from the kind -/

theorem classify_cases (room : Nat) (context : String) (h : trouble.isFailure = false) :
    (trouble.Exhausted ∧ trouble.classify room context = .ok quotaFailure) ∨
      (¬ trouble.Exhausted ∧ ∃ message, trouble.Tells room message ∧
        trouble.classify room context = .ok (reported message)) ∨
      (¬ trouble.Exhausted ∧ (¬ ∃ message, trouble.Tells room message) ∧
        trouble.classify room context = .ok (unclear trouble.text context)) ∨
      ∃ container, trouble.Overruns room container ∧ trouble.classify room context = .error container := by
  by_cases hquota : trouble.Exhausted
  · exact Or.inl ⟨hquota, classify_of_exhausted h hquota⟩
  · by_cases htold : ∃ message, trouble.Tells room message
    · obtain ⟨message, htells⟩ := htold
      exact Or.inr (Or.inl ⟨hquota, ⟨message, htells, classify_of_tells h hquota htells⟩⟩)
    · by_cases hdeep : ∃ container, trouble.Overruns room container
      · obtain ⟨container, hoverruns⟩ := hdeep
        exact Or.inr (Or.inr (Or.inr ⟨container, hoverruns, classify_of_overruns hoverruns⟩))
      · exact Or.inr (Or.inr (Or.inl
          ⟨hquota, htold, classify_of_untold h hquota (not_exists.1 htold) (not_exists.1 hdeep)⟩))

/-- A trouble is not classified just where there is no room for a container in its text. -/
theorem classify_eq_error_iff {container : Json.Container} :
    trouble.classify room context = .error container ↔ trouble.Overruns room container := by
  refine ⟨fun herror => ?_, classify_of_overruns⟩
  cases hopen : trouble.isFailure with
  | true =>
      cases trouble with
      | known failure => simp [classify] at herror
      | _ => cases hopen
  | false =>
      obtain ⟨_, hfailure⟩ | ⟨_, _, _, hfailure⟩ | ⟨_, _, hfailure⟩ | ⟨found, hoverruns, hfound⟩ :=
        classify_cases room context hopen
      · simp [hfailure] at herror
      · simp [hfailure] at herror
      · simp [hfailure] at herror
      · obtain rfl := Except.error.inj (hfound.symm.trans herror)
        exact hoverruns

theorem kind_unclear (text : Writing) (context : String) : (unclear text context).kind = .unknown := by
  unfold unclear
  split <;> rfl

variable {failure : Failure}

theorem failure_cases (h : trouble.isFailure = false) (hfailure : trouble.classify room context = .ok failure) :
    (trouble.Exhausted ∧ failure = quotaFailure) ∨
      (¬ trouble.Exhausted ∧ ∃ message, trouble.Tells room message ∧ failure = reported message) ∨
      (¬ trouble.Exhausted ∧ (¬ ∃ message, trouble.Tells room message) ∧
        failure = unclear trouble.text context) := by
  obtain ⟨hquota, hcase⟩ | ⟨hquota, message, htells, hcase⟩ | ⟨hquota, huntold, hcase⟩ | ⟨container, _, hcase⟩ :=
    classify_cases room context h
  · exact Or.inl ⟨hquota, Except.ok.inj (hfailure.symm.trans hcase)⟩
  · exact Or.inr (Or.inl ⟨hquota, message, htells, Except.ok.inj (hfailure.symm.trans hcase)⟩)
  · exact Or.inr (Or.inr ⟨hquota, huntold, Except.ok.inj (hfailure.symm.trans hcase)⟩)
  · simp [hcase] at hfailure

section

variable (h : trouble.isFailure = false) (hfailure : trouble.classify room context = .ok failure)
include h hfailure

theorem kind_eq_quotaExceeded_iff : failure.kind = .quotaExceeded ↔ trouble.Exhausted := by
  obtain ⟨hquota, rfl⟩ | ⟨hquota, message, htells, rfl⟩ | ⟨hquota, huntold, rfl⟩ := failure_cases h hfailure
  · exact iff_of_true rfl hquota
  · exact iff_of_false nofun hquota
  · exact iff_of_false (by rw [kind_unclear]; exact nofun) hquota

theorem kind_eq_unknown_iff :
    failure.kind = .unknown ↔ ¬ trouble.Exhausted ∧ ¬ ∃ message, trouble.Tells room message := by
  obtain ⟨hquota, rfl⟩ | ⟨hquota, message, htells, rfl⟩ | ⟨hquota, huntold, rfl⟩ := failure_cases h hfailure
  · exact iff_of_false nofun fun hunclear => hunclear.1 hquota
  · exact iff_of_false nofun fun hunclear => hunclear.2 ⟨message, htells⟩
  · exact iff_of_true (kind_unclear _ _) ⟨hquota, huntold⟩

/-- A failure reports a message just if that is what the trouble tells. -/
theorem eq_reporting_iff {message : Writing} :
    failure = ⟨.serviceError, "API Error: " ++ message⟩ ↔
      ¬ trouble.Exhausted ∧ ∃ value, trouble.Tells room value ∧ value.writing = message := by
  constructor
  · intro hreports
    obtain ⟨hquota, hcase⟩ | ⟨hquota, value, htells, hcase⟩ | ⟨hquota, huntold, hcase⟩ :=
      failure_cases h hfailure
    · exact nomatch congrArg Failure.kind (hreports.symm.trans hcase)
    · have hmessage := congrArg Failure.message (hcase.symm.trans hreports)
      exact ⟨hquota, value, htells, Writing.whole_append_inj.1 hmessage⟩
    · have hkind := congrArg Failure.kind (hreports.symm.trans hcase)
      rw [kind_unclear] at hkind
      cases hkind
  · rintro ⟨hquota, value, htells, rfl⟩
    exact Except.ok.inj (hfailure.symm.trans (classify_of_tells h hquota htells))

theorem kind_eq_serviceError_iff :
    failure.kind = .serviceError ↔ ¬ trouble.Exhausted ∧ ∃ message, trouble.Tells room message := by
  obtain ⟨hquota, rfl⟩ | ⟨hquota, message, htells, rfl⟩ | ⟨hquota, huntold, rfl⟩ := failure_cases h hfailure
  · exact iff_of_false nofun fun htold => htold.1 hquota
  · exact iff_of_true rfl ⟨hquota, message, htells⟩
  · exact iff_of_false (by rw [kind_unclear]; exact nofun) fun htold => huntold htold.2

theorem kind_ne_emptyPrompt : failure.kind ≠ .emptyPrompt := by
  obtain ⟨_, rfl⟩ | ⟨_, _, _, rfl⟩ | ⟨_, _, rfl⟩ := failure_cases h hfailure
  · exact nofun
  · exact nofun
  · rw [kind_unclear]
    exact nofun

end

theorem message_unclear_ne_empty (text : Writing) (context : String) :
    (unclear text context).message ≠ .whole "" := by
  unfold unclear
  split
  · exact Writing.whole_append_ne_empty (by simp [String.append_eq_empty_iff]) (.whole ".")
  · exact Writing.whole_append_ne_empty (by simp [String.append_eq_empty_iff]) text

theorem message_ne_empty (h : trouble.isFailure = false)
    (hfailure : trouble.classify room context = .ok failure) : failure.message ≠ .whole "" := by
  obtain ⟨_, rfl⟩ | ⟨_, message, _, rfl⟩ | ⟨_, _, rfl⟩ := failure_cases h hfailure
  · exact Writing.whole_append_ne_empty (by decide) _
  · exact Writing.whole_append_ne_empty (by decide) message.writing
  · exact message_unclear_ne_empty trouble.text context

theorem suffix_message_unclear (context : String) {text : Writing} (htext : text ≠ .whole "") :
    (context ++ ": " ++ text : Writing).symbols <:+ (unclear text context).message.symbols := by
  rw [unclear, if_neg htext]
  simp only [Writing.symbols_append]
  exact ⟨Writing.symbols "An error occurred while trying to ", by simp only [List.append_assoc]⟩

end

/-- What the kind of a failure means, for a trouble that was none before and for whose text there is room. The
    conditions of the three kinds that are given exclude each other and leave nothing out. -/
theorem classify_means (room : Nat) (trouble : Trouble) (context : String) (h : trouble.isFailure = false)
    (hshallow : trouble.Shallow room) :
    ∃ failure, trouble.classify room context = .ok failure ∧
      failure.kind ≠ .emptyPrompt ∧
      (Http.failureResponse failure).status = 502 ∧
      failure.message ≠ .whole "" ∧
      (failure.kind = .quotaExceeded ↔ trouble.Exhausted) ∧
      (failure.kind = .serviceError ↔ ¬ trouble.Exhausted ∧ ∃ value, trouble.Tells room value) ∧
      (∀ message : Writing, failure = ⟨.serviceError, "API Error: " ++ message⟩ ↔
        ¬ trouble.Exhausted ∧ ∃ value, trouble.Tells room value ∧ value.writing = message) ∧
      (failure.kind = .unknown ↔ ¬ trouble.Exhausted ∧ ¬ ∃ value, trouble.Tells room value) ∧
      (failure.kind = .unknown → trouble.text ≠ .whole "" →
        (context ++ ": " ++ trouble.text : Writing).symbols <:+ failure.message.symbols) := by
  obtain ⟨failure, hfailure⟩ : ∃ failure, trouble.classify room context = .ok failure := by
    cases hclassified : trouble.classify room context with
    | ok failure => exact ⟨failure, rfl⟩
    | error container => exact absurd (classify_eq_error_iff.1 hclassified) (hshallow container)
  have hprompt := kind_ne_emptyPrompt h hfailure
  refine ⟨failure, hfailure, hprompt, if_neg hprompt, message_ne_empty h hfailure,
    kind_eq_quotaExceeded_iff h hfailure, kind_eq_serviceError_iff h hfailure,
    fun message => eq_reporting_iff h hfailure, kind_eq_unknown_iff h hfailure, fun hkind htext => ?_⟩
  obtain ⟨hquota, huntold⟩ := (kind_eq_unknown_iff h hfailure).1 hkind
  rw [classify_of_untold h hquota (not_exists.1 huntold) hshallow] at hfailure
  rw [← Except.ok.inj hfailure]
  exact suffix_message_unclear context htext

/-- The message of an error answer is reported, although the number of a used-up quota is in its text. -/
theorem classify_means_answered :
    (api ⟨.int 500, .str "INTERNAL", .str "try later", .str "request 429"⟩).classify Json.stackRoom
        "generate image"
      = .ok ⟨.serviceError, "API Error: try later"⟩ := by
  have hworded : (api ⟨.int 500, .str "INTERNAL", .str "try later", .str "request 429"⟩).Worded :=
    ⟨_, rfl, rfl⟩
  obtain ⟨failure, hfailure, _, _, _, _, _, hreports, _⟩ :=
    classify_means Json.stackRoom (api ⟨.int 500, .str "INTERNAL", .str "try later", .str "request 429"⟩)
      "generate image" rfl fun _ hoverruns => hoverruns.plain hworded
  refine hfailure.trans (congrArg Except.ok ((hreports "try later").2 ⟨?_, .str "try later", .answered rfl, rfl⟩))
  rintro (⟨error, herror, hexhausts⟩ | ⟨_, hplain⟩)
  · cases herror
    simp [ApiError.Exhausts, quotaStatus] at hexhausts
  · exact hplain hworded

/-- The message of a document in a text is told; with text behind the document it is none. -/
example :
    (other "500 \x7b\"error\": \x7b\"message\": \"try later\"\x7d\x7d").classify 9 "generate text"
        = .ok ⟨.serviceError, "API Error: try later"⟩ ∧
      ((other "500 \x7b\"error\": \x7b\"message\": \"try later\"\x7d\x7d.").classify 9
          "generate text").map Failure.kind
        = .ok .unknown := by
  decide +kernel

end Trouble

end PromptCanvas
