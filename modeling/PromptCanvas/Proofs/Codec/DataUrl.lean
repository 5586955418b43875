import PromptCanvas.Codec.DataUrl
import PromptCanvas.Proofs.Codec.Base64
import PromptCanvas.Proofs.Text.Search

set_option autoImplicit false

/-! # Data URLs and back

A URL is cut at the first mark. The encoder puts its mark last, and the mark does not overlap itself; so the
URL is cut where it was put together, unless the media type holds a mark. In that case the payload holds the
encoder's own mark and is no base64. -/

namespace PromptCanvas.DataUrl

open Text

theorem mark_eq : mark = ';' :: ['b', 'a', 's', 'e', '6', '4', ','] := by decide +kernel

theorem mark_ne_nil : mark ≠ [] := by simp [mark_eq]

theorem toList_encode (data : Bytes) (mimeType : String) :
    (encode data mimeType).toList
      = scheme ++ (mimeType.toList ++ (mark ++ Base64.encode data)) := by
  rw [encode, String.toList_ofList]
  simp only [List.append_assoc]

/-- What is decoded stands before and after the first mark of a URL. -/
theorem decode?_eq_some_iff {url mimeType : String} {data : Bytes} :
    decode? url = some (data, mimeType) ↔
      ∃ rest payload, url.toList = scheme ++ rest ∧
        cutAt? mark rest = some (mimeType.toList, payload) ∧ Base64.decode? payload = some data := by
  simp only [decode?, Option.bind_eq_bind, Option.bind_eq_some_iff, Prod.exists, Option.some.injEq,
    Prod.mk.injEq, after?_eq_some_iff]
  constructor
  · rintro ⟨rest, hrest, kind, payload, hcut, found, hfound, rfl, rfl⟩
    exact ⟨rest, payload, hrest, by rw [String.toList_ofList, hcut], hfound⟩
  · rintro ⟨rest, payload, hrest, hcut, hdata⟩
    exact ⟨rest, hrest, _, payload, hcut, data, hdata, rfl, String.ofList_toList⟩

/-- Encoded bytes are decoded with their media type, unless that holds a mark. -/
theorem decode?_encode_of_unmarked {mimeType : String} (h : ¬ mark <:+: mimeType.toList)
    (data : Bytes) : decode? (encode data mimeType) = some (data, mimeType) := by
  have hcut : cutAt? mark (mimeType.toList ++ (mark ++ Base64.encode data))
      = some (mimeType.toList, Base64.encode data) :=
    cutAt?_append_mark mark_eq (by decide) h
  exact decode?_eq_some_iff.2 ⟨_, _, toList_encode data mimeType, hcut, Base64.decode?_encode data⟩

/-- With a mark in the media type, the URL is cut there, and the payload holds a semicolon. -/
theorem decode?_encode_of_marked {mimeType : String} (h : mark <:+: mimeType.toList) (data : Bytes) :
    decode? (encode data mimeType) = none := by
  rw [Option.eq_none_iff_forall_ne_some]
  rintro ⟨found, kind⟩ hfound
  obtain ⟨rest, payload, hrest, hcut, hpayload⟩ := decode?_eq_some_iff.1 hfound
  rw [toList_encode, List.append_cancel_left_eq] at hrest
  cases hfirst : cutAt? mark mimeType.toList with
  | none => exact cutAt?_eq_none_iff.1 hfirst h
  | some parts =>
      have hcut' := cutAt?_append mark_ne_nil hfirst (mark ++ Base64.encode data)
      rw [hrest, hcut, Option.some.injEq, Prod.mk.injEq] at hcut'
      have hmem : ';' ∈ payload := by
        rw [hcut'.2]
        exact List.mem_append_right _ (List.mem_append_left _ (by simp [mark_eq]))
      rw [Base64.decode?_eq_none_of_mem hmem (by decide) (by decide)] at hpayload
      simp at hpayload

theorem unmarked_of_decode? {url mimeType : String} {data : Bytes}
    (h : decode? url = some (data, mimeType)) : ¬ mark <:+: mimeType.toList := by
  obtain ⟨_, _, _, hcut, _⟩ := decode?_eq_some_iff.1 h
  exact not_infix_of_cutAt? mark_ne_nil hcut

/-- Bytes with a media type come back from their URL unless the media type holds a mark, in which case there
    is nothing to decode. What was decoded from any URL comes back from the URL that it is encoded in. -/
theorem round_trip :
    (∀ data mimeType, decode? (encode data mimeType)
      = if mark <:+: mimeType.toList then none else some (data, mimeType)) ∧
    ∀ url, ((decode? url).bind fun picture => decode? (encode picture.1 picture.2)) = decode? url := by
  constructor
  · intro data mimeType
    split
    · next h => exact decode?_encode_of_marked h data
    · next h => exact decode?_encode_of_unmarked h data
  · intro url
    cases hurl : decode? url with
    | none => rfl
    | some picture =>
        obtain ⟨data, mimeType⟩ := picture
        rw [Option.bind_some]
        exact decode?_encode_of_unmarked (unmarked_of_decode? hurl) data

/-- A payload may leave bits over; they are not encoded again. -/
example : (decode? "data:image/png;base64,QUL=").map (fun picture => encode picture.1 picture.2)
    = some "data:image/png;base64,QUI=" := by decide +kernel

end PromptCanvas.DataUrl
