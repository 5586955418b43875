import PromptCanvas.Proofs.Generation.Classification
import PromptCanvas.Proofs.Json.Document

set_option autoImplicit false

/-! # Troubles whose text is nested too deep

A text that opens more lists than there is room for is no document, but that is not what the reader finds: it
goes down until the room is used up, and the trouble with that text is not classified. -/

namespace PromptCanvas

open Text

namespace Json

variable {room count : Nat}

theorem skipSpace_brackets (count : Nat) :
    skipSpace (symbols (List.replicate count '[')) = symbols (List.replicate count '[') := by
  cases count <;> rfl

theorem brackets_ne (count : Nat) (rest : List Symbol) :
    symbols (List.replicate count '[') ≠ .char ']' :: rest := by
  cases count <;> simp [symbols, List.replicate_succ]

/-- The room is used up by lists before anything else is found. -/
theorem readValue_brackets {dialect : Dialect} {fuel depth : Nat} (hdepth : depth < count)
    (hfuel : 2 * depth < fuel) :
    readValue dialect fuel depth (symbols (List.replicate count '[')) = .error (.tooDeep .list) := by
  obtain ⟨inner, rfl⟩ : ∃ inner, count = inner + 1 := ⟨count - 1, by omega⟩
  have hopen : symbols (List.replicate (inner + 1) '[') = .char '[' :: symbols (List.replicate inner '[') := rfl
  induction depth generalizing inner fuel with
  | zero =>
      obtain ⟨more, rfl⟩ : ∃ more, fuel = more + 1 := ⟨fuel - 1, by omega⟩
      rw [hopen, readValue, skipSpace_brackets]
      split
      · next rest hrest => exact absurd hrest (brackets_ne inner rest)
      · rfl
  | succ depth ih =>
      obtain ⟨more, rfl⟩ : ∃ more, fuel = more + 2 := ⟨fuel - 2, by omega⟩
      rw [hopen, readValue, skipSpace_brackets]
      split
      · next rest hrest => exact absurd hrest (brackets_ne inner rest)
      · obtain ⟨deeper, rfl⟩ : ∃ deeper, inner = deeper + 1 := ⟨inner - 1, by omega⟩
        have hitems : readItems dialect (more + 1) depth (symbols (List.replicate (deeper + 1) '['))
            = .error (.tooDeep .list) := by
          rw [readItems, ih (by omega) deeper (by omega) rfl]
          rfl
        show (readItems dialect (more + 1) depth _).map _ = _
        rw [hitems]
        rfl

/-- An object in which lists are opened, and nothing is closed. -/
def opened (count : Nat) : List Char := '\x7b' :: '"' :: '"' :: ':' :: List.replicate count '['

theorem readText_empty (dialect : Dialect) (rest : List Symbol) :
    readText dialect (.char '"' :: rest) = .ok ([], rest) := by
  simp [readText, readSymbols, orMalformed, Option.filter]

theorem read_opened (hroom : 0 < room) (hcount : room ≤ count) :
    read (.document room) (symbols (opened count)) = .error (.tooDeep .list) := by
  obtain ⟨depth, rfl⟩ : ∃ depth, room = depth + 1 := ⟨room - 1, by omega⟩
  have hlength : (symbols (opened count)).length = count + 4 := by simp [symbols, opened]
  have hvalue := @readValue_brackets count (.document (depth + 1)) (2 * (count + 4)) depth (by omega) (by omega)
  have hfields : readFields (.document (depth + 1)) (2 * (count + 4) + 1) depth
      (.char '"' :: .char '"' :: .char ':' :: symbols (List.replicate count '['))
        = .error (.tooDeep .list) := by
    rw [readFields, readText_empty]
    show readValue _ _ _ (skipSpace (symbols (List.replicate count '['))) >>= _ = _
    rw [skipSpace_brackets, hvalue]
    rfl
  have hobject : readValue (.document (depth + 1)) (2 * (count + 4) + 2) (depth + 1)
      (.char '\x7b' :: .char '"' :: .char '"' :: .char ':' :: symbols (List.replicate count '['))
        = .error (.tooDeep .list) := by
    rw [readValue]
    show (readFields _ _ depth _).map _ = _
    rw [hfields]
    rfl
  have hdoc : skipSpace (symbols (opened count))
      = .char '\x7b' :: .char '"' :: .char '"' :: .char ':' :: symbols (List.replicate count '[') := rfl
  rw [read, hlength, hdoc]
  simp only [Dialect.document]
  rw [show Dialect.mk (depth + 1) _ _ _ = Dialect.document (depth + 1) from rfl, hobject]

end Json

/-! ## The text of a trouble -/

namespace Trouble

/-- A trouble whose text opens lists. -/
def opened (count : Nat) : Trouble := .other (String.ofList (Json.opened count))

theorem overruns_opened {room count : Nat} (hroom : 0 < room) (hcount : room ≤ count) :
    (opened count).Overruns room .list := by
  have htext : (opened count).text.symbols = symbols (Json.opened count) := by
    show symbols (String.ofList (Json.opened count)).toList = _
    rw [String.toList_ofList]
  have hplain : ¬ (opened count).Worded := by
    rintro ⟨error, herror, _⟩
    cases herror
  -- no character of a mark for a used-up quota is there
  have hmark : ∀ {c : Char} {mark : List Char}, c ∈ mark → c ∉ ['\x7b', '"', ':', '['] →
      ¬ symbols mark <:+: symbols (Json.opened count) := by
    intro c mark hmem hnot hinfix
    have hsymbol : Symbol.char c ∈ symbols (Json.opened count) :=
      hinfix.subset (List.mem_map_of_mem hmem)
    obtain ⟨d, hd, hsame⟩ := List.mem_map.1 hsymbol
    obtain rfl := Symbol.char.inj hsame
    simp only [Json.opened, List.mem_cons, List.mem_replicate] at hd
    simp only [List.mem_cons, List.not_mem_nil, or_false] at hnot
    tauto
  refine ⟨rfl, ?_, hplain, _, ⟨[], _, htext, List.not_mem_nil, rfl⟩, Json.read_opened hroom hcount⟩
  rintro (⟨error, herror, _⟩ | ⟨hshows | hshows, _⟩)
  · cases herror
  · rw [htext] at hshows
    exact hmark (c := 'R') (by decide) (by decide) hshows
  · rw [htext] at hshows
    exact hmark (c := '4') (by decide) (by decide) hshows

end Trouble

end PromptCanvas
