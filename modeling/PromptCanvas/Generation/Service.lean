import PromptCanvas.Generation.Client

set_option autoImplicit false

/-! # The generation service

What a run asks of the world outside: a picture for a prompt, a description of a picture, a text, or the
prompts of an animation. A `Service` answers each kind of call, or gets into trouble. The texts that it answers with
are whole. -/

namespace PromptCanvas

/-- A call to the generation service. -/
inductive Call where
  | image (prompt aspectRatio : String)
  | describe (data : Bytes) (mimeType : String)
  | text (prompt : String)
  | animation (basePrompt instruction : String) (frameCount : Int)
deriving DecidableEq, Repr

/-- The answers of a generation service. -/
structure Service where
  image : (prompt aspectRatio : String) → Except Trouble Bytes
  describe : (data : Bytes) → (mimeType : String) → Except Trouble String
  text : (prompt : String) → Except Trouble String
  animation : (basePrompt instruction : String) → (frameCount : Int) →
    Except Trouble (List String)
  /-- The room on the stack where its troubles are classified once more. -/
  room : Nat := Json.stackRoom

/-- The service that asks models through a client. -/
def Service.ofClient (settings : Settings) (client : Option Generation.Client) (room : Nat) : Service :=
  { image := fun prompt aspectRatio => (Generation.generateImage settings client prompt aspectRatio).result
    describe := fun data mimeType => (Generation.describeImage settings client data mimeType).result
    text := fun prompt => (Generation.generateText settings client prompt).result
    animation := fun basePrompt instruction frameCount =>
      (Generation.generateAnimation settings client basePrompt instruction frameCount).result
    room := room }

end PromptCanvas
