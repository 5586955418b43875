import PromptCanvas.Text.Numeral
import PromptCanvas.Text.Placeholder

set_option autoImplicit false

/-! # Instructions for the text model

The texts that the text model is sent. Each comes from a fixed text with a placeholder for each text of the user,
which goes into its place as it is. -/

namespace PromptCanvas.Instruction

open Text

/-- Asks for a description of a picture. -/
def describe : String :=
  "Describe this image in a short, descriptive phrase to be used as a prompt for a new image " ++
  "generation. Focus on the main subject, its key attributes, the background, and the overall " ++
  "style. Be concise but comprehensive."

/-! ## Podcasts -/

/-- The parts of the text that asks for a podcast. -/
def podcastParts : List Part :=
  [.words "You are a creative and engaging podcast host. Based on the following scene description, write a ",
    .words "short, one-minute podcast script. Make it descriptive and imaginative. Scene: \"",
    .place "base_prompt", .words "\""]

/-- Asks for a podcast about a scene. -/
def podcast (basePrompt : String) : String := filled [("base_prompt", basePrompt)] podcastParts

/-! ## Boosts -/

/-- The parts of the text that asks for a richer version of a prompt. -/
def enhanceParts : List Part :=
  [.words "You are a world-class creative assistant for a text-to-image AI. Your task is to take a user's ",
    .words "simple prompt and expand it into a rich, descriptive, and highly imaginative paragraph. Infuse ",
    .words "it with surprising details, dramatic lighting, and a strong sense of atmosphere. Do not add any ",
    .words "conversational text, just output the new prompt.\n\nUser's prompt: \"",
    .place "base_prompt", .words "\""]

/-- Asks for a richer version of a prompt. -/
def enhance (basePrompt : String) : String := filled [("base_prompt", basePrompt)] enhanceParts

/-! ## Animations -/

/-- The parts of the text that asks for the prompts of the frames of an animation. -/
def animationParts : List Part :=
  [.words "Based on the following scene and animation instruction, generate a sequence of ",
    .place "frame_count",
    .words " distinct prompts to create a smooth animation. Each prompt should describe a single frame. The ",
    .words "first prompt should be very similar to the base scene, and the last prompt should fully complete ",
    .words "the action. The prompts should transition logically between each other.\n\nBase Scene: \"",
    .place "base_prompt", .words "\"\nAnimation Instruction: \"", .place "instruction", .words "\""]

/-- Asks for the prompts of the frames of an animation. -/
def animation (frameCount : Int) (basePrompt instruction : String) : String :=
  filled [("frame_count", integerText frameCount), ("base_prompt", basePrompt), ("instruction", instruction)]
    animationParts

end PromptCanvas.Instruction
