import PromptCanvas.Node.Kind
import PromptCanvas.Text.Placeholder

set_option autoImplicit false

/-! # Recipes

A recipe makes the prompt of a node from the description it works on, the base prompt, and the text its
user entered, the custom text. The recipes of the palette are templates: fixed words with places for
the two texts, each of which goes into the prompt as it is. -/

namespace PromptCanvas

/-- A recipe: base prompt and custom text give the prompt. -/
abbrev Recipe := (base custom : String) → String

/-- A piece of a template. -/
inductive Piece where
  /-- Fixed words. -/
  | words (s : String)
  /-- The base prompt. -/
  | base
  /-- The custom text. -/
  | custom
  /-- The custom text, or the given word where it is empty. -/
  | customOr (word : String)
  /-- The custom text, or the base prompt where it is empty. -/
  | customOrBase
deriving DecidableEq, Repr

/-- The text that a piece contributes. -/
def Piece.fill (base custom : String) : Piece → String
  | .words s => s
  | .base => base
  | .custom => custom
  | .customOr word => if custom = "" then word else custom
  | .customOrBase => if custom = "" then base else custom

/-- The part of a fixed text that a piece stands for. -/
def Piece.part : Piece → Text.Part
  | .words s => .words s
  | .base => .place "base"
  | .custom => .place "custom"
  | .customOr _ => .place "custom"
  | .customOrBase => .place "custom"

/-- A template: pieces one after the other. -/
abbrev Template := List Piece

namespace Template

/-- The prompt that a template makes. -/
def fill (template : Template) : Recipe := fun base custom =>
  String.join (template.map (Piece.fill base custom))

/-- The base prompt, followed by a phrase. -/
def suffix (phrase : String) : Template := [.base, .words ", ", .words phrase]

/-- Words that lead to the base prompt. -/
def lead (phrase : String) : Template := [.words phrase, .base]

/-- The recipe of a kind, for the kinds that have one. -/
def ofKind? : NodeKind → Option Template
  | .sourceGenerate => some [.custom]
  | .style => some [.base, .words ", in the style of ", .custom]
  | .threeD => some
      [.words "A 3D render of: ", .base, .words ". ", .customOr "photorealistic"]
  | .edit => some [.base, .words ", edited to ", .custom]
  | .resize => some [.base]
  | .promptMagic => some [.customOrBase]
  | .dreamscape => some (suffix
      "in a surreal, dreamy, ethereal style, with swirling colors and abstract shapes, vaporous, atmospheric")
  | .storybook => some (suffix
      "in the style of a classic children's storybook illustration, with charming characters and a whimsical feel")
  | .glitchmancy => some (suffix
      "an artistic glitch effect, with beautiful digital decay, chromatic aberration, and pixel sorting aesthetics")
  | .oilPainting => some (suffix "in a lush, textured oil painting style")
  | .watercolor => some (suffix "in a soft, blended watercolor style")
  | .pencilSketch => some (suffix "as a detailed, monochrome pencil sketch")
  | .charcoalDrawing => some (suffix "as a dramatic charcoal drawing")
  | .comicBook => some (suffix "in a bold, graphic comic book art style with halftone dots")
  | .popArt => some (suffix "in the style of Andy Warhol pop art")
  | .impressionism => some (suffix
      "in the style of Impressionist painting with visible brushstrokes")
  | .abstractArt => some (lead "An abstract interpretation of ")
  | .pointillism => some (suffix "in the style of pointillism")
  | .stainedGlass => some (suffix "as a vibrant stained glass window")
  | .vintagePhoto => some (suffix "as a faded, sepia-toned vintage photograph from the 1920s")
  | .blackAndWhite => some (suffix "as a high-contrast black and white photograph")
  | .longExposure => some (suffix
      "with motion blur and light trails, as a long exposure photograph")
  | .bokeh => some (suffix "with a soft, out-of-focus background with beautiful bokeh")
  | .hdr => some (suffix "as a high-dynamic-range (HDR) image with intense detail and color")
  | .duotone => some (suffix "in a two-color duotone effect, blue and yellow")
  | .pinhole => some (suffix "as if taken with a pinhole camera, with vignetting and soft focus")
  | .lomo => some (suffix "as a lomography photo with saturated colors and vignetting")
  | .tiltShift => some (suffix "as a tilt-shift photo, making it look like a miniature model")
  | .nightVision => some (suffix "as seen through green night vision goggles")
  | .pixelate => some (lead "A pixel art version of ")
  | .glitch => some (suffix "with digital glitch effects, datamoshing, and artifacts")
  | .kaleidoscope => some (lead "A kaleidoscopic, symmetrical version of ")
  | .ascii => some (lead "An ASCII art representation of ")
  | .lowPoly => some (lead "A low-poly, faceted version of ")
  | .halftone => some (suffix "using a halftone dot pattern")
  | .anaglyph => some (suffix "as a red and cyan anaglyph 3D image")
  | .scanlines => some (suffix "with horizontal scanlines, as if on an old CRT monitor")
  | .invert => some (suffix "with all colors inverted")
  | .liquify => some (suffix "with a warped, liquified effect")
  | .cyberpunk => some (suffix "in a neon-drenched, high-tech cyberpunk setting")
  | .steampunk => some (suffix "reimagined with steampunk gears, brass, and steam power")
  | .fantasy => some (suffix "in a high-fantasy, magical setting")
  | .sciFi => some (suffix "in a futuristic, science-fiction setting with spaceships and aliens")
  | .minimalist => some (lead "A minimal, clean, and simple representation of ")
  | .vaporwave => some (suffix
      "in a vaporwave aesthetic with pastel colors, glitches, and classical statues")
  | .gothic => some (suffix "in a dark, gothic style")
  | .artDeco => some (suffix "in a glamorous Art Deco style")
  | .grunge => some (suffix "with a gritty, textured grunge aesthetic")
  | .hologram => some (lead "A glowing, translucent hologram of ")
  | .stickerize => some (suffix "as a die-cut vinyl sticker with a white border")
  | .lego => some (suffix "made out of Lego bricks")
  | .claymation => some (suffix "as a claymation model")
  | .blueprint => some (lead "A technical blueprint drawing of ")
  | .neonGlow => some (suffix "as a vibrant neon sign")
  | .sourceUpload | .sourceImagescript | .generatePodcast | .veoVideo => none

/-! ## Templates as fixed texts -/

/-- The fixed text of a template, with the placeholders `base` and `custom`. -/
def form (template : Template) : String := Text.written (template.map Piece.part)

end Template

end PromptCanvas
