set_option autoImplicit false

/-! # Kinds of nodes

Every kind of node on the palette has a slug, by which requests and answers name it, a constant
name, a title for the canvas menu, and a place in one section of the menu. -/

namespace PromptCanvas

/-- The kinds of nodes: sources, and operations on the picture of a parent. -/
inductive NodeKind where
  | sourceUpload
  | sourceGenerate
  | sourceImagescript
  | style
  | threeD
  | edit
  | resize
  | promptMagic
  | dreamscape
  | storybook
  | glitchmancy
  | oilPainting
  | watercolor
  | pencilSketch
  | charcoalDrawing
  | comicBook
  | popArt
  | impressionism
  | abstractArt
  | pointillism
  | stainedGlass
  | vintagePhoto
  | blackAndWhite
  | longExposure
  | bokeh
  | hdr
  | duotone
  | pinhole
  | lomo
  | tiltShift
  | nightVision
  | pixelate
  | glitch
  | kaleidoscope
  | ascii
  | lowPoly
  | halftone
  | anaglyph
  | scanlines
  | invert
  | liquify
  | cyberpunk
  | steampunk
  | fantasy
  | sciFi
  | minimalist
  | vaporwave
  | gothic
  | artDeco
  | grunge
  | hologram
  | stickerize
  | lego
  | claymation
  | blueprint
  | neonGlow
  | generatePodcast
  | veoVideo
deriving DecidableEq, Repr, Inhabited

namespace NodeKind

/-- All kinds, sources first. -/
def all : List NodeKind :=
  [.sourceUpload, .sourceGenerate, .sourceImagescript, .style, .threeD, .edit, .resize,
    .promptMagic, .dreamscape, .storybook, .glitchmancy, .oilPainting, .watercolor, .pencilSketch,
    .charcoalDrawing, .comicBook, .popArt, .impressionism, .abstractArt, .pointillism, .stainedGlass,
    .vintagePhoto, .blackAndWhite, .longExposure, .bokeh, .hdr, .duotone, .pinhole, .lomo,
    .tiltShift, .nightVision, .pixelate, .glitch, .kaleidoscope, .ascii, .lowPoly, .halftone,
    .anaglyph, .scanlines, .invert, .liquify, .cyberpunk, .steampunk, .fantasy, .sciFi,
    .minimalist, .vaporwave, .gothic, .artDeco, .grunge, .hologram, .stickerize, .lego,
    .claymation, .blueprint, .neonGlow, .generatePodcast, .veoVideo]

/-- The name of a kind in requests and answers. -/
def slug : NodeKind → String
  | .sourceUpload => "source-upload"
  | .sourceGenerate => "source-generate"
  | .sourceImagescript => "source-imagescript"
  | .style => "op-style"
  | .threeD => "op-3d"
  | .edit => "op-edit"
  | .resize => "op-resize"
  | .promptMagic => "op-prompt-magic"
  | .dreamscape => "op-dreamscape"
  | .storybook => "op-storybook"
  | .glitchmancy => "op-glitchmancy"
  | .oilPainting => "op-oil-painting"
  | .watercolor => "op-watercolor"
  | .pencilSketch => "op-pencil-sketch"
  | .charcoalDrawing => "op-charcoal-drawing"
  | .comicBook => "op-comic-book"
  | .popArt => "op-pop-art"
  | .impressionism => "op-impressionism"
  | .abstractArt => "op-abstract"
  | .pointillism => "op-pointillism"
  | .stainedGlass => "op-stained-glass"
  | .vintagePhoto => "op-vintage-photo"
  | .blackAndWhite => "op-bw"
  | .longExposure => "op-long-exposure"
  | .bokeh => "op-bokeh"
  | .hdr => "op-hdr"
  | .duotone => "op-duotone"
  | .pinhole => "op-pinhole"
  | .lomo => "op-lomo"
  | .tiltShift => "op-tilt-shift"
  | .nightVision => "op-night-vision"
  | .pixelate => "op-pixelate"
  | .glitch => "op-glitch"
  | .kaleidoscope => "op-kaleidoscope"
  | .ascii => "op-ascii"
  | .lowPoly => "op-low-poly"
  | .halftone => "op-halftone"
  | .anaglyph => "op-anaglyph"
  | .scanlines => "op-scanlines"
  | .invert => "op-invert"
  | .liquify => "op-liquify"
  | .cyberpunk => "op-cyberpunk"
  | .steampunk => "op-steampunk"
  | .fantasy => "op-fantasy"
  | .sciFi => "op-sci-fi"
  | .minimalist => "op-minimalist"
  | .vaporwave => "op-vaporwave"
  | .gothic => "op-gothic"
  | .artDeco => "op-art-deco"
  | .grunge => "op-grunge"
  | .hologram => "op-hologram"
  | .stickerize => "op-stickerize"
  | .lego => "op-lego"
  | .claymation => "op-claymation"
  | .blueprint => "op-blueprint"
  | .neonGlow => "op-neon-glow"
  | .generatePodcast => "op-generate-podcast"
  | .veoVideo => "op-veo-video"

/-- The constant name of a kind. -/
def constant : NodeKind → String
  | .sourceUpload => "SOURCE_UPLOAD"
  | .sourceGenerate => "SOURCE_GENERATE"
  | .sourceImagescript => "SOURCE_IMAGESCRIPT"
  | .style => "STYLE"
  | .threeD => "THREE_D"
  | .edit => "EDIT"
  | .resize => "RESIZE"
  | .promptMagic => "PROMPT_MAGIC"
  | .dreamscape => "DREAMSCAPE"
  | .storybook => "STORYBOOK"
  | .glitchmancy => "GLITCHMANCY"
  | .oilPainting => "OIL_PAINTING"
  | .watercolor => "WATERCOLOR"
  | .pencilSketch => "PENCIL_SKETCH"
  | .charcoalDrawing => "CHARCOAL_DRAWING"
  | .comicBook => "COMIC_BOOK"
  | .popArt => "POP_ART"
  | .impressionism => "IMPRESSIONISM"
  | .abstractArt => "ABSTRACT"
  | .pointillism => "POINTILLISM"
  | .stainedGlass => "STAINED_GLASS"
  | .vintagePhoto => "VINTAGE_PHOTO"
  | .blackAndWhite => "BLACK_AND_WHITE"
  | .longExposure => "LONG_EXPOSURE"
  | .bokeh => "BOKEH"
  | .hdr => "HDR"
  | .duotone => "DUOTONE"
  | .pinhole => "PINHOLE"
  | .lomo => "LOMO"
  | .tiltShift => "TILT_SHIFT"
  | .nightVision => "NIGHT_VISION"
  | .pixelate => "PIXELATE"
  | .glitch => "GLITCH"
  | .kaleidoscope => "KALEIDOSCOPE"
  | .ascii => "ASCII"
  | .lowPoly => "LOW_POLY"
  | .halftone => "HALFTONE"
  | .anaglyph => "ANAGLYPH"
  | .scanlines => "SCANLINES"
  | .invert => "INVERT"
  | .liquify => "LIQUIFY"
  | .cyberpunk => "CYBERPUNK"
  | .steampunk => "STEAMPUNK"
  | .fantasy => "FANTASY"
  | .sciFi => "SCI_FI"
  | .minimalist => "MINIMALIST"
  | .vaporwave => "VAPORWAVE"
  | .gothic => "GOTHIC"
  | .artDeco => "ART_DECO"
  | .grunge => "GRUNGE"
  | .hologram => "HOLOGRAM"
  | .stickerize => "STICKERIZE"
  | .lego => "LEGO"
  | .claymation => "CLAYMATION"
  | .blueprint => "BLUEPRINT"
  | .neonGlow => "NEON_GLOW"
  | .generatePodcast => "GENERATE_PODCAST"
  | .veoVideo => "VEO_VIDEO"

/-- The title of a kind in the canvas menu. -/
def title : NodeKind → String
  | .sourceUpload => "Upload Image"
  | .sourceGenerate => "Generate (Prompt)"
  | .sourceImagescript => "Generate (ImageScript)"
  | .style => "Change Style (Custom)"
  | .threeD => "Make 3D"
  | .edit => "Edit Image"
  | .resize => "Resize & Reframe"
  | .promptMagic => "Creative Boost"
  | .dreamscape => "Dreamscape"
  | .storybook => "Storybook Style"
  | .glitchmancy => "Artistic Glitch"
  | .oilPainting => "Oil Painting"
  | .watercolor => "Watercolor"
  | .pencilSketch => "Pencil Sketch"
  | .charcoalDrawing => "Charcoal Drawing"
  | .comicBook => "Comic Book"
  | .popArt => "Pop Art"
  | .impressionism => "Impressionism"
  | .abstractArt => "Abstract"
  | .pointillism => "Pointillism"
  | .stainedGlass => "Stained Glass"
  | .vintagePhoto => "Vintage Photo"
  | .blackAndWhite => "Black & White"
  | .longExposure => "Long Exposure"
  | .bokeh => "Bokeh"
  | .hdr => "HDR"
  | .duotone => "Duotone"
  | .pinhole => "Pinhole Camera"
  | .lomo => "Lomography"
  | .tiltShift => "Tilt-Shift"
  | .nightVision => "Night Vision"
  | .pixelate => "Pixelate"
  | .glitch => "Glitch Art"
  | .kaleidoscope => "Kaleidoscope"
  | .ascii => "ASCII Art"
  | .lowPoly => "Low Poly"
  | .halftone => "Halftone"
  | .anaglyph => "Anaglyph 3D"
  | .scanlines => "Scanlines"
  | .invert => "Invert Colors"
  | .liquify => "Liquify"
  | .cyberpunk => "Cyberpunk"
  | .steampunk => "Steampunk"
  | .fantasy => "Fantasy"
  | .sciFi => "Sci-Fi"
  | .minimalist => "Minimalist"
  | .vaporwave => "Vaporwave"
  | .gothic => "Gothic"
  | .artDeco => "Art Deco"
  | .grunge => "Grunge"
  | .hologram => "Hologram"
  | .stickerize => "Stickerize"
  | .lego => "Lego Bricks"
  | .claymation => "Claymation"
  | .blueprint => "Blueprint"
  | .neonGlow => "Neon Glow"
  | .generatePodcast => "Generate Podcast"
  | .veoVideo => "Generate Video (Veo)"

/-- The kind with a slug. -/
def ofSlug? (s : String) : Option NodeKind := all.find? fun kind => kind.slug == s

/-- A kind that starts a pipeline. -/
def isSource : NodeKind → Bool
  | .sourceUpload | .sourceGenerate | .sourceImagescript => true
  | _ => false

end NodeKind

/-! ## Sections of the menu -/

/-- The sections of the canvas menu. -/
inductive Section where
  | source
  | core
  | creativeAi
  | surreal
  | artistic
  | photographic
  | digital
  | thematic
  | creative
deriving DecidableEq, Repr

namespace Section

/-- The sections in the order of the menu. -/
def all : List Section :=
  [.source, .core, .creativeAi, .surreal, .artistic, .photographic, .digital, .thematic, .creative]

/-- The name of a section. -/
def name : Section → String
  | .source => "source"
  | .core => "core"
  | .creativeAi => "creative_ai"
  | .surreal => "surreal"
  | .artistic => "artistic"
  | .photographic => "photographic"
  | .digital => "digital"
  | .thematic => "thematic"
  | .creative => "creative"

/-- The kinds in a section, in the order of the menu. -/
def kinds : Section → List NodeKind
  | .source => [.sourceUpload, .sourceGenerate, .sourceImagescript]
  | .core => [.edit, .resize, .style, .threeD]
  | .creativeAi => [.promptMagic, .generatePodcast, .veoVideo]
  | .surreal => [.dreamscape, .storybook, .glitchmancy]
  | .artistic =>
      [.oilPainting, .watercolor, .pencilSketch, .charcoalDrawing, .comicBook, .popArt,
        .impressionism, .abstractArt, .pointillism, .stainedGlass]
  | .photographic =>
      [.vintagePhoto, .blackAndWhite, .longExposure, .bokeh, .hdr, .duotone, .pinhole, .lomo,
        .tiltShift, .nightVision]
  | .digital =>
      [.pixelate, .glitch, .kaleidoscope, .ascii, .lowPoly, .halftone, .anaglyph, .scanlines,
        .invert, .liquify]
  | .thematic =>
      [.cyberpunk, .steampunk, .fantasy, .sciFi, .minimalist, .vaporwave, .gothic, .artDeco,
        .grunge, .hologram]
  | .creative => [.stickerize, .lego, .claymation, .blueprint, .neonGlow]

end Section

/-- An entry of the canvas menu. -/
structure MenuEntry where
  place : Section
  kind : NodeKind
deriving DecidableEq, Repr

/-- The canvas menu: every kind in its section. -/
def menu : List MenuEntry := Section.all.flatMap fun place => place.kinds.map (⟨place, ·⟩)

/-- The sections that hold a kind. -/
def NodeKind.sections (kind : NodeKind) : List Section :=
  Section.all.filter fun place => kind ∈ place.kinds

end PromptCanvas
