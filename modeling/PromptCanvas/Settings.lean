import PromptCanvas.Validation.Value
import PromptCanvas.Text.LetterCase

set_option autoImplicit false

/-! # Settings

Settings come from arguments and from environment variables. A setting has a name, and some have an
official name as well, and it is given under either name in any case of letters. Of several arguments of
one name the first counts, of several environment variables the last. An argument hides an environment
variable, and the official name hides the plain one. A fault is reported at the name of an argument that
is spelled as the setting is, or else at the preferred name. -/

namespace PromptCanvas

/-- The settings of the program. -/
structure Settings where
  environment : String := "dev"
  logLevel : String := "INFO"
  apiKey : Option String := none
  imageModel : String := "imagen-3.0-generate-002"
  textModel : String := "gemini-2.5-flash"
  imageMimeType : String := "image/png"
  defaultAspectRatio : String := "1:1"
  animationMaxFrames : Int := 24
  /-- Whether a new node is refused where its parent is unknown. -/
  strictParents : Bool := false
deriving DecidableEq, Repr

namespace Settings

/-- The words by which a setting is given. -/
structure Key where
  name : String
  official? : Option String := none

/-- The words by which a setting is looked for, in order. -/
def Key.words (key : Key) : List String :=
  match key.official? with
  | some word => [word, key.name]
  | none => [key.name]

/-- The preferred name of a setting. -/
def Key.preferred (key : Key) : String := key.official?.getD key.name

/-- Where settings come from. -/
structure Sources where
  environment : List (String × String) := []
  arguments : List (String × Json) := []

namespace Sources

/-- The first entry with a name, in any case of letters. -/
def lookUp? {α : Type} (entries : List (String × α)) (word : String) : Option α :=
  let lowered := Text.lowercase word
  (entries.find? fun entry => Text.lowercase entry.1 == lowered).map Prod.snd

/-- The word that the argument for a setting is known by: the first of the setting's words that is spelled
    so among the arguments, or else the preferred one. -/
def spelling (sources : Sources) (key : Key) : String :=
  (key.words.find? (· ∈ sources.arguments.map Prod.fst)).getD key.preferred

/-- The argument for a setting and the word that it is known by. -/
def argument? (sources : Sources) (key : Key) : Option (String × Json) :=
  (key.words.findSome? (lookUp? sources.arguments)).map fun value => (sources.spelling key, value)

/-- The environment variable for a setting and the word that it is known by. -/
def inherited? (sources : Sources) (key : Key) : Option (String × Json) :=
  key.words.findSome? fun word =>
    (lookUp? sources.environment.reverse word).map fun value => (word, Json.str value)

/-- The value for a setting and the word that it was given under. -/
def find? (sources : Sources) (key : Key) : Option (String × Json) :=
  (sources.argument? key).or (sources.inherited? key)

/-- The checked value of a setting, or its default where none is given. -/
def read {α : Type} (sources : Sources) (key : Key) (default : α) (check : Json → Checked α) :
    Checked α :=
  match sources.find? key with
  | some (word, value) => (check value).under word
  | none => .ok default

end Sources

/-- The levels of a log. -/
def logLevels : List String := ["DEBUG", "INFO", "WARNING", "ERROR", "CRITICAL"]

/-- The name of a log level, in any case of letters. -/
def logLevelOf (value : Json) : Checked String :=
  (Value.text value).andThen fun s =>
    let level := Text.uppercaseAscii s
    if level ∈ logLevels then .ok level else .fault .valueRefused value

/-- The settings that the sources give, or the faults of their values. -/
def load (sources : Sources) : Checked Settings :=
  let standard : Settings := {}
  (((((((((Checked.ok Settings.mk).app
    (sources.read ⟨"environment", some "ENVIRONMENT"⟩ standard.environment
      fun value => (Value.text value).map Text.lowercase)).app
    (sources.read ⟨"log_level", some "LOG_LEVEL"⟩ standard.logLevel logLevelOf)).app
    (sources.read ⟨"google_api_key", some "GOOGLE_API_KEY"⟩ standard.apiKey Value.text?)).app
    (sources.read ⟨"image_model", none⟩ standard.imageModel Value.text)).app
    (sources.read ⟨"text_model", none⟩ standard.textModel Value.text)).app
    (sources.read ⟨"image_mime_type", none⟩ standard.imageMimeType Value.text)).app
    (sources.read ⟨"default_aspect_ratio", none⟩ standard.defaultAspectRatio Value.text)).app
    (sources.read ⟨"animation_max_frames", none⟩ standard.animationMaxFrames Value.integer)).app
    (sources.read ⟨"strict_parents", some "ARTIFFEX_STRICT_PARENTS"⟩ standard.strictParents
      Value.truth)

/-- The settings in an answer. -/
def toJson (settings : Settings) : Json :=
  .obj
    [("environment", .str settings.environment), ("log_level", .str settings.logLevel),
      ("google_api_key", .ofText? settings.apiKey), ("image_model", .str settings.imageModel),
      ("text_model", .str settings.textModel), ("image_mime_type", .str settings.imageMimeType),
      ("default_aspect_ratio", .str settings.defaultAspectRatio),
      ("animation_max_frames", .int settings.animationMaxFrames),
      ("strict_parents", .bool settings.strictParents)]

end Settings

end PromptCanvas
