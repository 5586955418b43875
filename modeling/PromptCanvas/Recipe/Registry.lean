import PromptCanvas.Recipe.Template

set_option autoImplicit false

/-! # The recipe registry

A registry holds recipes by kind, in the order in which the kinds were first entered. A kind without a
recipe is no error: its base prompt passes through and the registry keeps a record of the kind.

`coverage` checks that every kind either has a recipe or is declared to need none. -/

namespace PromptCanvas

/-- Recipes by kind. -/
abbrev RecipeTable := List (NodeKind × Recipe)

namespace RecipeTable

/-- The recipe of a kind. -/
def get? (table : RecipeTable) (kind : NodeKind) : Option Recipe :=
  (table.find? fun entry => entry.1 == kind).map Prod.snd

/-- Whether a kind has a recipe. -/
def has (table : RecipeTable) (kind : NodeKind) : Bool := (table.get? kind).isSome

/-- The table with a recipe for a kind: in the kind's place if it has one, else at the end. -/
def set (kind : NodeKind) (recipe : Recipe) : RecipeTable → RecipeTable
  | [] => [(kind, recipe)]
  | entry :: rest =>
      if entry.1 = kind then (kind, recipe) :: rest else entry :: set kind recipe rest

/-- The table without a kind. -/
def erase (kind : NodeKind) (table : RecipeTable) : RecipeTable :=
  table.filter fun entry => entry.1 ≠ kind

/-- The kinds in order. -/
def kinds (table : RecipeTable) : List NodeKind := table.map Prod.fst

/-- The recipes of the palette for some kinds; a kind that has none gets no entry. -/
def standard (kinds : List NodeKind) : RecipeTable :=
  kinds.foldl (fun table kind =>
    match Template.ofKind? kind with
    | some template => table.set kind template.fill
    | none => table) []

/-- The recipes of the palette. -/
def palette : RecipeTable := standard NodeKind.all

end RecipeTable

/-- The kinds that are run without a recipe: an upload is described, a script is compiled, a podcast is
    written as text, and a video is simulated. -/
def recipeFree : List NodeKind := [.sourceUpload, .sourceImagescript, .generatePodcast, .veoVideo]

/-! ## Coverage -/

/-- What can be wrong with a table for one kind. -/
inductive CoverageProblem where
  | both (kind : NodeKind)
  | neither (kind : NodeKind)
deriving DecidableEq, Repr

/-- The problem in words. -/
def CoverageProblem.message : CoverageProblem → String
  | .both kind => kind.slug ++ ": has a recipe but is also dispatched without one"
  | .neither kind => kind.slug ++ ": no recipe and not declared recipe-free"

/-- The problem of a table with one kind. -/
def coverageOf (table : RecipeTable) (free : List NodeKind) (kind : NodeKind) :
    Option CoverageProblem :=
  match table.has kind, decide (kind ∈ free) with
  | true, true => some (.both kind)
  | false, false => some (.neither kind)
  | _, _ => none

/-- The problems of a table, in the order of the kinds. -/
def coverage (table : RecipeTable) (free : List NodeKind) : List CoverageProblem :=
  NodeKind.all.filterMap (coverageOf table free)

/-! ## The registry -/

/-- A table of recipes, and the kinds for which it was asked in vain, in order. -/
structure Registry where
  table : RecipeTable := RecipeTable.palette
  anomalies : List NodeKind := []

namespace Registry

/-- Enters a recipe. -/
def register (registry : Registry) (kind : NodeKind) (recipe : Recipe) : Registry :=
  { registry with table := registry.table.set kind recipe }

/-- The prompt of a kind, and the registry afterwards. -/
def resolve (registry : Registry) (kind : NodeKind) (base custom : String) : String × Registry :=
  match registry.table.get? kind with
  | some recipe => (recipe base custom, registry)
  | none => (base, { registry with anomalies := registry.anomalies ++ [kind] })

end Registry

end PromptCanvas
