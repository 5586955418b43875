import PromptCanvas.Decimal.Binary64
import PromptCanvas.Text.Symbols

set_option autoImplicit false

/-! # JSON values

A JSON value keeps whole numbers apart from numbers with a fraction or exponent, and the fields of an
object in the order in which their names first occurred. `Table` is that order: an association list
in which writing a key again changes its value in place. A text or a name that is torn is kept as its
symbols. -/

namespace PromptCanvas

open Text

/-- An association list with each key at most once, in the order of first occurrence. -/
abbrev Table (κ α : Type) := List (κ × α)

namespace Table

variable {κ α : Type} [DecidableEq κ]

/-- The value at a key. -/
def get? (table : Table κ α) (key : κ) : Option α :=
  match table with
  | [] => none
  | entry :: rest => if entry.1 = key then some entry.2 else get? rest key

/-- Whether a key has a value. -/
def has (table : Table κ α) (key : κ) : Bool := (table.get? key).isSome

/-- The table with `value` at `key`: in the key's place if it has one, else at the end. -/
def set (key : κ) (value : α) : Table κ α → Table κ α
  | [] => [(key, value)]
  | entry :: rest =>
      if entry.1 = key then (key, value) :: rest else entry :: set key value rest

/-- The table without a key. -/
def erase (key : κ) (table : Table κ α) : Table κ α :=
  table.filter fun entry => entry.1 ≠ key

/-- The keys in order. -/
def keys (table : Table κ α) : List κ := table.map Prod.fst

/-- The table that results from writing entries one after the other. -/
def ofEntries (entries : List (κ × α)) : Table κ α :=
  entries.foldl (fun table entry => set entry.1 entry.2 table) []

end Table

/-- The table with its names made whole. Of names that become alike the last one counts. -/
def Table.mended {α : Type} (table : Table Writing α) : Table String α :=
  Table.ofEntries (table.map fun entry => (entry.1.mended, entry.2))

/-- A JSON value. -/
inductive Json where
  | null
  | bool (b : Bool)
  | int (n : Int)
  | float (x : Binary64)
  | str (s : String)
  | torn (symbols : List Symbol)
  | arr (items : List Json)
  | obj (fields : List (Writing × Json))
deriving Inhabited, Repr

namespace Json

/-- The fields of an object. -/
abbrev Fields := Table Writing Json

/-- The object with fields whose names are whole. -/
def ofTable (table : Table String Json) : Json :=
  .obj (table.map fun entry => (.whole entry.1, entry.2))

/-- The field of an object. -/
def field? (name : String) : Json → Option Json
  | .obj fields => Table.get? fields name
  | _ => none

/-- Whether a value is an object. -/
def isObject : Json → Bool
  | .obj _ => true
  | _ => false

/-- Whether a value counts as something: null, false, zero and what is empty do not. -/
def isSomething : Json → Bool
  | .null => false
  | .bool b => b
  | .int n => n != 0
  | .float x => !x.isZero
  | .str s => s != ""
  | .torn _ => true
  | .arr items => !items.isEmpty
  | .obj fields => !fields.isEmpty

/-- The text of a value that is null or a text. -/
def ofText? : Option String → Json
  | none => .null
  | some s => .str s

/-- A list of texts. -/
def ofTexts (texts : List String) : Json := .arr (texts.map .str)

/-- A natural number. -/
def ofNat (n : Nat) : Json := .int n

/-- The text that symbols make up. -/
def ofSymbols (symbols : List Symbol) : Json :=
  match whole? symbols with
  | some s => .str s
  | none => .torn symbols

/-- A text that may be torn. -/
def ofWriting : Writing → Json
  | .whole s => .str s
  | .torn symbols => .torn symbols

end Json

end PromptCanvas
