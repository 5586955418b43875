import PromptCanvas.Http.Target

set_option autoImplicit false

/-! # Routes

A route is a path with a method. Two paths differ only in the place of a node's id, which may be any
segment that is not empty. A path starts with a slash, and a line feed may follow its last fixed word. A
path that is known with another method is answered differently from one that is not known at all, and a
path with slashes at its end is sent to the path without them. -/

namespace PromptCanvas.Http

/-- What a request can ask for. -/
inductive Action where
  | health
  | kinds
  | listNodes
  | addNode
  | getNode
  | updateNode
  | deleteNode
  | descendants
  | ancestors
  | invalidate
  | run
  | upload
  | enhance
  | listEdges
  | exportGraph
  | stats
  | validate
  | compile
  | lint
  | animation
deriving DecidableEq, Repr

/-- A segment of a route's path: a fixed word or the place of a node's id. -/
inductive Segment where
  | word (s : String)
  | nodeId
deriving DecidableEq, Repr

/-- A route. -/
structure Route where
  method : String
  path : List Segment
  action : Action
deriving DecidableEq, Repr

/-- A path of fixed words. -/
def fixed (words : List String) : List Segment := words.map .word

/-- A path below a node. -/
def ofNode (words : List String) : List Segment := .word "nodes" :: .nodeId :: words.map .word

/-- All routes. -/
def routes : List Route :=
  [⟨"GET", fixed ["health"], .health⟩,
    ⟨"GET", fixed ["kinds"], .kinds⟩,
    ⟨"GET", fixed ["nodes"], .listNodes⟩,
    ⟨"POST", fixed ["nodes"], .addNode⟩,
    ⟨"GET", ofNode [], .getNode⟩,
    ⟨"PATCH", ofNode [], .updateNode⟩,
    ⟨"DELETE", ofNode [], .deleteNode⟩,
    ⟨"GET", ofNode ["descendants"], .descendants⟩,
    ⟨"GET", ofNode ["ancestors"], .ancestors⟩,
    ⟨"POST", ofNode ["invalidate"], .invalidate⟩,
    ⟨"POST", ofNode ["run"], .run⟩,
    ⟨"POST", ofNode ["upload"], .upload⟩,
    ⟨"POST", ofNode ["enhance"], .enhance⟩,
    ⟨"GET", fixed ["edges"], .listEdges⟩,
    ⟨"GET", fixed ["graph", "export"], .exportGraph⟩,
    ⟨"GET", fixed ["graph", "stats"], .stats⟩,
    ⟨"POST", fixed ["graph", "validate"], .validate⟩,
    ⟨"POST", fixed ["imagescript", "compile"], .compile⟩,
    ⟨"POST", fixed ["imagescript", "lint"], .lint⟩,
    ⟨"POST", fixed ["animation", "prompts"], .animation⟩]

/-- Whether segments fit a path; the node's id comes with the answer, empty where the path has none. -/
def fits : List Segment → List String → Option String
  | [], [] => some ""
  | [.word w], [s] => if s = w ∨ s = w ++ "\n" then some "" else none
  | .word w :: path, s :: segments => if w = s then fits path segments else none
  | .nodeId :: path, s :: segments =>
      if s = "" then none else (fits path segments).map fun _ => s
  | _, _ => none

/-- What a method and a path lead to. -/
inductive Found where
  | action (action : Action) (node : String)
  | wrongMethod
  | redirect
  | nothing
deriving DecidableEq, Repr

/-- Whether some route has the path. -/
def known (path : List Char) : Bool :=
  match segments? path with
  | some segments => routes.any fun route => (fits route.path segments).isSome
  | none => false

/-- The route with a method and a path, as its action with the node's id. -/
def lookUp? (method : String) (path : List Char) : Option (Action × String) :=
  (segments? path).bind fun segments =>
    routes.findSome? fun route =>
      if route.method = method then (fits route.path segments).map fun node => (route.action, node)
      else none

/-- The path without the slashes at its end. -/
def withoutLastSlashes (path : List Char) : List Char :=
  (path.reverse.dropWhile (· == '/')).reverse

/-- Looks up a method and a path. -/
def find (method : String) (path : List Char) : Found :=
  match lookUp? method path with
  | some (action, node) => .action action node
  | none =>
      if known path then .wrongMethod
      else if path.getLast? = some '/' ∧ known (withoutLastSlashes path) then .redirect
      else .nothing

end PromptCanvas.Http
