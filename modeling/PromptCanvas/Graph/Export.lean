import PromptCanvas.Decimal.Shortest
import PromptCanvas.Graph.Integrity
import PromptCanvas.Json.Measure
import PromptCanvas.Rejection

set_option autoImplicit false

/-! # Graphs in answers

The JSON of nodes, edges and statistics. Positions are written as texts, so that every number arrives
as it is; numbers in metadata that JSON cannot write become null, and torn names are made whole. A node
whose metadata is nested too deep has no answer, and neither has a graph with such a node. -/

namespace PromptCanvas

/-- A failure in an answer. -/
def Failure.toJson (failure : Failure) : Json :=
  .obj [("kind", .str failure.kind.slug), ("message", .ofWriting failure.message)]

/-- The greatest height of a value in the metadata of a node that is written. -/
def maxMetadataHeight : Nat := 255

/-- The fields of a node in an answer. -/
def Node.toJson (node : Node) : Json :=
  .obj
    [("id", .str node.id), ("kind", .str node.kind.slug), ("parent_id", .ofText? node.parent),
      ("base_prompt", .ofText? node.basePrompt), ("custom_text", .ofText? node.customText),
      ("prompt", .ofText? node.prompt), ("script", .ofText? node.script),
      ("enhanced_prompt", .ofText? node.enhancedPrompt), ("aspect_ratio", .str node.aspectRatio),
      ("input_ref", .ofText? node.inputRef), ("input_mime_type", .ofText? node.inputMimeType),
      ("output_ref", .ofText? node.outputRef), ("text_output", .ofText? node.textOutput),
      ("video_complete", .bool node.videoComplete), ("status", .str node.status.slug),
      ("error", (node.failure.map Failure.toJson).getD .null),
      ("generation_id", .ofText? node.generation),
      ("position",
        .obj (node.position.mended.map fun (name, x) => (name, .str (Decimal.plainLayout.render x)))),
      ("metadata", (Json.obj node.metadata).presented),
      ("tick", .ofNat node.tick)]

/-- What a node holds that it may not be possible to write, in the order in which an answer tells it. -/
def Node.told (node : Node) : List Json :=
  [(node.failure.map Failure.toJson).getD .null,
    .obj (node.position.mended.map fun (name, x) => (name, .float x)), (Json.obj node.metadata).presented]

/-- Whether the metadata of a node is nested too deep for an answer. -/
def Node.isTooDeep (node : Node) : Bool :=
  node.metadata.any fun entry => maxMetadataHeight < entry.2.height

/-- A node in an answer, unless it is nested too deep. -/
def Node.dump (node : Node) : Except Rejection Json :=
  if node.isTooDeep then .error .tooDeep else .ok node.toJson

/-- An edge in an answer. -/
def Edge.toJson (edge : Edge) : Json :=
  .obj
    [("edge_id", .str edge.id), ("source_id", .str edge.source), ("target_id", .str edge.target)]

namespace Graph

/-- Counts in an answer. -/
def countsJson (counts : Table String Nat) : Json := .obj (counts.map fun (name, n) => (name, .ofNat n))

/-- Statistics in an answer. -/
def Stats.toJson (stats : Stats) : Json :=
  .obj
    [("total_nodes", .ofNat stats.totalNodes), ("total_edges", .ofNat stats.totalEdges),
      ("roots", .ofNat stats.roots), ("by_status", countsJson stats.byStatus),
      ("by_kind", countsJson stats.byKind)]

/-- A whole graph in an answer, unless a node of it is nested too deep. -/
def dump (g : Graph) : Except Rejection Json :=
  (g.nodes.mapM Node.dump).map fun nodes =>
    .obj [("nodes", .arr nodes), ("edges", .arr (g.edges.map Edge.toJson))]

end Graph

end PromptCanvas
