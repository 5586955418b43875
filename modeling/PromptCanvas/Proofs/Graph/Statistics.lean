import PromptCanvas.Graph.Export
import PromptCanvas.Proofs.Graph.Forest

set_option autoImplicit false

/-! # What the statistics of a graph count

A tally holds each name that occurs, with the number of times it occurs, so that its counts add up to the number
of names (`counts_tally`, `total_tally`). In a sound graph every node is a root or has one edge
(`Sound.roots_add_edges`), and every edge leads to one child of one node (`Sound.length_edges_eq_children`). -/

namespace PromptCanvas

/-! ## Tables of counts -/

namespace Table

variable {κ : Type} [DecidableEq κ]

/-- The sum of the counts in a table. -/
def total (table : Table κ Nat) : Nat := table.foldr (fun entry n => entry.2 + n) 0

/-- A table holds the names of which there are some, once each and with their number. -/
structure Counts (table : Table κ Nat) (number : κ → Nat) : Prop where
  distinct : (table.map Prod.fst).Nodup
  positive : ∀ entry ∈ table, 0 < entry.2
  right : ∀ entry ∈ table, entry.2 = number entry.1
  complete : ∀ name, 0 < number name → name ∈ table.map Prod.fst

variable {table : Table κ Nat} {number : κ → Nat}

/-- What is found under a name is its number, if there is anything. -/
theorem Counts.getD_get? (h : table.Counts number) (name : κ) : (table.get? name).getD 0 = number name := by
  cases hfound : table.get? name with
  | some n => exact h.right _ (mem_of_get? hfound)
  | none =>
      refine (Nat.eq_zero_of_not_pos fun hpos => ?_).symm
      obtain ⟨n, hn⟩ := exists_get?_of_mem_keys (h.complete name hpos)
      rw [hfound] at hn
      cases hn

theorem Counts.set (h : table.Counts number) (name : κ) :
    (table.set name ((table.get? name).getD 0 + 1)).Counts
      fun other => number other + if name = other then 1 else 0 := by
  have hdistinct := nodup_keys_set table name ((table.get? name).getD 0 + 1) h.distinct
  have hfound := fun other => get?_set table name other ((table.get? name).getD 0 + 1)
  refine { distinct := hdistinct, positive := ?positive, right := ?right, complete := ?complete }
  case positive =>
    intro entry hentry
    rcases mem_of_mem_set hentry with rfl | hentry
    · exact Nat.succ_pos _
    · exact h.positive entry hentry
  case right =>
    intro entry hentry
    have hvalue := get?_of_mem hdistinct hentry
    rw [hfound] at hvalue
    split at hvalue
    · next he =>
        rw [← Option.some.inj hvalue, ← he, if_pos rfl, h.getD_get?]
    · next hne =>
        rw [if_neg hne, Nat.add_zero]
        exact h.right entry (mem_of_get? hvalue)
  case complete =>
    intro other hpos
    by_cases he : name = other
    · exact mem_keys_of_get? ((hfound other).trans (if_pos he))
    · rw [if_neg he, Nat.add_zero] at hpos
      obtain ⟨n, hn⟩ := exists_get?_of_mem_keys (h.complete other hpos)
      exact mem_keys_of_get? ((hfound other).trans ((if_neg he).trans hn))

theorem total_set (table : Table κ Nat) (name : κ) (n : Nat) :
    total (table.set name n) + (table.get? name).getD 0 = total table + n := by
  induction table with
  | nil => simp [Table.set, total]
  | cons entry rest ih =>
      rw [get?_cons]
      simp only [Table.set]
      split
      · simp only [total, List.foldr_cons, Option.getD_some]
        omega
      · simp only [total, List.foldr_cons] at ih ⊢
        omega

end Table

namespace Graph

/-! ## Tallies -/

/-- One more name is counted. -/
def count (counts : Table String Nat) (name : String) : Table String Nat :=
  counts.set name ((counts.get? name).getD 0 + 1)

theorem tally_eq_foldl (names : List String) : tally names = names.foldl count [] := rfl

theorem counts_foldl_count {counts : Table String Nat} {number : String → Nat} (h : counts.Counts number)
    (names : List String) : (names.foldl count counts).Counts fun name => number name + names.count name := by
  induction names generalizing counts number with
  | nil => exact h
  | cons first rest ih =>
      have hrest := ih (h.set first)
      simp only [List.count_cons, beq_iff_eq, Nat.add_assoc, Nat.add_comm (rest.count _)] at hrest ⊢
      exact hrest

theorem counts_tally (names : List String) : (tally names).Counts names.count := by
  have hnone : Table.Counts ([] : Table String Nat) fun _ => 0 :=
    { distinct := List.nodup_nil
      positive := fun _ hentry => absurd hentry List.not_mem_nil
      right := fun _ hentry => absurd hentry List.not_mem_nil
      complete := fun _ hpos => absurd hpos (Nat.lt_irrefl 0) }
  rw [tally_eq_foldl]
  simpa only [Nat.zero_add] using counts_foldl_count hnone names

theorem total_foldl_count (names : List String) (counts : Table String Nat) :
    (names.foldl count counts).total = counts.total + names.length := by
  induction names generalizing counts with
  | nil => rfl
  | cons first rest ih =>
      have hset := Table.total_set counts first ((counts.get? first).getD 0 + 1)
      rw [List.foldl_cons, ih, List.length_cons]
      unfold count
      omega

theorem total_tally (names : List String) : (tally names).total = names.length := by
  rw [tally_eq_foldl, total_foldl_count]
  exact Nat.zero_add _

/-! ## Roots, edges and children -/

variable {g : Graph}

theorem Sound.length_edges (h : g.Sound) :
    g.parentEdges.length = g.nodes.countP fun node => node.parent.isSome := by
  rw [h.edges, List.length_filterMap_eq_countP]
  congr 1
  funext node
  simp [Node.link?, Node.parentEdge?]

/-- Every node is a root or has one edge. -/
theorem Sound.roots_add_edges (h : g.Sound) : g.roots.length + g.parentEdges.length = g.nodes.length := by
  rw [h.roots_eq, h.length_edges, ← List.countP_eq_length_filter,
    List.length_eq_countP_add_countP (fun node => decide (node.parent = none))]
  congr 2
  funext node
  cases node.parent <;> simp

theorem foldr_count_cons (ids sources : List NodeId) (source : NodeId) :
    ids.foldr (fun id n => (source :: sources).count id + n) 0
      = ids.foldr (fun id n => sources.count id + n) 0 + ids.count source := by
  induction ids with
  | nil => rfl
  | cons id rest ih =>
      rw [List.foldr_cons, ih, List.foldr_cons, List.count_cons, List.count_cons]
      simp only [beq_iff_eq, eq_comm (a := id)]
      omega

/-- Where ids differ and hold all of some sources, each source is counted at one of the ids. -/
theorem foldr_count_eq_length {ids sources : List NodeId} (hnodup : ids.Nodup)
    (hsources : ∀ source ∈ sources, source ∈ ids) :
    ids.foldr (fun id n => sources.count id + n) 0 = sources.length := by
  induction sources with
  | nil =>
      have hzero : ∀ others : List NodeId, others.foldr (fun id n => ([] : List NodeId).count id + n) 0 = 0 :=
        fun others => by induction others <;> simp_all
      exact hzero ids
  | cons source rest ih =>
      have hsource : source ∈ ids := hsources source List.mem_cons_self
      rw [foldr_count_cons, List.count_eq_one_of_mem hnodup hsource, List.length_cons,
        ih fun other hother => hsources other (List.mem_cons_of_mem _ hother)]

/-- The ids that nodes refer to as their parents, once for each node. -/
def sources (g : Graph) : List NodeId := g.nodes.filterMap Node.parent

theorem Sound.length_children (h : g.Sound) (id : NodeId) : (g.children id).length = g.sources.count id := by
  rw [h.children_eq, ← List.countP_eq_length_filter]
  unfold sources
  rw [List.count_filterMap]
  congr 1
  funext node
  rw [Bool.eq_iff_iff]
  simp

theorem Sound.length_edges_eq_children (h : g.Sound) :
    g.parentEdges.length = g.nodes.foldr (fun node n => (g.children node.id).length + n) 0 := by
  have hsources : ∀ source ∈ g.sources, source ∈ g.ids := by
    intro source hsource
    obtain ⟨node, hnode, hparent⟩ := List.mem_filterMap.1 hsource
    exact h.live node hnode source hparent
  have hcount := foldr_count_eq_length h.nodup hsources
  unfold ids at hcount
  rw [List.foldr_map] at hcount
  simp only [h.length_children]
  rw [hcount, h.length_edges]
  unfold sources
  rw [List.length_filterMap_eq_countP]

/-! ## Counts in the export -/

theorem dump_eq (g : Graph) :
    g.dump = if g.nodes.any Node.isTooDeep then .error .tooDeep
      else .ok (.obj [("nodes", .arr (g.nodes.map Node.toJson)), ("edges", .arr (g.edges.map Edge.toJson))]) := by
  have hdumps : ∀ nodes : List Node, nodes.mapM Node.dump
      = if nodes.any Node.isTooDeep then .error .tooDeep else .ok (nodes.map Node.toJson) := by
    intro nodes
    induction nodes with
    | nil => rfl
    | cons node rest ih =>
        rw [List.mapM_cons, ih, Node.dump, List.any_cons]
        by_cases hnode : node.isTooDeep = true
        · rw [if_pos hnode, hnode]
          rfl
        · rw [if_neg hnode, Bool.eq_false_iff.2 hnode, Bool.false_or]
          split <;> rfl
  unfold Graph.dump
  rw [hdumps]
  split <;> rfl

/-! ## The counts of nodes -/

/-- The statuses are counted right, in whatever form the nodes tell them. -/
theorem counts_byStatus {α : Type} (g : Graph) (form : Node → α) (shows : String → α → Bool)
    (hshows : ∀ name node, shows name (form node) = (node.status.slug == name)) :
    g.stats.byStatus.Counts fun name => (g.nodes.map form).countP (shows name) := by
  have hcounts := counts_tally (g.nodes.map fun node => node.status.slug)
  simp only [List.count_eq_countP, List.countP_map, Function.comp_def, hshows] at hcounts ⊢
  exact hcounts

theorem counts_byKind {α : Type} (g : Graph) (form : Node → α) (shows : String → α → Bool)
    (hshows : ∀ name node, shows name (form node) = (node.kind.slug == name)) :
    g.stats.byKind.Counts fun name => (g.nodes.map form).countP (shows name) := by
  have hcounts := counts_tally (g.nodes.map fun node => node.kind.slug)
  simp only [List.count_eq_countP, List.countP_map, Function.comp_def, hshows] at hcounts ⊢
  exact hcounts

end Graph

/-- A value has a text in one of its fields. -/
def Json.shows (field text : String) (value : Json) : Bool :=
  match value.field? field with
  | some (.str s) => s == text
  | _ => false

end PromptCanvas
