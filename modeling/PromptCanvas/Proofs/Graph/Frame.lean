import PromptCanvas.Proofs.Graph.Operation

set_option autoImplicit false

/-! # What changes leave alone

A view is what one looks at in a node. A graph retains the view of a node when the node, if it lives
afterwards, looks as it did before; steps and paths retain every view that none of their changes touches.

Changes within a node are made to the node itself and to what is below it. They spare the rest: every node
outside lives on with all its fields, and the order of nodes, the edges and the lists of children lose what
is removed and nothing else. -/

namespace PromptCanvas

/-- What never changes in a node: its kind, its parent and when it was added. -/
def Node.fixed (node : Node) : NodeKind × Option NodeId × Nat := (node.kind, node.parent, node.created)

namespace Change

/-- A change leaves the view of a node alone, whatever the fields of the node are. -/
def Leaves {β : Type} (view : Node → β) (id : NodeId) : Change → Prop
  | .draw => True
  | .add _ => True
  | .edit target edits =>
      target = id → ∀ (node : Node) (tick : Nat), view { node.applyAll edits with tick := tick } = view node
  | .begin target =>
      target = id → ∀ (node : Node) (name : String) (tick : Nat),
        view { node.begun name with tick := tick } = view node
  | .setStatus target status failure =>
      target = id → ∀ (node : Node) (tick : Nat),
        view { node.moved status failure with tick := tick } = view node
  | .remove _ => True

theorem leaves_fixed (id : NodeId) (change : Change) : change.Leaves Node.fixed id := by
  cases change with
  | draw | add | remove => trivial
  | edit target edits =>
      intro _ node tick
      simp [Node.fixed]
  | begin target =>
      intro _ node name tick
      rfl
  | setStatus target status failure =>
      intro _ node tick
      rfl

end Change

namespace Graph

variable {β : Type} {view : Node → β} {g g' g'' : Graph} {id other : NodeId}

/-! ## Views that are retained -/

/-- If a node lives afterwards, it lived before and looked the same. -/
def Retains (view : Node → β) (id : NodeId) (g g' : Graph) : Prop :=
  ∀ node', g'.get? id = some node' → ∃ node, g.get? id = some node ∧ view node' = view node

theorem Retains.refl (view : Node → β) (id : NodeId) (g : Graph) : Retains view id g g :=
  fun node hnode => ⟨node, hnode, rfl⟩

theorem Retains.trans (h : Retains view id g g') (h' : Retains view id g' g'') :
    Retains view id g g'' := by
  intro node'' hnode''
  obtain ⟨node', hnode', hview'⟩ := h' node'' hnode''
  obtain ⟨node, hnode, hview⟩ := h node' hnode'
  exact ⟨node, hnode, hview'.trans hview⟩

theorem retains_alter {target : NodeId} (change : Node → Node)
    (hid : ∀ node, (change node).id = node.id)
    (hview : target = id → ∀ (node : Node) (tick : Nat), view { change node with tick := tick } = view node) :
    Retains view id g (g.alter target change) := by
  intro node' hnode'
  rw [get?_alter change hid] at hnode'
  obtain ⟨node, hnode, rfl⟩ := Option.map_eq_some_iff.1 hnode'
  refine ⟨node, hnode, ?_⟩
  unfold altered
  split
  · next he => exact hview (he.symm.trans (id_of_get? hnode)) node _
  · rfl

/-- A change that leaves the view of a node alone retains it. The id was used before, so that no node is
    added under it. -/
theorem Step.retains {change : Change} (step : Step g change g') (h : g.Sound)
    (hknown : id ∈ g.ids ∨ id ∈ g.retired) (hleaves : change.Leaves view id) : Retains view id g g' := by
  cases step with
  | draw draws => exact .refl view id g
  | @add node hunused =>
      have hne : node.id ≠ id := by
        rintro rfl
        obtain ⟨hlive, hretired⟩ := unused_iff.1 hunused
        exact hknown.elim hlive hretired
      intro node' hnode'
      rw [get?_attach_of_ne hne] at hnode'
      exact ⟨node', hnode', rfl⟩
  | edit hedit =>
      obtain ⟨_, rfl⟩ := edit_eq_ok_iff.1 hedit
      exact retains_alter _ (fun node => node.applyAll_id _) hleaves
  | begin hbegin =>
      obtain ⟨_, _, _, rfl⟩ := begin_eq_ok_iff.1 hbegin
      exact retains_alter (g := g.withDraws _) (Node.begun _) (fun _ => rfl) fun he node => hleaves he node _
  | setStatus hset =>
      obtain ⟨_, _, _, rfl⟩ := setStatus_eq_ok_iff.1 hset
      exact retains_alter (Node.moved _ _) (fun _ => rfl) hleaves
  | remove hclosed =>
      intro node' hnode'
      exact ⟨node', h.get?_of_remove hclosed hnode', rfl⟩

theorem Path.retains {fit : Graph → Change → Prop} {changes : List Change} (path : Path fit g changes g')
    (h : g.Sound) (hknown : id ∈ g.ids ∨ id ∈ g.retired)
    (hleaves : ∀ g change, fit g change → change.Leaves view id) : Retains view id g g' := by
  induction path with
  | nil g => exact .refl view id g
  | cons step hfit _ ih =>
      exact (step.retains h hknown (hleaves _ _ hfit)).trans
        (ih (step.sound h) (step.mem_ids_or_retired hknown))

/-! ## Changes within a node -/

/-- A change is made within a node: to the node itself, with edits that are allowed, or by removing nodes
    of its subtree. -/
def Within (id : NodeId) (allowed : Edit → Prop) (g : Graph) : Change → Prop
  | .draw => True
  | .add _ => False
  | .edit target edits => target = id ∧ ∀ edit ∈ edits, allowed edit
  | .begin target => target = id
  | .setStatus target _ _ => target = id
  | .remove doomed => ∀ x ∈ doomed, x = id ∨ x ∈ g.descendants id

variable {allowed : Edit → Prop} {change : Change}

theorem Within.mono {allowed' : Edit → Prop} (h : Within id allowed g change)
    (hmono : ∀ edit, allowed edit → allowed' edit) : Within id allowed' g change := by
  cases change with
  | edit target edits => exact ⟨h.1, fun edit hedit => hmono edit (h.2 edit hedit)⟩
  | draw | add | begin | setStatus | remove => exact h

theorem added?_of_within (h : Within id allowed g change) : change.added? = none := by
  cases change with
  | add node => exact h.elim
  | draw | edit | begin | setStatus | remove => rfl

/-- Other nodes are left as they are, unless they are removed. -/
theorem leaves_of_within (h : Within id allowed g change) (hne : other ≠ id) : change.Leaves view other := by
  cases change with
  | draw | add | remove => trivial
  | edit target edits => exact fun he => absurd (he.symm.trans h.1) hne
  | begin target => exact fun he => absurd (he.symm.trans h) hne
  | setStatus target status failure => exact fun he => absurd (he.symm.trans h) hne

/-- A quiet change leaves what the allowed edits do not touch. -/
theorem leaves_of_quiet {target : NodeId} (h : Within target allowed g change)
    (hquiet : change.isQuiet = true)
    (hedit : ∀ edit, allowed edit → ∀ node : Node, view (node.apply edit) = view node)
    (hstamp : ∀ (node : Node) (tick : Nat), view { node with tick := tick } = view node) :
    change.Leaves view id := by
  cases change with
  | draw | add | remove => trivial
  | begin | setStatus => exact Bool.noConfusion hquiet
  | edit target edits =>
      intro _ node tick
      rw [hstamp]
      exact Node.applyAll_congr view node edits fun edit hmem => hedit edit (h.2 edit hmem)

theorem Step.lists_of_lists (step : Step g change g') (h : g.Sound) (hadded : change.added? = none)
    {parent child : NodeId} (hlists : g'.Lists parent child) : g.Lists parent child := by
  have hsound' := step.sound h
  obtain ⟨node', hnode', rfl, hparent⟩ := hsound'.lists_iff.1 hlists
  have hlive : node'.id ∈ g.ids := by
    obtain ⟨doomed, hids, _⟩ := step.ids
    have hmem : node'.id ∈ g'.ids := List.mem_map_of_mem hnode'
    rw [hids, hadded, Option.toList_none, List.append_nil] at hmem
    exact List.mem_of_mem_filter hmem
  obtain ⟨node, hnode, hfixed⟩ := step.retains h (Or.inl hlive) (change.leaves_fixed node'.id) node'
    (get?_of_mem hsound'.nodup hnode')
  simp only [Node.fixed, Prod.mk.injEq] at hfixed
  exact h.lists_iff.2 ⟨node, mem_of_get? hnode, id_of_get? hnode, hfixed.2.1.symm.trans hparent⟩

/-- One change within a node leaves what is outside its subtree there, and outside. -/
theorem Step.outside (step : Step g change g') (h : g.Sound) (hfit : Within id allowed g change)
    (hne : other ≠ id) (hout : other ∉ g.descendants id) :
    g'.get? other = g.get? other ∧ other ∉ g'.descendants id := by
  have hlists : ∀ parent child, g'.Lists parent child → g.Lists parent child :=
    fun _ _ => step.lists_of_lists h (added?_of_within hfit)
  constructor
  · cases step with
    | draw draws => rfl
    | add => exact hfit.elim
    | edit hedit => exact (sameBut_of_edit hedit).get? other fun he => hne (he.trans hfit.1)
    | begin hbegin => exact (sameBut_of_begin hbegin).get? other fun he => hne (he.trans hfit)
    | setStatus hset => exact (sameBut_of_setStatus hset).get? other fun he => hne (he.trans hfit)
    | remove hclosed =>
        refine h.get?_remove_of_closed hclosed fun hdoomed => ?_
        rcases hfit other hdoomed with he | hbelow
        · exact hne he
        · exact hout hbelow
  · intro hbelow
    rw [(step.sound h).mem_descendants_iff] at hbelow
    exact hout ((h.mem_descendants_iff id other).2 (Relation.TransGen.mono hlists _ _ hbelow))

theorem Path.outside {changes : List Change} (path : Path (Within id allowed) g changes g') (h : g.Sound)
    (hne : other ≠ id) (hout : other ∉ g.descendants id) : g'.get? other = g.get? other := by
  induction path with
  | nil g => rfl
  | cons step hfit _ ih =>
      obtain ⟨hsame, hout'⟩ := step.outside h hfit hne hout
      exact (ih (step.sound h) hout').trans hsame

/-! ## What is spared -/

/-- From one graph to the next nothing has changed outside the subtree of a node. -/
structure Spares (id : NodeId) (g g' : Graph) : Prop where
  /-- The nodes outside are as they were, in all their fields, and so are the edges to them. -/
  outside : ∀ other, other ≠ id → other ∉ g.descendants id →
    g'.get? other = g.get? other ∧ g'.edgeTo? other = g.edgeTo? other
  /-- The nodes that live are in the order in which they were. -/
  order : g'.ids = g.ids.filter g'.has
  /-- The edges are those to nodes that live, in their order. -/
  edges : g'.parentEdges = g.parentEdges.filter fun entry => g'.has entry.1
  /-- The children are those that live, in their order. -/
  children : ∀ parent, g'.childIds parent = (g.childIds parent).filter g'.has

/-- The table of edges follows the order of the nodes. -/
theorem Sound.parentEdges_eq (h : g.Sound) :
    g.parentEdges = g.ids.filterMap fun id => (g.edgeTo? id).map fun edge => (id, edge) := by
  rw [h.edges, ids, List.filterMap_map]
  refine List.filterMap_congr fun node hnode => ?_
  rw [Function.comp_apply, h.edgeTo?_of_mem hnode, Node.link?]

theorem Sound.childIds_eq (h : g.Sound) (parent : NodeId) :
    g.childIds parent = g.ids.filter fun id => (g.edgeTo? id).map Edge.source = some parent := by
  rw [h.lists parent, ids, List.filter_map]
  congr 1
  refine List.filter_congr fun node hnode => ?_
  rw [Function.comp_apply, h.edgeTo?_of_mem hnode, Node.parentEdge?]
  cases node.parent <;> simp

theorem Path.spares {changes : List Change} (path : Path (Within id allowed) g changes g') (h : g.Sound) :
    Spares id g g' := by
  have hsound' := path.sound h
  have hadded : changes.filterMap Change.added? = [] :=
    path.added_eq_nil fun g change hfit => added?_of_within hfit
  have hids : g'.ids = g.ids.filter g'.has := by
    have := path.ids h
    rwa [hadded, List.append_nil] at this
  -- a node that lives has its parent as before, and so its edge
  have hedge : ∀ other, g'.has other = true → g'.edgeTo? other = g.edgeTo? other := by
    intro other hlive
    obtain ⟨node', hnode'⟩ := exists_get?_of_mem_ids (has_iff_mem_ids.1 hlive)
    have hbefore : other ∈ g.ids := by
      rw [has_iff_mem_ids, hids] at hlive
      exact List.mem_of_mem_filter hlive
    obtain ⟨node, hnode, hfixed⟩ := path.retains h (Or.inl hbefore)
      (fun _ change _ => change.leaves_fixed other) node' hnode'
    simp only [Node.fixed, Prod.mk.injEq] at hfixed
    rw [hsound'.edgeTo?_eq, h.edgeTo?_eq, hnode', hnode, Option.bind_some, Option.bind_some,
      Node.parentEdge?, Node.parentEdge?, hfixed.2.1, id_of_get? hnode', id_of_get? hnode]
  refine { outside := ?outside, order := hids, edges := ?edges, children := ?children }
  case outside =>
    intro other hne hout
    have hsame := path.outside h hne hout
    refine ⟨hsame, ?_⟩
    rw [hsound'.edgeTo?_eq, h.edgeTo?_eq, hsame]
  case edges =>
    rw [hsound'.parentEdges_eq, h.parentEdges_eq, hids, List.filter_filterMap, List.filterMap_filter]
    refine List.filterMap_congr fun other _ => ?_
    by_cases hlive : g'.has other = true
    · rw [if_pos hlive, hedge other hlive]
      cases g.edgeTo? other <;> simp [Option.filter_some, hlive]
    · rw [if_neg hlive]
      cases g.edgeTo? other <;> simp [Option.filter_some, hlive]
  case children =>
    intro parent
    rw [hsound'.childIds_eq, h.childIds_eq, hids, List.filter_filter, List.filter_filter]
    refine List.filter_congr fun other _ => ?_
    by_cases hlive : g'.has other = true
    · rw [hedge other hlive, Bool.and_comm]
    · simp [hlive]

/-- What is spared keeps its descendants. -/
theorem Spares.mem_descendants_iff (h : Spares id g g') (hsound : g.Sound) (hsound' : g'.Sound)
    (hne : other ≠ id) (hout : other ∉ g.descendants id) (hout' : id ∉ g.descendants other) (x : NodeId) :
    x ∈ g'.descendants other ↔ x ∈ g.descendants other := by
  have hdisjoint := hsound.disjoint_descendants hne hout hout'
  have hlists : ∀ parent child, g'.Lists parent child ↔ g.Lists parent child ∧ g'.has child = true := by
    intro parent child
    unfold Lists
    rw [h.children, List.mem_filter]
  rw [hsound.mem_descendants_iff, hsound'.mem_descendants_iff]
  constructor
  · intro hreach
    exact Relation.TransGen.mono (fun parent child hlist => ((hlists parent child).1 hlist).1) _ _ hreach
  · intro hreach
    -- every node on the way down is outside, so that it lives on
    have hlive : ∀ y, Relation.TransGen g.Lists other y → g'.has y = true := by
      intro y hy
      have hbelow := (hsound.mem_descendants_iff other y).2 hy
      obtain ⟨hsame, _⟩ := h.outside y (fun he => hout' (he ▸ hbelow)) (fun hmem => hdisjoint hmem hbelow)
      obtain ⟨parent, _, hlist⟩ := Relation.TransGen.tail'_iff.1 hy
      obtain ⟨node, hnode, rfl, _⟩ := hsound.lists_iff.1 hlist
      unfold Graph.has
      rw [hsame, get?_of_mem hsound.nodup hnode]
      rfl
    induction hreach with
    | single hlist => exact .single ((hlists _ _).2 ⟨hlist, hlive _ (.single hlist)⟩)
    | tail hreach hlist ih => exact ih.tail ((hlists _ _).2 ⟨hlist, hlive _ (hreach.tail hlist)⟩)

theorem Spares.descendants_perm (h : Spares id g g') (hsound : g.Sound) (hsound' : g'.Sound)
    (hne : other ≠ id) (hout : other ∉ g.descendants id) (hout' : id ∉ g.descendants other) :
    (g'.descendants other).Perm (g.descendants other) :=
  (List.perm_ext_iff_of_nodup (g'.nodup_descendants other) (g.nodup_descendants other)).2
    (h.mem_descendants_iff hsound hsound' hne hout hout')

/-! ## Additions -/

/-- A graph holds another one, in its order, and has more at the ends at most. -/
structure Extends (g g' : Graph) : Prop where
  nodes : g.nodes <+: g'.nodes
  edges : g.parentEdges <+: g'.parentEdges
  children : ∀ id, g.childIds id <+: g'.childIds id

theorem Sound.extends_attach (h : g.Sound) {node : Node} (h' : (g.attach node).Sound) :
    Extends g (g.attach node) where
  nodes := by
    rw [nodes_attach]
    exact List.prefix_append _ _
  edges := by
    rw [h'.edges, h.edges, nodes_attach, List.filterMap_append]
    exact List.prefix_append _ _
  children := by
    intro id
    rw [childIds_attach]
    exact List.prefix_append _ _

theorem Sound.extends_add (h : g.Sound) (aspectRatio : String) (kind : Json) (parent : Option NodeId)
    (fields : Json.Fields) : Extends g (g.add aspectRatio kind parent fields).2 := by
  obtain ⟨_, path, _⟩ := g.add_path aspectRatio kind parent fields
  have hsound := path.sound h
  rcases g.add_cases aspectRatio kind parent fields with ⟨r, draws, heq⟩ |
    ⟨fresh, slug, found, edits, draws, _, _, _, heq⟩
  · rw [heq]
    exact ⟨List.prefix_refl _, List.prefix_refl _, fun _ => List.prefix_refl _⟩
  · rw [heq] at hsound ⊢
    have hextends := (h.draws draws).extends_attach hsound
    exact ⟨hextends.nodes, hextends.edges, hextends.children⟩

/-- An addition retains all views of a node whose id was used before. -/
theorem retains_add (hknown : id ∈ g.ids ∨ id ∈ g.retired) (aspectRatio : String) (kind : Json)
    (parent : Option NodeId) (fields : Json.Fields) :
    Retains view id g (g.add aspectRatio kind parent fields).2 := by
  rcases g.add_cases aspectRatio kind parent fields with ⟨r, draws, heq⟩ |
    ⟨fresh, slug, found, edits, draws, hfresh, _, _, heq⟩
  · rw [heq]
    exact .refl view id g
  · have hne : (newcomer fresh slug aspectRatio found edits g.clock).id ≠ id := by
      rintro rfl
      obtain ⟨hlive, hretired⟩ := unused_iff.1 (unused_of_freshFrom hfresh)
      rw [newcomer, Node.applyAll_id] at hknown
      exact hknown.elim hlive hretired
    rw [heq]
    intro node' hnode'
    rw [get?_attach_of_ne hne] at hnode'
    exact ⟨node', hnode', rfl⟩

theorem mem_ids_of_add {aspectRatio : String} {kind : Json} {parent : Option NodeId} {fields : Json.Fields}
    {node : Node} (hnode : (g.add aspectRatio kind parent fields).2.get? id = some node) :
    id ∈ g.ids ∨ node.status = .idle := by
  rcases g.add_cases aspectRatio kind parent fields with ⟨r, draws, heq⟩ |
    ⟨fresh, slug, found, edits, draws, hfresh, _, _, heq⟩
  · rw [heq] at hnode
    exact Or.inl (mem_ids_of_get? (g := g) hnode)
  · rw [heq] at hnode
    have hnew : (newcomer fresh slug aspectRatio found edits g.clock).id ∉ (g.withDraws draws).ids := by
      rw [newcomer, Node.applyAll_id]
      exact (unused_iff.1 (unused_of_freshFrom hfresh)).1
    by_cases he : (newcomer fresh slug aspectRatio found edits g.clock).id = id
    · rw [← he, get?_attach_self hnew, Option.some.injEq] at hnode
      rw [← hnode]
      exact Or.inr (Node.applyAll_status _ _)
    · rw [get?_attach_of_ne he] at hnode
      exact Or.inl (mem_ids_of_get? (g := g) hnode)

end Graph

end PromptCanvas
