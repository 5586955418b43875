import PromptCanvas.Proofs.Graph.Forest

set_option autoImplicit false

/-! # Lineages

The lineage of a node is the chain of parents from the node up to its root. In a sound graph the climb along
parent edges shows it in full (`Sound.lineage_ancestors`), and a node is in the lineage of all that is below it
and of nothing else (`Lineage.mem_iff`). -/

namespace PromptCanvas.Graph

/-- The chain of parents from an id up to its root: nearest first, and empty for a root. -/
inductive Lineage (g : Graph) : NodeId → List NodeId → Prop
  | root {id : NodeId} (none : ∀ parent, ¬ g.ParentOf parent id) : Lineage g id []
  | child {id parent : NodeId} {chain : List NodeId} (parentOf : g.ParentOf parent id)
      (rest : Lineage g parent chain) : Lineage g id (parent :: chain)

variable {g : Graph} {id : NodeId} {chain : List NodeId}

theorem Sound.parentOf_iff (h : g.Sound) {parent child : NodeId} :
    g.ParentOf parent child ↔ g.Lists parent child := h.lists_iff.symm

theorem Sound.parentOf_iff_edgeTo? (h : g.Sound) {parent : NodeId} :
    g.ParentOf parent id ↔ (g.edgeTo? id).map Edge.source = some parent := by
  constructor
  · rintro ⟨node, hnode, rfl, hparent⟩
    rw [h.edgeTo?_of_mem hnode, Node.parentEdge?, hparent]
    rfl
  · intro hsource
    obtain ⟨edge, hedge, rfl⟩ := Option.map_eq_some_iff.1 hsource
    rw [h.edgeTo?_eq] at hedge
    obtain ⟨node, hnode, hedge⟩ := Option.bind_eq_some_iff.1 hedge
    exact ⟨node, mem_of_get? hnode, id_of_get? hnode, (Node.parentEdge?_eq_some_iff.1 hedge).1⟩

theorem Lineage.mem_iff (lineage : Lineage g id chain) (h : g.Sound) (x : NodeId) :
    x ∈ chain ↔ Relation.TransGen g.Lists x id := by
  induction lineage with
  | root none =>
      refine iff_of_false List.not_mem_nil fun hreach => ?_
      obtain ⟨parent, _, hlists⟩ := Relation.TransGen.tail'_iff.1 hreach
      exact none parent (h.parentOf_iff.2 hlists)
  | @child id parent chain parentOf rest ih =>
      have hlists := h.parentOf_iff.1 parentOf
      rw [List.mem_cons, ih]
      constructor
      · rintro (rfl | hreach)
        · exact .single hlists
        · exact hreach.tail hlists
      · intro hreach
        obtain ⟨last, habove, hlast⟩ := Relation.TransGen.tail'_iff.1 hreach
        obtain rfl : last = parent := h.lists_unique hlast hlists
        rcases Relation.reflTransGen_iff_eq_or_transGen.1 habove with heq | habove
        · exact Or.inl heq.symm
        · exact Or.inr habove

theorem Lineage.nodup (lineage : Lineage g id chain) (h : g.Sound) : chain.Nodup := by
  induction lineage with
  | root => exact List.nodup_nil
  | @child id parent chain parentOf rest ih =>
      refine List.nodup_cons.2 ⟨fun hmem => ?_, ih⟩
      exact h.not_transGen_self parent ((rest.mem_iff h parent).1 hmem)

/-! ## Climbing -/

theorem Sound.lineage_of_edgeTo?_eq_none (h : g.Sound) (hedge : g.edgeTo? id = none) : Lineage g id [] := by
  refine .root fun parent hparent => ?_
  simpa [hedge] using h.parentOf_iff_edgeTo?.1 hparent

/-- The climb shows the lineage, if nothing above the id was met. The fuel is for the id, if an edge leads to it,
    and for all targets of edges that are still to be met. -/
theorem Sound.lineage_climb (h : g.Sound) (fuel : Nat) (met : List NodeId) (id : NodeId)
    (hfuel : ∀ edge, g.edgeTo? id = some edge →
      (g.parentEdges.map Prod.fst).countP (fun x => x ∉ met) < fuel)
    (hmet : ∀ x ∈ met, x = id ∨ Relation.TransGen g.Lists id x) :
    Lineage g id (climb g.parentEdges fuel met id) := by
  induction fuel generalizing met id with
  | zero =>
      refine h.lineage_of_edgeTo?_eq_none ?_
      exact Option.eq_none_iff_forall_ne_some.2 fun edge hedge => absurd (hfuel edge hedge) (Nat.not_lt_zero _)
  | succ fuel ih =>
      unfold climb
      rw [show g.parentEdges.get? id = g.edgeTo? id from rfl]
      cases hedge : g.edgeTo? id with
      | none => exact h.lineage_of_edgeTo?_eq_none hedge
      | some edge =>
          have hparent : g.ParentOf edge.source id := h.parentOf_iff_edgeTo?.2 (by rw [hedge, Option.map_some])
          have hlists := h.parentOf_iff.1 hparent
          have hnew : edge.source ∉ met := by
            intro hmem
            rcases hmet _ hmem with heq | hreach
            · exact h.not_transGen_self id (.single (heq ▸ hlists))
            · exact h.not_transGen_self id (hreach.tail hlists)
          simp only [hnew, if_false]
          refine .child hparent (ih _ _ (fun next hnext => ?_) fun x hx => ?_)
          · -- the parent is itself the target of an edge, and is met now
            have hkey := Table.mem_keys_of_get? hnext
            have hcount := countP_unmet_add_length_le (g.parentEdges.map Prod.fst) met [edge.source]
              (List.nodup_singleton _) (by simpa using hkey) (by simpa using hnew)
            have hbefore := hfuel edge hedge
            simp only [List.reverse_singleton, List.singleton_append, List.length_singleton] at hcount
            omega
          · rcases List.mem_cons.1 hx with rfl | hx
            · exact Or.inl rfl
            · rcases hmet x hx with rfl | hreach
              · exact Or.inr (.single hlists)
              · exact Or.inr (hreach.head hlists)

theorem Sound.lineage_ancestors (h : g.Sound) (id : NodeId) : Lineage g id (g.ancestors id) := by
  refine h.lineage_climb _ [id] id (fun _ _ => ?_) fun _ hx => Or.inl (List.mem_singleton.1 hx)
  rw [← List.length_map Prod.fst]
  exact Nat.lt_succ_of_le List.countP_le_length

/-- Below and above say the same. -/
theorem Sound.mem_descendants_iff_mem_ancestors (h : g.Sound) (id x : NodeId) :
    x ∈ g.descendants id ↔ id ∈ g.ancestors x :=
  (h.mem_descendants_iff id x).trans ((h.lineage_ancestors x).mem_iff h id).symm

end PromptCanvas.Graph
