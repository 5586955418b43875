import PromptCanvas.Proofs.Graph.Removal

set_option autoImplicit false

/-! # Changes, steps and paths

Whatever is done to a graph is done by changes of six forms. `Graph.Step` says what each of them does and
when it can be made, and `Graph.Path` strings steps together. An operation is described once, by the path
that it takes; what every step keeps is then kept by every operation.

A path can ask more of its changes than that they can be made: `fit` is such a demand. -/

namespace PromptCanvas

/-- A change of a graph. -/
inductive Change where
  /-- Ids are drawn. -/
  | draw
  | add (node : Node)
  | edit (id : NodeId) (edits : List Edit)
  | begin (id : NodeId)
  | setStatus (id : NodeId) (status : Status) (failure : Option Failure)
  | remove (doomed : List NodeId)

namespace Change

/-- The id of the node that a change adds. -/
def added? : Change → Option NodeId
  | add node => some node.id
  | _ => none

/-- The id of the node of which a change begins a run. -/
def begun? : Change → Option NodeId
  | begin id => some id
  | _ => none

/-- Whether a change leaves the execution of every node alone. -/
def isQuiet : Change → Bool
  | begin _ => false
  | setStatus _ _ _ => false
  | _ => true

end Change

namespace Graph

/-- A change leads from one graph to another. -/
inductive Step : Graph → Change → Graph → Prop where
  | draw (g : Graph) (draws : Draws) : Step g .draw (g.withDraws draws)
  /-- A new node is idle, without failure, and its id was never used. -/
  | add {g : Graph} {node : Node} (hunused : g.unused node.id = true)
      (hlive : ∀ parent, node.parent = some parent → parent ∈ g.ids)
      (hstatus : node.status = .idle) (hgeneration : node.generation = none)
      (hfailure : node.failure = none) : Step g (.add node) (g.attach node)
  | edit {g g' : Graph} {id : NodeId} {edits : List Edit} (h : g.edit id edits = .ok g') :
      Step g (.edit id edits) g'
  | begin {g g' : Graph} {id : NodeId} (h : g.begin id = .ok g') : Step g (.begin id) g'
  | setStatus {g g' : Graph} {id : NodeId} {status : Status} {failure : Option Failure}
      (h : g.setStatus id status failure = .ok g') : Step g (.setStatus id status failure) g'
  /-- Nodes are removed with all that is below them. -/
  | remove {g : Graph} {doomed : List NodeId} (hclosed : g.Closed doomed) :
      Step g (.remove doomed) (g.remove doomed)

/-- Changes lead from one graph to another, and each of them fits the graph that it changes. -/
inductive Path (fit : Graph → Change → Prop) : Graph → List Change → Graph → Prop where
  | nil (g : Graph) : Path fit g [] g
  | cons {g g' last : Graph} {change : Change} {changes : List Change} (step : Step g change g')
      (hfit : fit g change) (rest : Path fit g' changes last) : Path fit g (change :: changes) last

namespace Path

variable {fit : Graph → Change → Prop} {g g' g'' : Graph}

theorem single {change : Change} (step : Step g change g') (hfit : fit g change) :
    Path fit g [change] g' :=
  .cons step hfit (.nil g')

theorem append {changes later : List Change} (first : Path fit g changes g')
    (second : Path fit g' later g'') : Path fit g (changes ++ later) g'' := by
  induction first with
  | nil g => exact second
  | cons step hfit _ ih => exact .cons step hfit (ih second)

theorem mono {fit' : Graph → Change → Prop} {changes : List Change} (path : Path fit g changes g')
    (h : ∀ g change, fit g change → fit' g change) : Path fit' g changes g' := by
  induction path with
  | nil g => exact .nil g
  | cons step hfit _ ih => exact .cons step (h _ _ hfit) ih

theorem keeps {changes : List Change} (path : Path fit g changes g') (kept : Graph → Prop)
    (hstep : ∀ g change g', kept g → fit g change → Step g change g' → kept g') (h : kept g) :
    kept g' := by
  induction path with
  | nil g => exact h
  | cons step hfit _ ih => exact ih (hstep _ _ _ h hfit step)

theorem added_eq_nil {changes : List Change} (path : Path fit g changes g')
    (h : ∀ g change, fit g change → change.added? = none) :
    changes.filterMap Change.added? = [] := by
  induction path with
  | nil g => rfl
  | cons _ hfit _ ih => rw [List.filterMap_cons_none (h _ _ hfit), ih]

theorem begun_eq_nil {changes : List Change} (path : Path fit g changes g')
    (h : ∀ g change, fit g change → change.isQuiet = true) :
    changes.filterMap Change.begun? = [] := by
  induction path with
  | nil g => rfl
  | @cons g₀ _ _ change _ _ hfit _ ih =>
      have hquiet := h g₀ change hfit
      rw [List.filterMap_cons_none (by cases change <;> first | rfl | exact Bool.noConfusion hquiet), ih]

end Path

/-! ## Steps keep graphs sound -/

variable {g g' : Graph}

theorem unused_iff {id : NodeId} : g.unused id = true ↔ id ∉ g.ids ∧ id ∉ g.retired := by
  unfold Graph.unused
  rw [Bool.and_eq_true, Bool.not_eq_true', has_eq_false_iff, decide_eq_true_iff]

theorem Sound.draws (h : g.Sound) (draws : Draws) : (g.withDraws draws).Sound :=
  ⟨h.nodup, h.edges, h.lists, h.ordered, h.apart, h.live, h.retired⟩

theorem Step.sound {change : Change} (step : Step g change g') (h : g.Sound) : g'.Sound := by
  cases step with
  | draw draws => exact h.draws draws
  | add hunused hlive =>
      obtain ⟨hid, hretired⟩ := unused_iff.1 hunused
      exact h.attach hid hretired hlive
  | edit hedit =>
      obtain ⟨_, rfl⟩ := edit_eq_ok_iff.1 hedit
      exact h.alter _ (fun node => node.applyAll_id _) (fun node => node.applyAll_parent _)
  | begin hbegin =>
      obtain ⟨_, _, _, rfl⟩ := begin_eq_ok_iff.1 hbegin
      exact (h.draws _).alter _ (fun _ => rfl) (fun _ => rfl)
  | setStatus hset =>
      obtain ⟨_, _, _, rfl⟩ := setStatus_eq_ok_iff.1 hset
      exact h.alter _ (fun _ => rfl) (fun _ => rfl)
  | remove => exact h.remove _

theorem Path.sound {fit : Graph → Change → Prop} {changes : List Change}
    (path : Path fit g changes g') (h : g.Sound) : g'.Sound :=
  path.keeps Graph.Sound (fun _ _ _ hsound _ step => step.sound hsound) h

/-! ## Live and retired ids -/

/-- A step keeps the live ids in order, without those that it removes, and puts a new one at the end. -/
theorem Step.ids {change : Change} (step : Step g change g') :
    ∃ doomed : List NodeId, g'.ids = (g.ids.filter fun id => id ∉ doomed) ++ change.added?.toList ∧
      ∀ id, id ∈ g'.retired ↔ id ∈ doomed ∨ id ∈ g.retired := by
  have hnone : ∀ l : List NodeId, (l.filter fun id => id ∉ ([] : List NodeId)) ++ [] = l := by simp
  cases step with
  | draw draws => exact ⟨[], (hnone g.ids).symm, by simp [withDraws]⟩
  | add => exact ⟨[], by simp [ids_attach, Change.added?], by simp [retired_attach]⟩
  | edit hedit =>
      have hsame := sameBut_of_edit hedit
      exact ⟨[], hsame.ids.trans (hnone g.ids).symm, by simp [hsame.retired]⟩
  | begin hbegin =>
      have hsame := sameBut_of_begin hbegin
      exact ⟨[], hsame.ids.trans (hnone g.ids).symm, by simp [hsame.retired]⟩
  | setStatus hset =>
      have hsame := sameBut_of_setStatus hset
      exact ⟨[], hsame.ids.trans (hnone g.ids).symm, by simp [hsame.retired]⟩
  | @remove doomed =>
      exact ⟨doomed, (ids_remove g doomed).trans (List.append_nil _).symm,
        mem_retired_remove_iff g doomed⟩

theorem Step.mem_retired {change : Change} {id : NodeId} (step : Step g change g')
    (h : id ∈ g.retired) : id ∈ g'.retired := by
  obtain ⟨_, _, hretired⟩ := step.ids
  exact (hretired id).2 (Or.inr h)

theorem Step.mem_ids_or_retired {change : Change} {id : NodeId} (step : Step g change g')
    (h : id ∈ g.ids ∨ id ∈ g.retired) : id ∈ g'.ids ∨ id ∈ g'.retired := by
  obtain ⟨doomed, hids, hretired⟩ := step.ids
  rw [hids, hretired, List.mem_append, List.mem_filter]
  by_cases hdoomed : id ∈ doomed
  · exact Or.inr (Or.inl hdoomed)
  · rcases h with hlive | hgone
    · exact Or.inl (Or.inl ⟨hlive, by simpa using hdoomed⟩)
    · exact Or.inr (Or.inr hgone)

theorem Path.mem_retired {fit : Graph → Change → Prop} {changes : List Change} {id : NodeId}
    (path : Path fit g changes g') (h : id ∈ g.retired) : id ∈ g'.retired :=
  path.keeps (fun g => id ∈ g.retired) (fun _ _ _ hretired _ step => step.mem_retired hretired) h

theorem Path.mem_ids_or_retired {fit : Graph → Change → Prop} {changes : List Change} {id : NodeId}
    (path : Path fit g changes g') (h : id ∈ g.ids ∨ id ∈ g.retired) :
    id ∈ g'.ids ∨ id ∈ g'.retired :=
  path.keeps (fun g => id ∈ g.ids ∨ id ∈ g.retired)
    (fun _ _ _ hused _ step => step.mem_ids_or_retired hused) h

/-- The id of an added node was never used before, and is live afterwards. -/
theorem Step.unused_of_added {change : Change} {id : NodeId} (step : Step g change g')
    (h : change.added? = some id) : g.unused id = true ∧ id ∈ g'.ids := by
  obtain ⟨doomed, hids, _⟩ := step.ids
  refine ⟨?_, by rw [hids, h]; simp⟩
  cases step with
  | add hunused => exact Option.some.inj h ▸ hunused
  | draw | edit | begin | setStatus | remove => simp [Change.added?] at h

/-- The ids of the nodes that a path adds are live or retired at its end. -/
theorem Path.mem_ids_or_retired_of_added {fit : Graph → Change → Prop} {changes : List Change} {id : NodeId}
    (path : Path fit g changes g') (h : id ∈ changes.filterMap Change.added?) :
    id ∈ g'.ids ∨ id ∈ g'.retired := by
  induction path with
  | nil g => exact absurd h List.not_mem_nil
  | @cons g₀ g₁ last change changes step _ rest ih =>
      cases hchange : change.added? with
      | none =>
          rw [List.filterMap_cons_none hchange] at h
          exact ih h
      | some new =>
          rw [List.filterMap_cons_some hchange, List.mem_cons] at h
          rcases h with rfl | hrest
          · exact rest.mem_ids_or_retired (Or.inl (step.unused_of_added hchange).2)
          · exact ih hrest

/-- Along a path the ids stay in the order in which their nodes were added. -/
theorem Path.ids {fit : Graph → Change → Prop} {changes : List Change}
    (path : Path fit g changes g') (h : g.Sound) :
    g'.ids = (g.ids ++ changes.filterMap Change.added?).filter g'.has := by
  induction path with
  | nil g =>
      rw [List.filterMap_nil, List.append_nil]
      exact (List.filter_eq_self.2 fun id hid => has_iff_mem_ids.2 hid).symm
  | @cons g₀ g₁ last change changes step _ rest ih =>
      obtain ⟨doomed, hids, hretired⟩ := step.ids
      have hsound := step.sound h
      -- what this step removes is retired and so not live at the end: filtering it out here or there is
      -- the same
      have hgone : ∀ id ∈ doomed, last.has id = false := fun id hid => by
        have hmem := rest.mem_retired ((hretired id).2 (Or.inl hid))
        exact has_eq_false_iff.2 ((rest.sound hsound).retired id hmem)
      have hstay : (g₀.ids.filter fun id => id ∉ doomed).filter last.has = g₀.ids.filter last.has := by
        rw [List.filter_filter]
        refine List.filter_congr fun id _ => ?_
        by_cases hid : id ∈ doomed
        · simp [hid, hgone id hid]
        · simp [hid]
      have hadded : (change :: changes).filterMap Change.added?
          = change.added?.toList ++ changes.filterMap Change.added? := by
        cases hchange : change.added? <;> simp [hchange]
      rw [ih hsound, hids, hadded]
      simp only [List.filter_append, hstay, List.append_assoc]

theorem Path.nodup_added {fit : Graph → Change → Prop} {changes : List Change}
    (path : Path fit g changes g') :
    (changes.filterMap Change.added?).Nodup ∧
      ∀ id ∈ changes.filterMap Change.added?, g.unused id = true := by
  induction path with
  | nil g => exact ⟨List.nodup_nil, by simp⟩
  | @cons g₀ g₁ last change changes step _ rest ih =>
      obtain ⟨hnodup, hunused⟩ := ih
      -- an id that is unused after the step was unused before it
      have hbefore : ∀ id ∈ changes.filterMap Change.added?, g₀.unused id = true := by
        intro id hid
        rw [unused_iff, ← not_or]
        exact fun hused => not_or.2 (unused_iff.1 (hunused id hid)) (step.mem_ids_or_retired hused)
      cases hchange : change.added? with
      | none =>
          rw [List.filterMap_cons_none hchange]
          exact ⟨hnodup, hbefore⟩
      | some new =>
          obtain ⟨hnew, hlive⟩ := step.unused_of_added hchange
          rw [List.filterMap_cons_some hchange]
          refine ⟨List.nodup_cons.2 ⟨fun hmem => ?_, hnodup⟩, fun id hid => ?_⟩
          · exact (unused_iff.1 (hunused new hmem)).1 hlive
          · rcases List.mem_cons.1 hid with rfl | hrest
            · exact hnew
            · exact hbefore id hrest

/-! ## The names of runs -/

theorem Step.generation {change : Change} (step : Step g change g') (h : g.Sound) {id : NodeId}
    {node node' : Node} (hnode : g.get? id = some node) (hnode' : g'.get? id = some node')
    (hbegin : change.begun? ≠ some id) : node'.generation = node.generation := by
  cases step with
  | draw draws => exact congrArg Node.generation (Option.some.inj (hnode'.symm.trans hnode))
  | @add added hunused =>
      have hne : added.id ≠ id := fun he =>
        (unused_iff.1 hunused).1 (he ▸ mem_ids_of_get? hnode)
      rw [get?_attach_of_ne hne, hnode, Option.some.injEq] at hnode'
      rw [hnode']
  | @edit _ target _ hedit =>
      by_cases he : id = target
      · subst he
        obtain ⟨before, after, hbefore, hafter, _, hsame⟩ := get?_of_edit hedit
        rw [hnode, Option.some.injEq] at hbefore
        rw [hnode', Option.some.injEq] at hafter
        rw [hafter, hbefore, hsame]
      · rw [(sameBut_of_edit hedit).get? id he, hnode, Option.some.injEq] at hnode'
        rw [hnode']
  | @begin _ target hbegun =>
      have hne : id ≠ target := fun he => hbegin (he ▸ rfl)
      rw [(sameBut_of_begin hbegun).get? id hne, hnode, Option.some.injEq] at hnode'
      rw [hnode']
  | @setStatus _ target _ _ hset =>
      by_cases he : id = target
      · subst he
        obtain ⟨before, after, hbefore, _, hafter, _, hsame⟩ := get?_of_setStatus hset
        rw [hnode, Option.some.injEq] at hbefore
        rw [hnode', Option.some.injEq] at hafter
        rw [hafter, hbefore, hsame]
      · rw [(sameBut_of_setStatus hset).get? id he, hnode, Option.some.injEq] at hnode'
        rw [hnode']
  | @remove doomed hclosed =>
      have hbefore := h.get?_of_remove hclosed hnode'
      rw [hnode, Option.some.injEq] at hbefore
      rw [hbefore]

theorem Path.generation {fit : Graph → Change → Prop} {changes : List Change}
    (path : Path fit g changes g') (h : g.Sound) {id : NodeId} {node node' : Node}
    (hnode : g.get? id = some node) (hnode' : g'.get? id = some node')
    (hbegin : ∀ change ∈ changes, change.begun? ≠ some id) :
    node'.generation = node.generation := by
  induction path generalizing node with
  | nil g => exact congrArg Node.generation (Option.some.inj (hnode'.symm.trans hnode))
  | @cons g₀ g₁ last change changes step _ rest ih =>
      have hsound := step.sound h
      -- the node lives in between, because a retired id would not be live at the end
      have hused := step.mem_ids_or_retired (Or.inl (mem_ids_of_get? hnode))
      have hlive : id ∈ g₁.ids := hused.resolve_right fun hretired =>
        (rest.sound hsound).retired id (rest.mem_retired hretired) (mem_ids_of_get? hnode')
      obtain ⟨middle, hmiddle⟩ := exists_get?_of_mem_ids hlive
      rw [ih hsound hmiddle hnode' fun change hchange => hbegin change (List.mem_cons_of_mem _ hchange)]
      exact step.generation h hnode hmiddle (hbegin _ List.mem_cons_self)

end Graph

end PromptCanvas
