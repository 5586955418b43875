import PromptCanvas.Proofs.Graph.Assignment

set_option autoImplicit false

/-! # What an addition adds

An addition is refused for reserved or unfit fields, an unknown kind, a parent that a strict graph does not
know, or when no draw gives a fresh id; all that a refusal can cost is draws. Else the new node is as `Added`
says: the fields that are given win over what it takes over from a parent with a ready result, and that wins
over the defaults. -/

namespace PromptCanvas

open Checked

/-! ## The given fields -/

theorem Field.mem_all (field : Field) : field ∈ Field.all := by
  cases field <;> decide

theorem Field.nodup_all : Field.all.Nodup := by decide

namespace Graph

section

variable {fields : Json.Fields} {edits : List Edit} {field : Field} {value : Json}

/-- There is one edit for each field that is given, in the order of the fields. -/
theorem fields_of_givenEdits (h : givenEdits fields = .ok edits) :
    edits.map Edit.field = Field.all.filter fun field => fields.has field.name := by
  have hread := all_eq_ok_iff.1 h
  clear h
  -- the induction goes over the fields that are looked up
  generalize Field.all = asked at hread ⊢
  induction asked generalizing edits with
  | nil =>
      rw [List.map_eq_nil_iff.1 hread.symm]
      rfl
  | cons field rest ih =>
      cases hvalue : fields.get? field.name with
      | none =>
          rw [List.filterMap_cons_none (by rw [hvalue]; rfl)] at hread
          rw [List.filter_cons_of_neg (by simp [Table.has, hvalue]), ih hread]
      | some value =>
          rw [List.filterMap_cons_some (by rw [hvalue]; rfl)] at hread
          obtain ⟨first, others, rfl, hfirst, hothers⟩ := List.map_eq_cons_iff.1 hread.symm
          rw [List.filter_cons_of_pos (by simp [Table.has, hvalue]), List.map_cons, ih hothers.symm,
            Edit.field_of_read hfirst.symm]

/-- What is given for a field can be read, or there are no edits for the given fields. -/
theorem exists_givenEdits_iff :
    (∃ edits, givenEdits fields = .ok edits) ↔
      ∀ field value, fields.get? (Field.name field) = some value → ∃ edit, Edit.read field value = .ok edit := by
  unfold givenEdits
  rw [exists_all_iff]
  constructor
  · intro h field value hvalue
    exact h _ (List.mem_filterMap.2 ⟨field, field.mem_all, by rw [hvalue]; rfl⟩)
  · rintro h c hc
    obtain ⟨field, _, hfield⟩ := List.mem_filterMap.1 hc
    obtain ⟨value, hvalue, rfl⟩ := Option.map_eq_some_iff.1 hfield
    exact h field value hvalue

/-- A field that is given holds what was read for it. -/
theorem read_eq_held_of_given (h : givenEdits fields = .ok edits) (hgiven : fields.get? field.name = some value)
    (node : Node) : Edit.read field value = .ok ((node.applyAll edits).held field) := by
  have hnodup : (edits.map Edit.field).Nodup := by
    rw [fields_of_givenEdits h]
    exact Field.nodup_all.filter _
  have hread : Edit.read field value ∈ edits.map Checked.ok := by
    rw [← all_eq_ok_iff.1 h]
    exact List.mem_filterMap.2 ⟨field, field.mem_all, by rw [hgiven]; rfl⟩
  obtain ⟨edit, hedit, hread⟩ := List.mem_map.1 hread
  obtain rfl := Edit.field_of_read hread.symm
  rw [Node.held_applyAll_of_mem hnodup hedit, hread]

theorem held_of_not_given (h : givenEdits fields = .ok edits) (hgiven : fields.has field.name = false)
    (node : Node) : (node.applyAll edits).held field = node.held field := by
  refine Node.held_applyAll_of_forall_ne ?_
  rintro edit hedit rfl
  exact Bool.noConfusion ((has_of_mem_givenEdits h edit hedit).symm.trans hgiven)

end

/-! ## The parent -/

/-- The live node that is named as the parent of a new node. -/
def named? (g : Graph) (parent : Option NodeId) : Option Node := (parent.filter (· ≠ "")).bind g.get?

/-- A parent is named that does not live. -/
def Misses (g : Graph) (parent : Option NodeId) : Prop := ∃ id, parent = some id ∧ id ≠ "" ∧ g.has id = false

variable {g : Graph} {parent : Option NodeId}

theorem parentFor_cases (g : Graph) (parent : Option NodeId) :
    (g.parentFor parent = .ok (g.named? parent) ∧ ¬ (g.strict = true ∧ g.Misses parent)) ∨
      ∃ r, g.parentFor parent = .error r ∧ g.strict = true ∧ g.Misses parent := by
  unfold Graph.parentFor named? Misses Graph.has
  cases parent with
  | none => simp
  | some id =>
      by_cases hempty : id = ""
      · simp [hempty, Option.filter_some]
      · cases hfound : g.get? id with
        | some node => simp [hempty, hfound, Option.filter_some]
        | none =>
            cases hstrict : g.strict with
            | false => simp [hempty, hfound, Option.filter_some]
            | true => simp [hempty, hfound, Option.filter_some]

/-! ## The new node -/

/-- What a new node takes over from its parent holds as long as the parent's result is ready. -/
theorem seeds_eq (parent : Option Node) :
    seeds parent
      = match parent.filter Node.hasReadyOutput with
        | some node => [.basePrompt node.basePrompt, .inputRef node.outputRef]
        | none => [] := by
  cases parent with
  | none => rfl
  | some node =>
      by_cases hready : node.hasReadyOutput = true
      · simp [seeds, hready, Option.filter_some]
      · simp [seeds, hready, Option.filter_some]

end Graph

/-- What a new node is: of the named kind, idle, below the given parent or a root. Each given field holds what
    was read for it. Where they are not given, the base prompt and the input come from a parent with a ready
    result, the aspect ratio from the settings, and the other fields are as in any new node. -/
structure Node.Added (kind : Json) (above : Option Node) (ratio : String) (fields : Json.Fields)
    (node : Node) : Prop where
  kind : Graph.kindOf? kind = some node.kind
  parent : node.parent = above.map Node.id
  idle : node.status = .idle ∧ node.failure = none ∧ node.generation = none
  given : ∀ (field : Field) (value : Json), fields.get? field.name = some value →
    Edit.read field value = .ok (node.held field)
  basePrompt : fields.has "base_prompt" = false →
    node.basePrompt = (above.filter Node.hasReadyOutput).bind Node.basePrompt
  inputRef : fields.has "input_ref" = false →
    node.inputRef = (above.filter Node.hasReadyOutput).bind Node.outputRef
  aspectRatio : fields.has "aspect_ratio" = false → node.aspectRatio = ratio
  default : ∀ field : Field, fields.has field.name = false →
    field ≠ .basePrompt → field ≠ .inputRef → field ≠ .aspectRatio →
      node.held field = Node.held { id := node.id, kind := node.kind, parent := node.parent } field

namespace Graph

variable {g : Graph}

theorem added_newcomer {kind : Json} {slug : NodeKind} {parent : Option Node} {fields : Json.Fields}
    {edits : List Edit} (hkind : kindOf? kind = some slug) (hedits : givenEdits fields = .ok edits)
    (id : NodeId) (aspectRatio : String) (created : Nat) :
    (newcomer id slug aspectRatio parent edits created).Added kind parent aspectRatio fields := by
  -- first what the parent gives is written, then the given fields
  let blank : Node :=
    { id := id, kind := slug, parent := parent.map Node.id, aspectRatio := aspectRatio, created := created }
  have happend : newcomer id slug aspectRatio parent edits created
      = (blank.applyAll (seeds parent)).applyAll edits := List.foldl_append
  have hkept : ∀ field : Field, fields.has field.name = false →
      (newcomer id slug aspectRatio parent edits created).held field
        = (blank.applyAll (seeds parent)).held field := by
    intro field hgiven
    rw [happend, held_of_not_given hedits hgiven]
  refine ⟨?kind, ?parent, ⟨?status, ?failure, ?generation⟩, ?given, ?basePrompt, ?inputRef, ?aspectRatio,
    ?default⟩
  case kind => rw [hkind, newcomer, Node.applyAll_kind]
  case parent => exact Node.applyAll_parent _ _
  case status => exact Node.applyAll_status _ _
  case failure => exact Node.applyAll_failure _ _
  case generation => exact Node.applyAll_generation _ _
  case given =>
    intro field value hvalue
    rw [happend]
    exact read_eq_held_of_given hedits hvalue _
  case basePrompt =>
    intro hgiven
    refine Edit.basePrompt.inj ((hkept .basePrompt hgiven).trans ?_)
    rw [seeds_eq]
    cases parent.filter Node.hasReadyOutput <;> rfl
  case inputRef =>
    intro hgiven
    refine Edit.inputRef.inj ((hkept .inputRef hgiven).trans ?_)
    rw [seeds_eq]
    cases parent.filter Node.hasReadyOutput <;> rfl
  case aspectRatio =>
    intro hgiven
    refine Edit.aspectRatio.inj ((hkept .aspectRatio hgiven).trans ?_)
    rw [seeds_eq]
    cases parent.filter Node.hasReadyOutput with
    | none => rfl
    | some node => rfl
  case default =>
    intro field hgiven hbase hinput hratio
    rw [hkept field hgiven]
    have hseeds : ∀ edit ∈ seeds parent, edit.field ≠ field := by
      rw [seeds_eq]
      cases parent.filter Node.hasReadyOutput with
      | none => simp
      | some node => simpa [Edit.field] using ⟨hbase.symm, hinput.symm⟩
    rw [Node.held_applyAll_of_forall_ne hseeds]
    cases field <;> first | rfl | exact absurd rfl hratio

/-! ## Additions -/

/-- An addition is refused: fields are reserved, the kind is unknown, a strict graph does not know the parent,
    no draw gives a fresh id, or the value of a field does not fit. -/
def Refuses (g : Graph) (kind : Json) (parent : Option NodeId) (fields : Json.Fields) : Prop :=
  reserved fields ≠ [] ∨ kindOf? kind = none ∨ (g.strict = true ∧ g.Misses parent) ∨ g.freshId? = none ∨
    ∃ field value, fields.get? (Field.name field) = some value ∧ ∀ edit, Edit.read field value ≠ .ok edit

/-- An addition that is refused costs draws at most; any other adds one node, as `Added` says. -/
theorem add_outcome (g : Graph) (ratio : String) (kind : Json) (parent : Option NodeId) (fields : Json.Fields) :
    (g.Refuses kind parent fields ∧
        ∃ r draws, g.add ratio kind parent fields = (.error r, g.withDraws draws)) ∨
      (¬ g.Refuses kind parent fields ∧
        ∃ node draws, g.add ratio kind parent fields = (.ok node, (g.withDraws draws).attach node) ∧
          g.unused node.id = true ∧ node.Added kind (g.named? parent) ratio fields) := by
  unfold Graph.add
  cases hreserved : reserved fields with
  | cons name names => exact Or.inl ⟨Or.inl (by simp [hreserved]), _, g.draws, rfl⟩
  | nil =>
      cases hkind : kindOf? kind with
      | none => exact Or.inl ⟨Or.inr (Or.inl hkind), _, g.draws, rfl⟩
      | some slug =>
          rcases g.parentFor_cases parent with ⟨hfound, hknown⟩ | ⟨r, hfound, hmisses⟩
          case inr => exact Or.inl ⟨Or.inr (Or.inr (Or.inl hmisses)), r, g.draws, by simp only [hfound]; rfl⟩
          case inl =>
            cases hfresh : g.freshId? with
            | none =>
                exact Or.inl ⟨Or.inr (Or.inr (Or.inr (Or.inl hfresh))), _, g.draws, by simp only [hfound]; rfl⟩
            | some drawn =>
                obtain ⟨id, draws⟩ := drawn
                simp only [hfound]
                cases hedits : givenEdits fields with
                | faulty faults =>
                    have hnone : ¬ ∃ edits, givenEdits fields = .ok edits := by simp [hedits]
                    rw [exists_givenEdits_iff] at hnone
                    push Not at hnone
                    exact Or.inl ⟨Or.inr (Or.inr (Or.inr (Or.inr hnone))), _, draws, rfl⟩
                | ok edits =>
                    refine Or.inr ⟨?_, newcomer id slug ratio (g.named? parent) edits g.clock, draws, rfl, ?_,
                      added_newcomer hkind hedits id ratio g.clock⟩
                    · have hfit := exists_givenEdits_iff.1 ⟨edits, hedits⟩
                      rintro (hnames | hunknown | hmisses | hdrawn | ⟨field, value, hvalue, hunfit⟩)
                      · exact hnames hreserved
                      · simp [hkind] at hunknown
                      · exact hknown hmisses
                      · simp [hfresh] at hdrawn
                      · obtain ⟨edit, hread⟩ := hfit field value hvalue
                        exact hunfit edit hread
                    · rw [newcomer, Node.applyAll_id]
                      exact unused_of_freshFrom hfresh

/-! ## What is written -/

/-- The edge to a node that is attached is written after the others. -/
theorem Sound.parentEdges_attach (h : g.Sound) {node : Node} (hid : node.id ∉ g.ids) :
    (g.attach node).parentEdges
      = g.parentEdges ++ (node.parent.map fun parent => (node.id, ⟨parent, node.id⟩)).toList := by
  have hnew : node.id ∉ g.parentEdges.map Prod.fst := fun hmem =>
    hid (keys_links_subset g.nodes _ (h.edges ▸ hmem))
  unfold Graph.attach
  cases node.parent with
  | none => simp
  | some parent => exact Table.set_eq_append g.parentEdges _ _ hnew

theorem Step.strict {change : Change} {g' : Graph} (step : Step g change g') : g'.strict = g.strict := by
  cases step with
  | draw | remove => rfl
  | @add node =>
      unfold Graph.attach
      cases node.parent <;> rfl
  | edit hedit =>
      obtain ⟨_, rfl⟩ := edit_eq_ok_iff.1 hedit
      rfl
  | begin hbegin =>
      obtain ⟨_, _, _, rfl⟩ := begin_eq_ok_iff.1 hbegin
      rfl
  | setStatus hset =>
      obtain ⟨_, _, _, rfl⟩ := setStatus_eq_ok_iff.1 hset
      rfl

theorem Path.strict {fit : Graph → Change → Prop} {changes : List Change} {g' : Graph}
    (path : Path fit g changes g') : g'.strict = g.strict :=
  path.keeps (fun later => later.strict = g.strict) (fun _ _ _ h _ step => step.strict.trans h) rfl

end Graph

end PromptCanvas
