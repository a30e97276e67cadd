import GridStore.Location.Attribute

/-!
# Reading a location attribute forest back

The read path of `fetch_location` is not in the source, so the reassembly of §4.3 is modelled from
the spec: the roots are the rows with no parent name, the children of a row are the rows whose
parent name is its property name, and each row is rebuilt by `from_model` or
`from_model_with_children`. The link from child to parent is a name, not an owner. The round trip
therefore holds when a name picks out one node: for every forest in which a node that owns children
shares its name with no other node, the rows of `make_location_attribute_models` read back as the
forest. A node anywhere in the forest that owns a namesake makes its child's row its own parent, every
ancestor waits on that row, and the reassembly never ends
(`reassembleLocationAttributes_makeLocationAttributeModels` states both).
-/

namespace GridStore

/-- Modelled from the spec: the read path of `fetch_location` is not in the source. §4.3 rebuilds a
row by fetching the rows whose parent reference matches it, in row order, and rebuilding each of
them in turn; a row with no such rows is a leaf (`from_model`), any other carries them
(`from_model_with_children`). The references are names, so nothing bounds the recursion: it runs on
`fuel`, and `none` is a reassembly that has not ended. -/
def assembleLocationAttribute (rows : List LocationAttributeModel) :
    Nat → LocationAttributeModel → Option LocationAttribute
  | 0, _ => none
  | fuel + 1, model =>
      let children := rows.filter fun row => row.parentPropertyName == some model.propertyName
      if children.isEmpty then some (LocationAttribute.fromModel model)
      else (children.mapM (assembleLocationAttribute rows fuel)).map
        (LocationAttribute.fromModelWithChildren model)

/-- Modelled from the spec: a location's attribute forest rebuilt from its rows, the roots being the
rows with no parent name, in row order. -/
def reassembleLocationAttributes (fuel : Nat) (rows : List LocationAttributeModel) :
    Option (List LocationAttribute) :=
  (rows.filter fun row => row.parentPropertyName.isNone).mapM (assembleLocationAttribute rows fuel)

mutual

/-- What a forest stored under `parent` reads back as: every node current, under its parent's
property name, and with empty `struct_values` read as `None`. -/
def normalizeAttributes (parent : Option String) : List LocationAttribute → List LocationAttribute
  | [] => []
  | attr :: rest => normalizeAttribute parent attr :: normalizeAttributes parent rest

/-- What one node stored under `parent` reads back as. -/
def normalizeAttribute (parent : Option String) : LocationAttribute → LocationAttribute
  | attr@{ structValues := some vals, propertyName, .. } =>
      { attr with
        parentPropertyName := parent
        endCommitNum := maxCommitNum
        structValues :=
          if vals.isEmpty then none else some (normalizeAttributes (some propertyName) vals) }
  | attr@{ structValues := none, .. } =>
      { attr with parentPropertyName := parent, endCommitNum := maxCommitNum }

end

mutual

/-- The height of a node, a leaf having height one. -/
def attributeDepth : LocationAttribute → Nat
  | { structValues := some vals, .. } => forestDepth vals + 1
  | { structValues := none, .. } => 1

/-- The height of a forest: that of its highest root. -/
def forestDepth : List LocationAttribute → Nat
  | [] => 0
  | attr :: rest => max (attributeDepth attr) (forestDepth rest)

end

/-- The nodes of a forest, in pre-order. -/
def forestAttributes (attributes : List LocationAttribute) : List LocationAttribute :=
  (attributeNodes none attributes).map (·.1)

/-- Every node that owns children is the only node of the forest with its property name. -/
def UniqueOwnerNames (attributes : List LocationAttribute) : Prop :=
  ∀ attr ∈ forestAttributes attributes, 0 < attr.children.length →
    ((forestAttributes attributes).filter (·.propertyName == attr.propertyName)).length = 1

instance (attributes : List LocationAttribute) : Decidable (UniqueOwnerNames attributes) :=
  inferInstanceAs (Decidable (∀ attr ∈ forestAttributes attributes, 0 < attr.children.length →
    ((forestAttributes attributes).filter (·.propertyName == attr.propertyName)).length = 1))

/-! ### One node -/

theorem fromModel_newLocationAttributeModel (attr : LocationAttribute) (parent : Option String) :
    LocationAttribute.fromModel (newLocationAttributeModel attr parent) =
      { attr with parentPropertyName := parent, endCommitNum := maxCommitNum, structValues := none } := by
  cases attr
  simp [LocationAttribute.fromModel, newLocationAttributeModel]

theorem fromModelWithChildren_newLocationAttributeModel (attr : LocationAttribute)
    (parent : Option String) (children : List LocationAttribute) :
    LocationAttribute.fromModelWithChildren (newLocationAttributeModel attr parent) children =
      { attr with
        parentPropertyName := parent, endCommitNum := maxCommitNum, structValues := some children } := by
  cases attr
  simp [LocationAttribute.fromModelWithChildren, LocationAttribute.fromModel,
    newLocationAttributeModel]

theorem normalizeAttribute_eq (parent : Option String) (attr : LocationAttribute) :
    normalizeAttribute parent attr =
      { attr with
        parentPropertyName := parent
        endCommitNum := maxCommitNum
        structValues := if attr.children.isEmpty then none
          else some (normalizeAttributes (some attr.propertyName) attr.children) } := by
  rcases attr with ⟨_, _, _, _, _, _, _, _, _, _, _ | vals, _, _, _, _⟩ <;> rfl

theorem attributeDepth_eq (attr : LocationAttribute) :
    attributeDepth attr = forestDepth attr.children + 1 := by
  rcases attr with ⟨_, _, _, _, _, _, _, _, _, _, _ | vals, _, _, _, _⟩ <;> rfl

theorem assembleLocationAttribute_succ (rows : List LocationAttributeModel) (fuel : Nat)
    (model : LocationAttributeModel) :
    assembleLocationAttribute rows (fuel + 1) model =
      let children := rows.filter fun row => row.parentPropertyName == some model.propertyName
      if children.isEmpty then some (LocationAttribute.fromModel model)
      else (children.mapM (assembleLocationAttribute rows fuel)).map
        (LocationAttribute.fromModelWithChildren model) := rfl

/-! ### Which rows point at a name

The rows whose parent name is `x` are the pre-order nodes whose parent is called `x`. Three cases
settle them: no node is called `x`, only childless nodes are, or exactly one node is. -/

section Parents

variable (x : String)

theorem append_eq_singleton_cases {α : Type} {left right : List α} {a : α}
    (h : left ++ right = [a]) : (left = [] ∧ right = [a]) ∨ (left = [a] ∧ right = []) := by
  rcases List.append_eq_cons_iff.mp h with h | ⟨left', rfl, hnil⟩
  · exact .inl h
  · obtain ⟨rfl, rfl⟩ := List.append_eq_nil.mp hnil.symm
    exact .inr ⟨rfl, rfl⟩

/-- With no node called `t`, only the roots can point at `t`. -/
theorem filter_attributeNodes_of_unnamed (t : Option String) (attributes : List LocationAttribute) :
    ∀ parent, (∀ node ∈ attributeNodes parent attributes, some node.1.propertyName ≠ t) →
      (attributeNodes parent attributes).filter (·.2 == t) =
        if parent = t then attributes.map (·, parent) else [] := by
  induction attributes using forest_induction with
  | nil => intro parent _; split <;> rfl
  | cons attr rest ihChildren ihRest =>
      intro parent hnames
      simp only [attributeNodes_cons, List.mem_cons, List.mem_append] at hnames
      rw [attributeNodes_cons, List.filter_cons, List.filter_append,
        ihChildren _ fun node h => hnames node (.inr (.inl h)),
        ihRest _ fun node h => hnames node (.inr (.inr h)),
        if_neg (hnames _ (.inl rfl))]
      by_cases hparent : parent = t <;> simp [hparent]

theorem filter_attributeNodes_of_childless (attributes : List LocationAttribute) :
    ∀ parent, parent ≠ some x →
      (∀ node ∈ attributeNodes parent attributes, node.1.propertyName = x → node.1.children = []) →
      (attributeNodes parent attributes).filter (·.2 == some x) = [] := by
  induction attributes using forest_induction with
  | nil => intro _ _ _; rfl
  | cons attr rest ihChildren ihRest =>
      intro parent hparent hchildless
      simp only [attributeNodes_cons, List.mem_cons, List.mem_append] at hchildless
      have hrest := ihRest parent hparent fun node h => hchildless node (.inr (.inr h))
      have hchildren : (attributeNodes (some attr.propertyName) attr.children).filter
          (·.2 == some x) = [] := by
        by_cases hname : attr.propertyName = x
        · rw [hchildless _ (.inl rfl) hname]
          rfl
        · exact ihChildren _ (by simpa using hname) fun node h => hchildless node (.inr (.inl h))
      simp [attributeNodes_cons, List.filter_cons, hparent, hchildren, hrest]

theorem unnamed_of_filter_eq_nil {parent : Option String} {forest : List LocationAttribute}
    (hnil : ((attributeNodes parent forest).map (·.1)).filter (·.propertyName == x) = []) :
    ∀ node ∈ attributeNodes parent forest, some node.1.propertyName ≠ some x := by
  intro node hnode heq
  have := List.filter_eq_nil_iff.mp hnil node.1 (List.mem_map_of_mem _ hnode)
  simp_all

theorem filter_attributeNodes_of_owner (owner : LocationAttribute)
    (attributes : List LocationAttribute) :
    ∀ parent, parent ≠ some x →
      ((attributeNodes parent attributes).map (·.1)).filter (·.propertyName == x) = [owner] →
      (attributeNodes parent attributes).filter (·.2 == some x) =
        owner.children.map (·, some x) := by
  induction attributes using forest_induction with
  | nil => intro _ _ h; cases h
  | cons attr rest ihChildren ihRest =>
      intro parent hparent howner
      simp only [attributeNodes_cons, List.map_cons, List.map_append, List.filter_cons,
        List.filter_append] at howner
      rw [attributeNodes_cons, List.filter_cons, if_neg (by simpa using hparent),
        List.filter_append]
      by_cases hname : attr.propertyName = x
      · simp only [hname, beq_self_eq_true, if_true, List.cons.injEq] at howner
        obtain ⟨rfl, hnil⟩ := howner
        obtain ⟨hchildren, hrest⟩ := List.append_eq_nil.mp hnil
        rw [hname, filter_attributeNodes_of_unnamed _ _ _ (unnamed_of_filter_eq_nil x hchildren),
          filter_attributeNodes_of_unnamed _ _ _ (unnamed_of_filter_eq_nil x hrest), if_pos rfl,
          if_neg hparent, List.append_nil]
      · simp only [beq_iff_eq, hname, if_false] at howner
        rcases append_eq_singleton_cases howner with ⟨hchildren, hrest⟩ | ⟨hchildren, hrest⟩
        · rw [filter_attributeNodes_of_unnamed _ _ _ (unnamed_of_filter_eq_nil x hchildren),
            if_neg (by simpa using hname), ihRest parent hparent hrest, List.nil_append]
        · rw [ihChildren _ (by simpa using hname) hchildren,
            filter_attributeNodes_of_unnamed _ _ _ (unnamed_of_filter_eq_nil x hrest), if_neg hparent,
            List.append_nil]

end Parents

/-! ### The round trip -/

section RoundTrip

variable {attributes : List LocationAttribute}

/-- In a forest with unique owner names, the rows pointing at a node are exactly its children's. -/
theorem filter_makeLocationAttributeModels_children (hunique : UniqueOwnerNames attributes)
    {attr : LocationAttribute} (hattr : attr ∈ forestAttributes attributes) :
    (makeLocationAttributeModels attributes none).filter
        (fun row => row.parentPropertyName == some attr.propertyName) =
      attr.children.map (newLocationAttributeModel · (some attr.propertyName)) := by
  have hnamed : ∀ node ∈ forestAttributes attributes, 0 < node.children.length →
      attr.propertyName = node.propertyName →
      (forestAttributes attributes).filter (·.propertyName == attr.propertyName) = [node] := by
    intro node hnode hpos hname
    obtain ⟨single, hsingle⟩ := List.length_eq_one.mp (hunique node hnode hpos)
    have hmem : node ∈ [single] := hsingle ▸ List.mem_filter.mpr ⟨hnode, by simp⟩
    rw [hname, hsingle, List.mem_singleton.mp hmem]
  rw [makeLocationAttributeModels_eq_map, List.filter_map]
  change ((attributeNodes none attributes).filter (·.2 == some attr.propertyName)).map nodeModel = _
  rcases Nat.eq_zero_or_pos attr.children.length with hzero | hpos
  · rw [List.length_eq_zero.mp hzero, filter_attributeNodes_of_childless _ _ _ (by simp)]
    · rfl
    intro node hnode hname
    by_contra hne
    have hsingle := hnamed node.1 (List.mem_map_of_mem _ hnode) (List.length_pos.mpr hne) hname.symm
    have hmem : attr ∈ [node.1] := hsingle ▸ List.mem_filter.mpr ⟨hattr, by simp⟩
    rw [List.mem_singleton.mp hmem, List.length_eq_zero] at hzero
    exact hne hzero
  · rw [filter_attributeNodes_of_owner _ attr _ none (by simp) (hnamed attr hattr hpos rfl),
      List.map_map]
    rfl

/-- Every subforest whose nodes belong to the forest, stored under its parent, reads back as its
normal form once the fuel covers its height. -/
theorem mapM_assembleLocationAttribute (hunique : UniqueOwnerNames attributes)
    (forest : List LocationAttribute) :
    ∀ parent, (∀ node ∈ attributeNodes parent forest, node.1 ∈ forestAttributes attributes) →
      ∀ fuel, forestDepth forest ≤ fuel →
        (forest.map (newLocationAttributeModel · parent)).mapM
            (assembleLocationAttribute (makeLocationAttributeModels attributes none) fuel) =
          some (normalizeAttributes parent forest) := by
  induction forest using forest_induction with
  | nil => intro _ _ _ _; rfl
  | cons attr rest ihChildren ihRest =>
      intro parent hnodes fuel hfuel
      simp only [attributeNodes_cons, List.mem_cons, List.mem_append] at hnodes
      have hdepth : attributeDepth attr ≤ fuel ∧ forestDepth rest ≤ fuel := Nat.max_le.mp hfuel
      have hsucc := attributeDepth_eq attr
      obtain ⟨fuel, rfl⟩ : ∃ fuel', fuel = fuel' + 1 := ⟨fuel - 1, by omega⟩
      have hchildren := ihChildren (some attr.propertyName)
        (fun node h => hnodes node (.inr (.inl h))) fuel (by omega)
      have hattr : assembleLocationAttribute (makeLocationAttributeModels attributes none) (fuel + 1)
          (newLocationAttributeModel attr parent) = some (normalizeAttribute parent attr) := by
        have hmem : attr ∈ forestAttributes attributes := hnodes _ (.inl rfl)
        rw [assembleLocationAttribute_succ, newLocationAttributeModel_propertyName,
          filter_makeLocationAttributeModels_children hunique hmem, normalizeAttribute_eq]
        cases hempty : attr.children with
        | nil => simp [fromModel_newLocationAttributeModel]
        | cons child children =>
            rw [hempty] at hchildren
            dsimp only
            rw [hchildren]
            simp [fromModelWithChildren_newLocationAttributeModel]
      rw [List.map_cons, List.mapM_cons, hattr,
        ihRest parent (fun node h => hnodes node (.inr (.inr h))) (fuel + 1) hdepth.2]
      rfl

/-- When every node that owns children is the only node with its name, the rows of a forest read
back, with fuel its height, as the forest itself: current, each node under its parent's name, and
empty `struct_values` read as `None`. -/
theorem reassembleLocationAttributes_eq_normalizeAttributes
    (attributes : List LocationAttribute) (hunique : UniqueOwnerNames attributes) (fuel : Nat)
    (hfuel : forestDepth attributes ≤ fuel) :
    reassembleLocationAttributes fuel (makeLocationAttributeModels attributes none) =
      some (normalizeAttributes none attributes) := by
  have hroots : (makeLocationAttributeModels attributes none).filter
      (fun row => row.parentPropertyName.isNone) = attributes.map (newLocationAttributeModel · none) := by
    rw [makeLocationAttributeModels_eq_map, List.filter_map]
    have hpred : (fun row : LocationAttributeModel => row.parentPropertyName.isNone) ∘ nodeModel =
        (·.2 == none) := by
      funext ⟨_, parent⟩
      cases parent <;> rfl
    rw [hpred, filter_attributeNodes_of_unnamed none attributes none (by simp), if_pos rfl,
      List.map_map]
    rfl
  rw [reassembleLocationAttributes, hroots]
  exact mapM_assembleLocationAttribute hunique attributes none
    (fun node h => List.mem_map_of_mem _ h) fuel hfuel

end RoundTrip

/-! ### A node that owns a namesake -/

theorem mapM_eq_none_of_mem {α β : Type} {f : α → Option β} {l : List α} {a : α} (ha : a ∈ l)
    (hf : f a = none) : l.mapM f = none := by
  induction l with
  | nil => cases ha
  | cons b l ih =>
      rw [List.mapM_cons]
      rcases List.mem_cons.mp ha with rfl | ha
      · simp [hf]
      · rw [ih ha]
        cases f b <;> rfl

/-- A row one of whose children is stuck is stuck one step later. -/
theorem assembleLocationAttribute_of_stuck_child {rows : List LocationAttributeModel}
    {row child : LocationAttributeModel} (hchild : child ∈ rows)
    (hparent : child.parentPropertyName = some row.propertyName) {fuel : Nat}
    (hstuck : assembleLocationAttribute rows fuel child = none) :
    assembleLocationAttribute rows (fuel + 1) row = none := by
  have hmem : child ∈ rows.filter fun r => r.parentPropertyName == some row.propertyName :=
    List.mem_filter.mpr ⟨hchild, by simp [hparent]⟩
  rw [assembleLocationAttribute_succ]
  dsimp only
  rw [if_neg (by simpa [List.isEmpty_iff] using List.ne_nil_of_mem hmem),
    mapM_eq_none_of_mem hmem hstuck]
  rfl

/-- A row that names itself as its parent never finishes reassembling. -/
theorem assembleLocationAttribute_of_self_parent {rows : List LocationAttributeModel}
    {row : LocationAttributeModel} (hrow : row ∈ rows)
    (hself : row.parentPropertyName = some row.propertyName) :
    ∀ fuel, assembleLocationAttribute rows fuel row = none
  | 0 => rfl
  | fuel + 1 =>
      assembleLocationAttribute_of_stuck_child hrow hself
        (assembleLocationAttribute_of_self_parent hrow hself fuel)

/-- A row with a child row that is stuck at every fuel is itself stuck at every fuel. -/
theorem assembleLocationAttribute_stuck_of_child {rows : List LocationAttributeModel}
    {row child : LocationAttributeModel} (hchild : child ∈ rows)
    (hparent : child.parentPropertyName = some row.propertyName)
    (hstuck : ∀ fuel, assembleLocationAttribute rows fuel child = none) :
    ∀ fuel, assembleLocationAttribute rows fuel row = none
  | 0 => rfl
  | fuel + 1 => assembleLocationAttribute_of_stuck_child hchild hparent (hstuck fuel)

theorem mem_attributeNodes_of_mem {attr : LocationAttribute} {attributes : List LocationAttribute}
    (hattr : attr ∈ attributes) (parent : Option String) :
    (attr, parent) ∈ attributeNodes parent attributes := by
  induction attributes with
  | nil => cases hattr
  | cons head rest ih =>
      rw [attributeNodes_cons]
      rcases List.mem_cons.mp hattr with rfl | hrest
      · exact List.mem_cons_self _ _
      · exact List.mem_cons_of_mem _ (List.mem_append_right _ (ih hrest))

/-- Stuckness climbs the tree: if some node of a forest stored among `rows` owns a namesake, one of
the forest's roots has a row that is stuck at every fuel. -/
theorem exists_stuck_root_of_namesake {rows : List LocationAttributeModel}
    (forest : List LocationAttribute) :
    ∀ parent, (∀ node ∈ attributeNodes parent forest, nodeModel node ∈ rows) →
      (∃ node ∈ attributeNodes parent forest, ∃ child ∈ node.1.children,
        child.propertyName = node.1.propertyName) →
      ∃ attr ∈ forest, ∀ fuel,
        assembleLocationAttribute rows fuel (newLocationAttributeModel attr parent) = none := by
  induction forest using forest_induction with
  | nil => rintro _ _ ⟨_, hnode, -⟩; cases hnode
  | cons attr rest ihChildren ihRest =>
      intro parent hrows ⟨node, hnode, child, hchild, hname⟩
      have hchildRow : ∀ c ∈ attr.children,
          newLocationAttributeModel c (some attr.propertyName) ∈ rows := fun c hc =>
        hrows (c, _) (by
          rw [attributeNodes_cons]
          exact List.mem_cons_of_mem _ (List.mem_append_left _ (mem_attributeNodes_of_mem hc _)))
      have hhead : (∃ c ∈ attr.children, ∀ fuel, assembleLocationAttribute rows fuel
          (newLocationAttributeModel c (some attr.propertyName)) = none) →
          ∃ a ∈ attr :: rest, ∀ fuel,
            assembleLocationAttribute rows fuel (newLocationAttributeModel a parent) = none :=
        fun ⟨c, hc, hstuck⟩ =>
          ⟨attr, List.mem_cons_self _ _, assembleLocationAttribute_stuck_of_child (hchildRow c hc) rfl hstuck⟩
      rw [attributeNodes_cons] at hrows hnode
      rcases List.mem_cons.mp hnode with rfl | hnode
      · exact hhead ⟨child, hchild,
          assembleLocationAttribute_of_self_parent (hchildRow child hchild) (by simp [hname])⟩
      rcases List.mem_append.mp hnode with hnode | hnode
      · exact hhead (ihChildren _ (fun n h => hrows n (.tail _ (List.mem_append_left _ h)))
          ⟨node, hnode, child, hchild, hname⟩)
      · obtain ⟨a, ha, hstuck⟩ := ihRest parent
          (fun n h => hrows n (.tail _ (List.mem_append_right _ h))) ⟨node, hnode, child, hchild, hname⟩
        exact ⟨a, List.mem_cons_of_mem _ ha, hstuck⟩

/-- A node anywhere in the forest that owns an attribute of its own name makes the reassembly run
forever: the child's row names itself as its parent, and every ancestor waits on it. -/
theorem reassembleLocationAttributes_of_namesake (attributes : List LocationAttribute)
    (hnamesake : ∃ owner ∈ forestAttributes attributes, ∃ child ∈ owner.children,
      child.propertyName = owner.propertyName) :
    ∀ fuel, reassembleLocationAttributes fuel (makeLocationAttributeModels attributes none) =
      none := by
  intro fuel
  obtain ⟨owner, howner, child, hchild, hname⟩ := hnamesake
  obtain ⟨node, hnode, rfl⟩ := List.mem_map.mp howner
  have hrows : ∀ node ∈ attributeNodes none attributes,
      nodeModel node ∈ makeLocationAttributeModels attributes none := fun node h => by
    rw [makeLocationAttributeModels_eq_map]
    exact List.mem_map_of_mem _ h
  obtain ⟨root, hroot, hstuck⟩ :=
    exists_stuck_root_of_namesake attributes none hrows ⟨node, hnode, child, hchild, hname⟩
  exact mapM_eq_none_of_mem
    (List.mem_filter.mpr ⟨hrows _ (mem_attributeNodes_of_mem hroot none), rfl⟩) (hstuck fuel)

/-! ### The round trip and its limit -/

/-- **Round trip.** When every node that owns children is the only node with its name, the rows of
a forest read back, with fuel its height, as the forest itself: current, each node under its
parent's name, and empty `struct_values` read as `None`. When any node owns an attribute of its own
name, the reassembly never ends, whatever the fuel. -/
theorem reassembleLocationAttributes_makeLocationAttributeModels
    (attributes : List LocationAttribute) :
    (UniqueOwnerNames attributes → ∀ fuel, forestDepth attributes ≤ fuel →
        reassembleLocationAttributes fuel (makeLocationAttributeModels attributes none) =
          some (normalizeAttributes none attributes)) ∧
      ((∃ owner ∈ forestAttributes attributes, ∃ child ∈ owner.children,
          child.propertyName = owner.propertyName) →
        ∀ fuel, reassembleLocationAttributes fuel (makeLocationAttributeModels attributes none) =
          none) :=
  ⟨reassembleLocationAttributes_eq_normalizeAttributes attributes,
    reassembleLocationAttributes_of_namesake attributes⟩

/-- A struct attribute `position` owning one attribute, `altitude`. -/
def positionForest : List LocationAttribute :=
  [{ locationId := "warehouse", locationAddress := "6f2a", propertyName := "position",
     parentPropertyName := none, dataType := "STRUCT", bytesValue := none, booleanValue := none,
     numberValue := none, stringValue := none, enumValue := none,
     structValues := some
       [{ locationId := "warehouse", locationAddress := "6f2a", propertyName := "altitude",
          parentPropertyName := some "position", dataType := "NUMBER", bytesValue := none,
          booleanValue := none, numberValue := some 120, stringValue := none, enumValue := none,
          structValues := none, latLongValue := none, startCommitNum := 3,
          endCommitNum := maxCommitNum, serviceId := none }],
     latLongValue := some ⟨44977753, -93265015⟩, startCommitNum := 3, endCommitNum := maxCommitNum,
     serviceId := none }]

/-- A leaf `bay`, stored under a struct attribute also named `bay`. -/
def bayAttribute : LocationAttribute :=
  { locationId := "warehouse", locationAddress := "6f2a", propertyName := "bay",
    parentPropertyName := some "bay", dataType := "NUMBER", bytesValue := none, booleanValue := none,
    numberValue := some 4, stringValue := none, enumValue := none, structValues := none,
    latLongValue := none, startCommitNum := 3, endCommitNum := maxCommitNum, serviceId := none }

/-- A leaf root `gate`, then a root `dock` owning a struct `bay` that owns the leaf `bay`. -/
def namesakeForest : List LocationAttribute :=
  [{ bayAttribute with
      propertyName := "gate", parentPropertyName := none, dataType := "STRING", numberValue := none,
      stringValue := some "north" },
    { bayAttribute with
      propertyName := "dock", parentPropertyName := none, dataType := "STRUCT", numberValue := none,
      structValues := some
        [{ bayAttribute with
            parentPropertyName := some "dock", dataType := "STRUCT", numberValue := none,
            structValues := some [bayAttribute] }] }]

theorem reassembleLocationAttributes_positionForest :
    (UniqueOwnerNames positionForest ∧ forestDepth positionForest ≤ 2 ∧
        reassembleLocationAttributes 2 (makeLocationAttributeModels positionForest none) =
          some (normalizeAttributes none positionForest)) ∧
      (∃ owner ∈ forestAttributes namesakeForest, ∃ child ∈ owner.children,
          child.propertyName = owner.propertyName) ∧
        ∀ fuel, reassembleLocationAttributes fuel (makeLocationAttributeModels namesakeForest none) =
          none :=
  have hnamesake : ∃ owner ∈ forestAttributes namesakeForest, ∃ child ∈ owner.children,
      child.propertyName = owner.propertyName := by decide
  ⟨⟨by decide, by decide,
      (reassembleLocationAttributes_makeLocationAttributeModels positionForest).1 (by decide) 2
        (by decide)⟩,
    hnamesake, (reassembleLocationAttributes_makeLocationAttributeModels namesakeForest).2 hnamesake⟩

/-- A struct attribute `x` owning one attribute also named `x`. -/
def selfNamedForest : List LocationAttribute :=
  [{ locationId := "warehouse", locationAddress := "6f2a", propertyName := "x",
     parentPropertyName := none, dataType := "STRUCT", bytesValue := none, booleanValue := none,
     numberValue := none, stringValue := none, enumValue := none,
     structValues := some
       [{ locationId := "warehouse", locationAddress := "6f2a", propertyName := "x",
          parentPropertyName := some "x", dataType := "STRING", bytesValue := none,
          booleanValue := none, numberValue := none, stringValue := some "dock", enumValue := none,
          structValues := none, latLongValue := none, startCommitNum := 3,
          endCommitNum := maxCommitNum, serviceId := none }],
     latLongValue := none, startCommitNum := 3, endCommitNum := maxCommitNum, serviceId := none }]

/-- The reassembly of `selfNamedForest`'s rows never ends, whatever the fuel. -/
theorem reassembleLocationAttributes_selfNamed :
    (reassembleLocationAttributes · (makeLocationAttributeModels selfNamedForest none)) =
      fun _ => none :=
  funext (reassembleLocationAttributes_of_namesake selfNamedForest (by decide))

end GridStore
