import GridStore.Models

/-!
# Location attribute trees and their rows

A location's attributes form a forest: an attribute of struct type owns child attributes in its
`struct_values`. The store keeps the forest as flat `location_attribute` rows, each child pointing
at its parent by the parent's property name. `make_location_attribute_models` is the flattening:
a loop over the attributes that pushes one row per attribute and appends the rows of its non-empty
`struct_values`, built by the same function one level down.

The pre-order traversal `attributeNodes` says what that loop computes
(`makeLocationAttributeModels_eq_map`): one row per node, in pre-order, the roots under the given
parent and every other node under its parent's property name. A child's row therefore always
comes after a row of its parent's name (`makeLocationAttributeModels_parentsFirst`).
-/

namespace GridStore

/-- `LatLongValue(pub i64, pub i64)`: the tuple's `.0` and `.1`. -/
structure LatLongValue where
  latitude : Int
  longitude : Int
deriving DecidableEq, Repr

/-- A Grid location attribute, with the attributes it owns in `structValues`. -/
structure LocationAttribute where
  locationId : String
  locationAddress : String
  propertyName : String
  parentPropertyName : Option String
  dataType : String
  bytesValue : Option (List UInt8)
  booleanValue : Option Bool
  numberValue : Option Int
  stringValue : Option String
  enumValue : Option Int
  structValues : Option (List LocationAttribute)
  latLongValue : Option LatLongValue
  startCommitNum : Int
  endCommitNum : Int
  serviceId : Option String
deriving Repr

/-- The attributes a node owns: its `struct_values`, with `None` owning none. -/
def LocationAttribute.children (attr : LocationAttribute) : List LocationAttribute :=
  attr.structValues.getD []

mutual

/-- Induction over a forest, with the head's children as a second hypothesis. -/
theorem forest_induction {motive : List LocationAttribute → Prop} (nil : motive [])
    (cons : ∀ attr rest, motive attr.children → motive rest → motive (attr :: rest))
    (attributes : List LocationAttribute) : motive attributes :=
  match attributes with
  | [] => nil
  | attr :: rest =>
      cons attr rest (children_induction nil cons attr) (forest_induction nil cons rest)

theorem children_induction {motive : List LocationAttribute → Prop} (nil : motive [])
    (cons : ∀ attr rest, motive attr.children → motive rest → motive (attr :: rest))
    (attr : LocationAttribute) : motive attr.children :=
  match attr with
  | { structValues := some vals, .. } => forest_induction nil cons vals
  | { structValues := none, .. } => nil

end

/-- `create_lat_long_value`: a coordinate needs both halves. -/
def createLatLongValue (lat long : Option Int) : Option LatLongValue :=
  match lat with
  | some latitude =>
      match long with
      | some longitude => some ⟨latitude, longitude⟩
      | none => none
  | none => none

/-- Splitting a coordinate into its two columns and recombining them gives it back. -/
@[simp]
theorem createLatLongValue_map (value : Option LatLongValue) :
    createLatLongValue (value.map (·.latitude)) (value.map (·.longitude)) = value := by
  cases value <;> rfl

/-- `LocationAttribute::from_model`: a row read back as a leaf. -/
def LocationAttribute.fromModel (model : LocationAttributeModel) : LocationAttribute :=
  { locationId := model.locationId
    locationAddress := model.locationAddress
    propertyName := model.propertyName
    parentPropertyName := model.parentPropertyName
    dataType := model.dataType
    bytesValue := model.bytesValue
    booleanValue := model.booleanValue
    numberValue := model.numberValue
    stringValue := model.stringValue
    enumValue := model.enumValue
    structValues := none
    latLongValue := createLatLongValue model.latitudeValue model.longitudeValue
    startCommitNum := model.startCommitNum
    endCommitNum := model.endCommitNum
    serviceId := model.serviceId }

/-- `LocationAttribute::from_model_with_children`: a row read back with the children rebuilt below
it. -/
def LocationAttribute.fromModelWithChildren (model : LocationAttributeModel)
    (children : List LocationAttribute) : LocationAttribute :=
  { LocationAttribute.fromModel model with structValues := some children }

/-- The row `make_location_attribute_models` pushes for one attribute under a given parent name. -/
def newLocationAttributeModel (attr : LocationAttribute) (parentPropertyName : Option String) :
    LocationAttributeModel :=
  { locationId := attr.locationId
    locationAddress := attr.locationAddress
    propertyName := attr.propertyName
    parentPropertyName := parentPropertyName
    dataType := attr.dataType
    bytesValue := attr.bytesValue
    booleanValue := attr.booleanValue
    numberValue := attr.numberValue
    stringValue := attr.stringValue
    enumValue := attr.enumValue
    latitudeValue := attr.latLongValue.map (·.latitude)
    longitudeValue := attr.latLongValue.map (·.longitude)
    startCommitNum := attr.startCommitNum
    endCommitNum := maxCommitNum
    serviceId := attr.serviceId }

@[simp]
theorem newLocationAttributeModel_propertyName (attr : LocationAttribute) (parent : Option String) :
    (newLocationAttributeModel attr parent).propertyName = attr.propertyName := rfl

@[simp]
theorem newLocationAttributeModel_parentPropertyName (attr : LocationAttribute)
    (parent : Option String) :
    (newLocationAttributeModel attr parent).parentPropertyName = parent := rfl

mutual

/-- The `for attr in attributes` loop of `make_location_attribute_models`, with `attrs` its
accumulator: push the attribute's row, then append the rows of its `struct_values`. -/
def makeLocationAttributeModelsLoop (parentPropertyName : Option String) :
    List LocationAttributeModel → List LocationAttribute → List LocationAttributeModel
  | attrs, [] => attrs
  | attrs, attr :: rest =>
      makeLocationAttributeModelsLoop parentPropertyName
        ((attrs ++ [newLocationAttributeModel attr parentPropertyName]) ++ structValuesModels attr)
        rest

/-- The rows appended for one attribute: those of its `struct_values` when they are `Some` and
non-empty, each under the attribute's property name. -/
def structValuesModels : LocationAttribute → List LocationAttributeModel
  | { structValues := some vals, propertyName, .. } =>
      if vals.isEmpty then [] else makeLocationAttributeModelsLoop (some propertyName) [] vals
  | { structValues := none, .. } => []

end

/-- `make_location_attribute_models`. -/
def makeLocationAttributeModels (attributes : List LocationAttribute)
    (parentPropertyName : Option String) : List LocationAttributeModel :=
  makeLocationAttributeModelsLoop parentPropertyName [] attributes

/-! ### The pre-order traversal -/

mutual

/-- The nodes of a forest in pre-order, each with the property name of its parent node; the roots
get `parent`. Each node is followed by the nodes of its `struct_values`. -/
def attributeNodes (parent : Option String) :
    List LocationAttribute → List (LocationAttribute × Option String)
  | [] => []
  | attr :: rest => (attr, parent) :: (childNodes attr ++ attributeNodes parent rest)

/-- The pre-order nodes strictly below one node. -/
def childNodes : LocationAttribute → List (LocationAttribute × Option String)
  | { structValues := some vals, propertyName, .. } => attributeNodes (some propertyName) vals
  | { structValues := none, .. } => []

end

mutual

/-- The number of nodes of a forest. -/
def attributeCount : List LocationAttribute → Nat
  | [] => 0
  | attr :: rest => 1 + childCount attr + attributeCount rest

/-- The number of nodes strictly below one node. -/
def childCount : LocationAttribute → Nat
  | { structValues := some vals, .. } => attributeCount vals
  | { structValues := none, .. } => 0

end

theorem childNodes_eq (attr : LocationAttribute) :
    childNodes attr = attributeNodes (some attr.propertyName) attr.children := by
  rcases attr with ⟨_, _, _, _, _, _, _, _, _, _, _ | vals, _, _, _, _⟩ <;> rfl

@[simp]
theorem attributeNodes_cons (parent : Option String) (attr : LocationAttribute)
    (rest : List LocationAttribute) :
    attributeNodes parent (attr :: rest) =
      (attr, parent) :: (attributeNodes (some attr.propertyName) attr.children ++
        attributeNodes parent rest) := by
  rw [attributeNodes, childNodes_eq]

/-- The row of a pre-order node. -/
def nodeModel (node : LocationAttribute × Option String) : LocationAttributeModel :=
  newLocationAttributeModel node.1 node.2

mutual

theorem makeLocationAttributeModelsLoop_eq (parent : Option String) :
    ∀ (attrs : List LocationAttributeModel) (attributes : List LocationAttribute),
      makeLocationAttributeModelsLoop parent attrs attributes =
        attrs ++ (attributeNodes parent attributes).map nodeModel
  | attrs, [] => by simp [makeLocationAttributeModelsLoop, attributeNodes]
  | attrs, attr :: rest => by
      rw [makeLocationAttributeModelsLoop, makeLocationAttributeModelsLoop_eq parent _ rest,
        structValuesModels_eq attr]
      simp [attributeNodes, nodeModel]

theorem structValuesModels_eq :
    ∀ attr : LocationAttribute, structValuesModels attr = (childNodes attr).map nodeModel
  | { structValues := some vals, propertyName, .. } => by
      cases vals with
      | nil => simp [structValuesModels, childNodes, attributeNodes]
      | cons val vals =>
          simp only [structValuesModels, childNodes, List.isEmpty_cons]
          rw [if_neg Bool.false_ne_true, makeLocationAttributeModelsLoop_eq, List.nil_append]
  | { structValues := none, .. } => rfl

end

/-- The flattening is the pre-order traversal, one row per node. -/
theorem makeLocationAttributeModels_eq_map (attributes : List LocationAttribute)
    (parent : Option String) :
    makeLocationAttributeModels attributes parent = (attributeNodes parent attributes).map nodeModel := by
  rw [makeLocationAttributeModels, makeLocationAttributeModelsLoop_eq, List.nil_append]

theorem makeLocationAttributeModels_cons (attr : LocationAttribute) (rest : List LocationAttribute)
    (parent : Option String) :
    makeLocationAttributeModels (attr :: rest) parent =
      newLocationAttributeModel attr parent ::
        (makeLocationAttributeModels attr.children (some attr.propertyName) ++
          makeLocationAttributeModels rest parent) := by
  simp only [makeLocationAttributeModels_eq_map, attributeNodes_cons, List.map_cons,
    List.map_append, nodeModel]

mutual

theorem length_attributeNodes (parent : Option String) :
    ∀ attributes : List LocationAttribute,
      (attributeNodes parent attributes).length = attributeCount attributes
  | [] => rfl
  | attr :: rest => by
      simp only [attributeNodes, attributeCount, List.length_cons, List.length_append,
        length_childNodes attr, length_attributeNodes parent rest]
      omega

theorem length_childNodes : ∀ attr : LocationAttribute, (childNodes attr).length = childCount attr
  | { structValues := some vals, propertyName, .. } => length_attributeNodes (some propertyName) vals
  | { structValues := none, .. } => rfl

end

/-- **Flattening.** `make_location_attribute_models` lists the forest in pre-order, one row per
node: the roots under the given parent, every other node under its parent's property name, each
row current, its coordinate split in two, and every other column copied from its node. -/
theorem makeLocationAttributeModels_preorder (attributes : List LocationAttribute)
    (parent : Option String) :
    makeLocationAttributeModels attributes parent =
        (attributeNodes parent attributes).map (fun node =>
          ({ locationId := node.1.locationId
             locationAddress := node.1.locationAddress
             propertyName := node.1.propertyName
             parentPropertyName := node.2
             dataType := node.1.dataType
             bytesValue := node.1.bytesValue
             booleanValue := node.1.booleanValue
             numberValue := node.1.numberValue
             stringValue := node.1.stringValue
             enumValue := node.1.enumValue
             latitudeValue := node.1.latLongValue.map (·.latitude)
             longitudeValue := node.1.latLongValue.map (·.longitude)
             startCommitNum := node.1.startCommitNum
             endCommitNum := maxCommitNum
             serviceId := node.1.serviceId } : LocationAttributeModel)) ∧
      (makeLocationAttributeModels attributes parent).length = attributeCount attributes ∧
      ∀ row ∈ makeLocationAttributeModels attributes parent, row.endCommitNum = maxCommitNum := by
  refine ⟨makeLocationAttributeModels_eq_map attributes parent, ?_, ?_⟩
  · rw [makeLocationAttributeModels_eq_map, List.length_map, length_attributeNodes]
  · intro row hrow
    rw [makeLocationAttributeModels_eq_map, List.mem_map] at hrow
    obtain ⟨node, -, rfl⟩ := hrow
    rfl

/-! ### Parents before children

The rows are inserted in the order the loop pushes them. A row that hangs under another attribute
comes after a row of that attribute's property name, so a reader that walks the rows in order has
always met a row's parent name before the row. -/

/-- Every row hangs under `parent`, or under the property of a row written before it. -/
def ParentsFirst (parent : Option String) (rows : List LocationAttributeModel) : Prop :=
  ∀ (i : Nat) (row : LocationAttributeModel), rows[i]? = some row →
    row.parentPropertyName = parent ∨ ∃ j < i, ∃ owner : LocationAttributeModel,
      rows[j]? = some owner ∧ row.parentPropertyName = some owner.propertyName

theorem ParentsFirst.nil (parent : Option String) : ParentsFirst parent [] := by
  intro i row h
  simp at h

/-- A row under `parent`, then rows under it, then more rows under `parent`. -/
theorem ParentsFirst.cons {parent : Option String} {row : LocationAttributeModel}
    {children rest : List LocationAttributeModel} (hrow : row.parentPropertyName = parent)
    (hchildren : ParentsFirst (some row.propertyName) children) (hrest : ParentsFirst parent rest) :
    ParentsFirst parent (row :: (children ++ rest)) := by
  rintro (_ | i) other hother
  · rw [List.getElem?_cons_zero, Option.some.injEq] at hother
    exact hother ▸ .inl hrow
  rw [List.getElem?_cons_succ] at hother
  by_cases hi : i < children.length
  · rw [List.getElem?_append_left hi] at hother
    rcases hchildren i other hother with hparent | ⟨j, hj, owner, howner, hparent⟩
    · exact .inr ⟨0, i.succ_pos, row, List.getElem?_cons_zero, hparent⟩
    · refine .inr ⟨j + 1, by omega, owner, ?_, hparent⟩
      rw [List.getElem?_cons_succ, List.getElem?_append_left (hj.trans hi)]
      exact howner
  · rw [List.getElem?_append_right (Nat.le_of_not_lt hi)] at hother
    rcases hrest _ other hother with hparent | ⟨j, hj, owner, howner, hparent⟩
    · exact .inl hparent
    · refine .inr ⟨children.length + j + 1, by omega, owner, ?_, hparent⟩
      rw [List.getElem?_cons_succ, List.getElem?_append_right (Nat.le_add_right _ _),
        Nat.add_sub_cancel_left]
      exact howner

/-- **Parents first.** Every row of `make_location_attribute_models` hangs under the given parent,
or under the property name of a row pushed before it. -/
theorem makeLocationAttributeModels_parentsFirst (attributes : List LocationAttribute)
    (parent : Option String) :
    ParentsFirst parent (makeLocationAttributeModels attributes parent) := by
  induction attributes using forest_induction generalizing parent with
  | nil => exact ParentsFirst.nil parent
  | cons attr rest hchildren hrest =>
      rw [makeLocationAttributeModels_cons]
      exact .cons rfl (hchildren _) (hrest parent)

end GridStore
