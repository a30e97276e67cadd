import GridStore.Models
import Mathlib.Data.List.Perm.Basic
import Mathlib.Data.List.Nodup

/-!
# Schema routes

The daemon's schema routes answer with `GridSchemaSlice`s built from the rows of the `grid_schema`
and `grid_property_definition` tables. The list handler folds every property definition of the
scope into a map keyed by schema name, then takes each schema's entry out of the map, in the order
of the schemas. Under distinct schema names each schema gets the definitions of its name, in table
order (`listGridSchemaSlices_eq_map`): the same ones the fetch handler selects by name
(`ListGridSchemas.handle_eq_mapM_fetch`). When names repeat, the first schema of a name takes all of
its definitions and the later ones none (`listGridSchemaSlices_getElem?_perm`).

Each handler runs its two queries on two connections of the pool, one after the other, outside any
transaction. A write transaction that commits between them makes the answer a mix of two committed
states (`handle_schemaUpdate`).
-/

namespace GridStore

instance instDecidableEqExcept {ε α : Type} [DecidableEq ε] [DecidableEq α] :
    DecidableEq (Except ε α)
  | .ok a, .ok b => if h : a = b then isTrue (h ▸ rfl) else isFalse fun heq => h (by injection heq)
  | .error e, .error e' =>
      if h : e = e' then isTrue (h ▸ rfl) else isFalse fun heq => h (by injection heq)
  | .ok _, .error _ => isFalse Except.noConfusion
  | .error _, .ok _ => isFalse Except.noConfusion

/-- The daemon's `GridPropertyDefinitionSlice`. -/
structure GridPropertyDefinitionSlice where
  name : String
  schemaName : String
  dataType : String
  required : Bool
  description : String
  numberExponent : Int
  enumOptions : List String
  structProperties : List String
  serviceId : Option String
deriving DecidableEq, Repr

def GridPropertyDefinitionSlice.fromDefinition (definition : GridPropertyDefinition) :
    GridPropertyDefinitionSlice :=
  { name := definition.name
    schemaName := definition.schemaName
    dataType := definition.dataType
    required := definition.required
    description := definition.description
    numberExponent := definition.numberExponent
    enumOptions := definition.enumOptions
    structProperties := definition.structProperties
    serviceId := definition.serviceId }

/-- The daemon's `GridSchemaSlice`. -/
structure GridSchemaSlice where
  name : String
  description : String
  owner : String
  properties : List GridPropertyDefinitionSlice
  serviceId : Option String
deriving DecidableEq, Repr

def GridSchemaSlice.fromSchema (schema : GridSchema) (properties : List GridPropertyDefinition) :
    GridSchemaSlice :=
  { name := schema.name
    description := schema.description
    owner := schema.owner
    properties := properties.map GridPropertyDefinitionSlice.fromDefinition
    serviceId := schema.serviceId }

@[simp]
theorem fromSchema_properties (schema : GridSchema) (properties : List GridPropertyDefinition) :
    (GridSchemaSlice.fromSchema schema properties).properties =
      properties.map GridPropertyDefinitionSlice.fromDefinition :=
  rfl

/-- The errors the schema handlers return on their own; those of the connection pool and of the
queries are not modelled. -/
inductive RestApiResponseError
  | notFoundError (message : String)
deriving DecidableEq, Repr

/-! ### The database helpers -/

/-- Modelled from the spec: `db::list_grid_schemas` is not in the source. It is §4.2's
`list_current`: the current schemas of the scope, in table order. -/
def listGridSchemas (db : Db) (serviceId : Option String) : List GridSchema :=
  db.gridSchema.filter fun schema =>
    schema.endCommitNum == maxCommitNum && scopeFilter schema.serviceId serviceId

/-- Modelled from the spec: `db::fetch_grid_schema` is not in the source. It is §4.2's
`read_current`: the first current schema of the name and scope. -/
def fetchGridSchema (db : Db) (name : String) (serviceId : Option String) : Option GridSchema :=
  db.gridSchema.find? fun schema =>
    schema.name == name && schema.endCommitNum == maxCommitNum &&
      scopeFilter schema.serviceId serviceId

/-- Modelled from the spec: `db::list_grid_property_definitions` is not in the source. It is §4.2's
`list_current`. -/
def listGridPropertyDefinitions (db : Db) (serviceId : Option String) :
    List GridPropertyDefinition :=
  db.gridPropertyDefinition.filter fun definition =>
    definition.endCommitNum == maxCommitNum && scopeFilter definition.serviceId serviceId

/-- Modelled from the spec: `db::list_grid_property_definitions_with_schema_name` is not in the
source. It is §4.2's `list_current` with the schema name as the entity filter. -/
def listGridPropertyDefinitionsWithSchemaName (db : Db) (schemaName : String)
    (serviceId : Option String) : List GridPropertyDefinition :=
  db.gridPropertyDefinition.filter fun definition =>
    definition.schemaName == schemaName && definition.endCommitNum == maxCommitNum &&
      scopeFilter definition.serviceId serviceId

theorem fetchGridSchema_eq_find? (db : Db) (name : String) (serviceId : Option String) :
    fetchGridSchema db name serviceId = (listGridSchemas db serviceId).find? (·.name == name) := by
  rw [fetchGridSchema, listGridSchemas, List.find?_filter]
  congr 1
  funext schema
  refine Bool.eq_iff_iff.mpr ?_
  simp only [Bool.and_eq_true, decide_eq_true_eq]
  tauto

theorem listGridPropertyDefinitionsWithSchemaName_eq_filter (db : Db) (schemaName : String)
    (serviceId : Option String) :
    listGridPropertyDefinitionsWithSchemaName db schemaName serviceId =
      (listGridPropertyDefinitions db serviceId).filter (·.schemaName == schemaName) := by
  rw [listGridPropertyDefinitionsWithSchemaName, listGridPropertyDefinitions, List.filter_filter]
  simp only [Bool.and_assoc]

/-! ### Grouping the definitions by schema -/

/-- `acc.entry(definition.schema_name).or_insert_with(Vec::new).push(definition)`, the
`HashMap` being a function from schema names to entries. -/
def pushProperty (acc : String → Option (List GridPropertyDefinition))
    (definition : GridPropertyDefinition) : String → Option (List GridPropertyDefinition) :=
  Function.update acc definition.schemaName
    (some ((acc definition.schemaName).getD [] ++ [definition]))

/-- The fold of the list handler. -/
def groupBySchemaName (definitions : List GridPropertyDefinition) :
    String → Option (List GridPropertyDefinition) :=
  definitions.foldl pushProperty fun _ => none

/-- The map of the list handler over the schemas: each takes its entry out of the map,
`properties.remove(&schema.name).unwrap_or_else(Vec::new)`, in the order of the schemas. -/
def schemaSlices :
    List GridSchema → (String → Option (List GridPropertyDefinition)) → List GridSchemaSlice
  | [], _ => []
  | schema :: schemas, properties =>
      GridSchemaSlice.fromSchema schema ((properties schema.name).getD []) ::
        schemaSlices schemas (Function.update properties schema.name none)

/-- The list handler's answer from the definitions and the schemas its two queries return. -/
def listGridSchemaSlices (definitions : List GridPropertyDefinition) (schemas : List GridSchema) :
    List GridSchemaSlice :=
  schemaSlices schemas (groupBySchemaName definitions)

theorem pushProperty_getD (acc : String → Option (List GridPropertyDefinition))
    (definition : GridPropertyDefinition) (name : String) :
    (pushProperty acc definition name).getD [] =
      (acc name).getD [] ++ [definition].filter (·.schemaName == name) := by
  by_cases hname : definition.schemaName = name
  · subst hname
    simp [pushProperty]
  · simp [pushProperty, Function.update_noteq (Ne.symm hname), hname]

/-- Folding definitions into the map appends to each entry the definitions of its name. -/
theorem foldl_pushProperty_getD (definitions : List GridPropertyDefinition)
    (acc : String → Option (List GridPropertyDefinition)) (name : String) :
    ((definitions.foldl pushProperty acc) name).getD [] =
      (acc name).getD [] ++ definitions.filter (·.schemaName == name) := by
  induction definitions generalizing acc with
  | nil => simp
  | cons definition definitions ih =>
      rw [List.foldl_cons, ih, pushProperty_getD, List.append_assoc, ← List.filter_append,
        List.singleton_append]

theorem groupBySchemaName_getD (definitions : List GridPropertyDefinition) (name : String) :
    (groupBySchemaName definitions name).getD [] =
      definitions.filter (·.schemaName == name) :=
  (foldl_pushProperty_getD definitions _ name).trans (List.nil_append _)

/-- Under distinct schema names, removing a schema's entry leaves the entries of the schemas after
it in place, so each schema reads the entry the map had at the start. -/
theorem schemaSlices_eq_map {schemas : List GridSchema} (hnodup : (schemas.map (·.name)).Nodup)
    (properties : String → Option (List GridPropertyDefinition)) :
    schemaSlices schemas properties =
      schemas.map fun schema => GridSchemaSlice.fromSchema schema ((properties schema.name).getD []) := by
  induction schemas generalizing properties with
  | nil => rfl
  | cons schema schemas ih =>
      rw [List.map_cons, List.nodup_cons] at hnodup
      rw [schemaSlices, List.map_cons, ih hnodup.2]
      congr 1
      refine List.map_congr_left fun other hother => ?_
      have hname : other.name ≠ schema.name := fun heq =>
        hnodup.1 (heq ▸ List.mem_map_of_mem _ hother)
      rw [Function.update_noteq hname]

/-- Over distinct names, the definitions of each name, one name after another, are the definitions
of the listed names, each once. -/
theorem flatMap_filter_perm {names : List String} (hnodup : names.Nodup)
    (definitions : List GridPropertyDefinition) :
    (names.flatMap fun name => definitions.filter (·.schemaName == name)).Perm
      (definitions.filter fun definition => names.contains definition.schemaName) := by
  induction names with
  | nil => simp
  | cons name names ih =>
      rw [List.nodup_cons] at hnodup
      rw [List.flatMap_cons]
      refine ((ih hnodup.2).append_left _).trans ?_
      have hsplit := List.filter_append_perm (·.schemaName == name)
        (definitions.filter fun definition => (name :: names).contains definition.schemaName)
      rw [List.filter_filter, List.filter_filter] at hsplit
      convert hsplit using 3 <;> funext definition
      · by_cases hname : definition.schemaName = name <;> simp [hname]
      · by_cases hname : definition.schemaName = name
        · simp [hname, hnodup.1]
        · simp [hname]

theorem listGridSchemaSlices_eq_map_filter (definitions : List GridPropertyDefinition)
    {schemas : List GridSchema} (hnodup : (schemas.map (·.name)).Nodup) :
    listGridSchemaSlices definitions schemas =
      schemas.map fun schema => GridSchemaSlice.fromSchema schema
        (definitions.filter (·.schemaName == schema.name)) := by
  rw [listGridSchemaSlices, schemaSlices_eq_map hnodup]
  simp only [groupBySchemaName_getD]

/-- **Schema list grouping.** Under distinct schema names, the list handler answers one slice per
schema, in the order of the schemas, each carrying the definitions of its name in their order.
Together the slices carry each definition whose schema is listed once, and no other. -/
theorem listGridSchemaSlices_eq_map (definitions : List GridPropertyDefinition)
    (schemas : List GridSchema) (hnodup : (schemas.map (·.name)).Nodup) :
    listGridSchemaSlices definitions schemas =
        schemas.map (fun schema => GridSchemaSlice.fromSchema schema
          (definitions.filter (·.schemaName == schema.name))) ∧
      ((listGridSchemaSlices definitions schemas).flatMap (·.properties)).Perm
        ((definitions.filter fun definition =>
          (schemas.map (·.name)).contains definition.schemaName).map
            GridPropertyDefinitionSlice.fromDefinition) := by
  refine ⟨listGridSchemaSlices_eq_map_filter definitions hnodup, ?_⟩
  have hperm := (flatMap_filter_perm hnodup definitions).map
    GridPropertyDefinitionSlice.fromDefinition
  rw [List.map_flatMap, List.flatMap_map] at hperm
  rw [listGridSchemaSlices_eq_map_filter definitions hnodup, List.flatMap_map]
  exact hperm

/-- Two schemas and three definitions: one of each schema, interleaved, and one of no listed
schema. -/
def colorDefinition : GridPropertyDefinition :=
  { name := "color", schemaName := "paint", dataType := "STRING", required := true,
    description := "", numberExponent := 0, enumOptions := [], structProperties := [],
    endCommitNum := maxCommitNum, serviceId := none }

def paintSchema : GridSchema :=
  { name := "paint", description := "v1", owner := "org-1", endCommitNum := maxCommitNum,
    serviceId := none }

def groupingDefinitions : List GridPropertyDefinition :=
  [colorDefinition, { colorDefinition with name := "weight", schemaName := "crate" },
    { colorDefinition with name := "gloss" }, { colorDefinition with schemaName := "other" }]

theorem listGridSchemaSlices_groupingDefinitions :
    ([paintSchema, { paintSchema with name := "crate" }].map (·.name)).Nodup ∧
      listGridSchemaSlices groupingDefinitions [paintSchema, { paintSchema with name := "crate" }] =
          [paintSchema, { paintSchema with name := "crate" }].map (fun schema =>
            GridSchemaSlice.fromSchema schema
              (groupingDefinitions.filter (·.schemaName == schema.name))) ∧
        ((listGridSchemaSlices groupingDefinitions
            [paintSchema, { paintSchema with name := "crate" }]).flatMap (·.properties)).Perm
          ((groupingDefinitions.filter fun definition =>
            ([paintSchema, { paintSchema with name := "crate" }].map (·.name)).contains
              definition.schemaName).map GridPropertyDefinitionSlice.fromDefinition) :=
  ⟨by decide, listGridSchemaSlices_eq_map _ _ (by decide)⟩

/-! ### Schemas whose names repeat

Nothing in the list handler needs the schema names to be distinct. A schema takes its entry out of
the map, so the first schema of a name gets every definition of that name and the later ones get
an empty list. The invariant of the loop is the map with the entries of the names taken so far
removed. -/

/-- The map of the list handler once the entries of `taken` have been removed. -/
def remainingProperties (definitions : List GridPropertyDefinition) (taken : List String) :
    String → Option (List GridPropertyDefinition) :=
  fun name => if name ∈ taken then none else groupBySchemaName definitions name

theorem remainingProperties_nil (definitions : List GridPropertyDefinition) :
    remainingProperties definitions [] = groupBySchemaName definitions := by
  funext name
  simp [remainingProperties]

/-- Removing one more entry is taking one more name. -/
theorem update_remainingProperties (definitions : List GridPropertyDefinition)
    (taken : List String) (name : String) :
    Function.update (remainingProperties definitions taken) name none =
      remainingProperties definitions (name :: taken) := by
  funext other
  by_cases hother : other = name <;> simp [remainingProperties, Function.update_apply, hother]

theorem remainingProperties_getD (definitions : List GridPropertyDefinition) (taken : List String)
    (name : String) :
    (remainingProperties definitions taken name).getD [] =
      if name ∈ taken then [] else definitions.filter (·.schemaName == name) := by
  unfold remainingProperties
  split_ifs <;> simp [groupBySchemaName_getD]

theorem schemaSlices_remainingProperties_getElem? (definitions : List GridPropertyDefinition) :
    ∀ (schemas : List GridSchema) (taken : List String) (i : Nat),
      (schemaSlices schemas (remainingProperties definitions taken))[i]? =
        schemas[i]?.map fun schema => GridSchemaSlice.fromSchema schema
          (if schema.name ∈ taken ++ (schemas.take i).map (·.name) then []
            else definitions.filter (·.schemaName == schema.name))
  | [], _, _ => rfl
  | schema :: schemas, taken, 0 => by
      simp [schemaSlices, remainingProperties_getD]
  | schema :: schemas, taken, i + 1 => by
      rw [schemaSlices, List.getElem?_cons_succ, update_remainingProperties,
        schemaSlices_remainingProperties_getElem? definitions schemas, List.getElem?_cons_succ,
        List.take_succ_cons]
      simp only [List.map_cons, List.mem_append, List.mem_cons, or_left_comm, or_assoc]

theorem flatMap_schemaSlices_perm (definitions : List GridPropertyDefinition) :
    ∀ (schemas : List GridSchema) (taken : List String),
      ((schemaSlices schemas (remainingProperties definitions taken)).flatMap (·.properties)).Perm
        ((definitions.filter fun definition => definition.schemaName ∈ schemas.map (·.name) ∧
          definition.schemaName ∉ taken).map GridPropertyDefinitionSlice.fromDefinition)
  | [], _ => by simp [schemaSlices]
  | schema :: schemas, taken => by
      rw [schemaSlices, List.flatMap_cons, update_remainingProperties, fromSchema_properties]
      refine ((flatMap_schemaSlices_perm definitions schemas _).append_left _).trans ?_
      rw [← List.map_append]
      refine List.Perm.map _ ?_
      rw [remainingProperties_getD]
      split_ifs with htaken
      · refine List.Perm.of_eq ?_
        rw [List.nil_append]
        congr 1
        funext definition
        by_cases hname : definition.schemaName = schema.name <;> simp [hname, htaken]
      · have hsplit := List.filter_append_perm (·.schemaName == schema.name)
          (definitions.filter fun definition =>
            definition.schemaName ∈ (schema :: schemas).map (·.name) ∧
              definition.schemaName ∉ taken)
        rw [List.filter_filter, List.filter_filter] at hsplit
        convert hsplit using 3 <;> funext definition <;>
          by_cases hname : definition.schemaName = schema.name <;> simp [hname, htaken]

/-- **Schema list grouping, names repeating.** On any schema list the list handler answers one
slice per schema, in order. The `i`-th carries the definitions of its name, in their order, when no
schema before it has its name, and none otherwise; together the slices carry each definition of a
listed schema once. -/
theorem listGridSchemaSlices_getElem?_perm (definitions : List GridPropertyDefinition)
    (schemas : List GridSchema) :
    (∀ i, (listGridSchemaSlices definitions schemas)[i]? =
      schemas[i]?.map fun schema => GridSchemaSlice.fromSchema schema
        (if schema.name ∈ (schemas.take i).map (·.name) then []
          else definitions.filter (·.schemaName == schema.name))) ∧
      ((listGridSchemaSlices definitions schemas).flatMap (·.properties)).Perm
        ((definitions.filter fun definition => definition.schemaName ∈ schemas.map (·.name)).map
          GridPropertyDefinitionSlice.fromDefinition) := by
  rw [listGridSchemaSlices, ← remainingProperties_nil]
  exact ⟨fun i => by simpa using schemaSlices_remainingProperties_getElem? definitions schemas [] i,
    by simpa using flatMap_schemaSlices_perm definitions schemas []⟩

/-! ### The handlers -/

/-- The message of the list route. -/
structure ListGridSchemas where
  serviceId : Option String

/-- `Handler<ListGridSchemas>::handle`. Its two queries run on two connections of the pool, outside
any transaction: the definitions are read from `definitionsDb`, then the schemas from `schemasDb`,
each the store as it stood when the query ran. -/
def ListGridSchemas.handle (msg : ListGridSchemas) (definitionsDb schemasDb : Db) :
    Except RestApiResponseError (List GridSchemaSlice) :=
  .ok (listGridSchemaSlices (listGridPropertyDefinitions definitionsDb msg.serviceId)
    (listGridSchemas schemasDb msg.serviceId))

/-- The message of the fetch route. -/
structure FetchGridSchema where
  name : String
  serviceId : Option String

/-- `Handler<FetchGridSchema>::handle`, its two queries read as in `ListGridSchemas.handle`. -/
def FetchGridSchema.handle (msg : FetchGridSchema) (definitionsDb schemaDb : Db) :
    Except RestApiResponseError GridSchemaSlice :=
  let properties := listGridPropertyDefinitionsWithSchemaName definitionsDb msg.name msg.serviceId
  match fetchGridSchema schemaDb msg.name msg.serviceId with
  | some schema => .ok (GridSchemaSlice.fromSchema schema properties)
  | none => .error (.notFoundError ("Could not find schema with name: " ++ msg.name))

/-- A name occurs among the listed schemas as often as it has current rows in the scope. -/
theorem length_currentRows_eq_count (db : Db) (serviceId : Option String) (name : String) :
    (currentRows (·.name) db.gridSchema name serviceId).length =
      ((listGridSchemas db serviceId).map (·.name)).count name := by
  rw [List.count, List.countP_map, List.countP_eq_length_filter, listGridSchemas,
    List.filter_filter, currentRows]
  congr 2
  funext schema
  refine Bool.eq_iff_iff.mpr ?_
  simp only [Function.comp, Bool.and_eq_true, beq_iff_eq, scopeFilter_iff, decide_eq_true_eq]
  tauto

/-- The single-current invariant of the schema table makes the names of the listed schemas
distinct. -/
theorem nodup_listGridSchemas (db : Db) (serviceId : Option String)
    (hsingle : ∀ name, (currentRows (·.name) db.gridSchema name serviceId).length ≤ 1) :
    ((listGridSchemas db serviceId).map (·.name)).Nodup :=
  List.nodup_iff_count_le_one.mpr fun name =>
    length_currentRows_eq_count db serviceId name ▸ hsingle name

theorem find?_name_eq_some {schemas : List GridSchema} (hnodup : (schemas.map (·.name)).Nodup)
    {schema : GridSchema} (hschema : schema ∈ schemas) :
    schemas.find? (·.name == schema.name) = some schema := by
  induction schemas with
  | nil => cases hschema
  | cons first schemas ih =>
      rw [List.map_cons, List.nodup_cons] at hnodup
      rcases List.mem_cons.mp hschema with rfl | hmem
      · simp
      · have hname : first.name ≠ schema.name := fun heq =>
          hnodup.1 (heq ▸ List.mem_map_of_mem _ hmem)
        rw [List.find?_cons_of_neg _ (by simpa using hname), ih hnodup.2 hmem]

/-- **List and fetch agree.** On a store whose schema table keeps the single-current invariant,
the list handler answers, for each schema, the slice the fetch handler answers for its name. -/
theorem ListGridSchemas.handle_eq_mapM_fetch (db : Db) (serviceId : Option String)
    (hsingle : ∀ name, (currentRows (·.name) db.gridSchema name serviceId).length ≤ 1) :
    ListGridSchemas.handle ⟨serviceId⟩ db db =
      (listGridSchemas db serviceId).mapM fun schema =>
        FetchGridSchema.handle ⟨schema.name, serviceId⟩ db db := by
  have hnodup := nodup_listGridSchemas db serviceId hsingle
  rw [@mapM_except_eq_pure _ _ _ _ fun schema => GridSchemaSlice.fromSchema schema
    (listGridPropertyDefinitionsWithSchemaName db schema.name serviceId)]
  · rw [ListGridSchemas.handle, listGridSchemaSlices_eq_map_filter _ hnodup]
    simp only [listGridPropertyDefinitionsWithSchemaName_eq_filter]
    rfl
  · intro schema hschema
    rw [FetchGridSchema.handle, fetchGridSchema_eq_find?, find?_name_eq_some hnodup hschema]
    rfl

/-- Two current schemas of the `NULL` scope, `paint` in its second version and `crate`, beside the
closed first version of `paint` and a schema of `circuit-1`; the definitions of the two schemas are
interleaved, with one of a schema that is not listed. -/
def catalogDb : Db :=
  { Db.empty with
    gridSchema :=
      [{ paintSchema with endCommitNum := 2 }, { paintSchema with description := "v2" },
        { paintSchema with name := "crate" },
        { paintSchema with name := "label", serviceId := some "circuit-1" }]
    gridPropertyDefinition := groupingDefinitions }

theorem handle_eq_mapM_fetch_catalogDb :
    (∀ name, (currentRows (·.name) catalogDb.gridSchema name none).length ≤ 1) ∧
      ListGridSchemas.handle ⟨none⟩ catalogDb catalogDb =
        (listGridSchemas catalogDb none).mapM fun schema =>
          FetchGridSchema.handle ⟨schema.name, none⟩ catalogDb catalogDb :=
  have hsingle : ∀ name, (currentRows (·.name) catalogDb.gridSchema name none).length ≤ 1 :=
    fun name => (length_currentRows_eq_count catalogDb none name).symm ▸
      List.nodup_iff_count_le_one.mp (by decide) name
  ⟨hsingle, ListGridSchemas.handle_eq_mapM_fetch catalogDb none hsingle⟩

/-! ### Reads across a write

A handler whose first query runs before a write transaction commits and whose second runs after it
reads two committed states. Its answer is a snapshot when one committed state alone gives the same
answer. -/

/-- Some state of `states`, read by both queries, gives `response`. -/
def ReadsSnapshot {α : Type} (handle : Db → Db → α) (response : α) (states : List Db) : Prop :=
  ∃ db ∈ states, handle db db = response

instance {α : Type} [DecidableEq α] (handle : Db → Db → α) (response : α) (states : List Db) :
    Decidable (ReadsSnapshot handle response states) :=
  inferInstanceAs (Decidable (∃ db ∈ states, _))

/-- Schema `paint`, with its property `color`, as committed at commit 1. -/
def schemaDb0 : Db :=
  { Db.empty with gridSchema := [paintSchema], gridPropertyDefinition := [colorDefinition] }

/-- `schemaDb0` after the transaction of commit 2, which replaced `paint` by a second version with a
second property, `weight`. -/
def schemaDb1 : Db :=
  { Db.empty with
    gridSchema :=
      [{ paintSchema with endCommitNum := 2 },
       { paintSchema with description := "v2" }]
    gridPropertyDefinition :=
      [colorDefinition, { colorDefinition with name := "weight" }] }

/-- When commit 2 lands between the two queries, the fetch handler answers the second version of
`paint` with the properties of the first, and the list handler does the same: neither answer is
that of `schemaDb0` or of `schemaDb1`. -/
theorem handle_schemaUpdate :
    FetchGridSchema.handle ⟨"paint", none⟩ schemaDb0 schemaDb1 =
        .ok (GridSchemaSlice.fromSchema { paintSchema with description := "v2" } [colorDefinition]) ∧
      ¬ ReadsSnapshot (FetchGridSchema.handle ⟨"paint", none⟩)
        (FetchGridSchema.handle ⟨"paint", none⟩ schemaDb0 schemaDb1) [schemaDb0, schemaDb1] ∧
      ¬ ReadsSnapshot (ListGridSchemas.handle ⟨none⟩)
        (ListGridSchemas.handle ⟨none⟩ schemaDb0 schemaDb1) [schemaDb0, schemaDb1] :=
  ⟨rfl, by decide, by decide⟩

end GridStore
