import GridStore.Models

/-!
# Fetching agents, organizations and products

Each fetch selects a current row of a key and scope with `.first()`, then loads the rows it owns.
The three differ in how they scope and in what they load. `fetch_agent` compares the scope by
`service_id.eq(&service_id)`, so on the `None` scope it finds nothing (`fetchAgent_none`).
`fetch_organization` scopes each of its three queries with the boxed `eq`/`is_null` filter.
`get_product` scopes the product but not its property values, and looks for a root's children with
`parent_property.eq(&root_value.parent_property)`, the root's own parent, which is `NULL`: it never
finds any (`getProduct_eq`).

None of them counts the current rows: `.first()` takes the first in table order, and a key with two
current rows is read as its first (`fetch_eq_first_currentRows`).
-/

namespace GridStore

/-! ### Agents -/

/-- Modelled from the spec: the agents store's `Agent` is not in the source. It carries its row's
payload, as `pike::store::Agent` does, with the names of the role rows loaded beside it. -/
structure Agent where
  publicKey : String
  orgId : String
  active : Bool
  metadata : List UInt8
  roles : List String
  startCommitNum : Int
  endCommitNum : Int
  serviceId : Option String
deriving DecidableEq, Repr

/-- Modelled from the spec: `Agent::from_models` is not in the source; §6 has responses mirror the
stored payload. -/
def Agent.fromModels (agent : AgentModel) (roles : List RoleModel) : Agent :=
  { publicKey := agent.publicKey
    orgId := agent.orgId
    active := agent.active
    metadata := agent.metadata
    roles := roles.map (·.roleName)
    startCommitNum := agent.startCommitNum
    endCommitNum := agent.endCommitNum
    serviceId := agent.serviceId }

/-- The errors `fetch_agent` returns on its own; those of a failing connection are not modelled. -/
inductive AgentStoreError
  | notFoundError (message : String)
deriving DecidableEq, Repr

/-- `fetch_agent`. The role query's `.map(Some)` and `.ok_or_else(..)` cancel out. -/
def fetchAgent (db : Db) (pubKey : String) (serviceId : Option String) :
    Except AgentStoreError (Option Agent) :=
  match db.agent.find? fun agent =>
      agent.publicKey == pubKey && nullableEq agent.serviceId serviceId &&
        agent.endCommitNum == maxCommitNum with
  | none => .error (.notFoundError ("Failed to find agent: " ++ pubKey))
  | some agent =>
      let roles := db.role.filter fun role =>
        role.publicKey == pubKey && nullableEq role.serviceId serviceId &&
          role.endCommitNum == maxCommitNum
      .ok (some (Agent.fromModels agent roles))

/-! ### Organizations -/

/-- Modelled from the spec: the organizations store's `Organization` is not in the source. It
carries its row's payload, as `pike::store::Organization` does, with the location ids and the
alternate ids loaded beside it. -/
structure Organization where
  orgId : String
  name : String
  address : String
  metadata : List UInt8
  locations : List String
  alternateIds : List (String × String)
  startCommitNum : Int
  endCommitNum : Int
  serviceId : Option String
deriving DecidableEq, Repr

/-- Modelled from the spec: `Organization::from((org, locs, ids))` is not in the source. -/
def Organization.fromModels (org : OrganizationModel) (locs : List OrgLocationModel)
    (ids : List AltIDModel) : Organization :=
  { orgId := org.orgId
    name := org.name
    address := org.address
    metadata := org.metadata
    locations := locs.map (·.locationId)
    alternateIds := ids.map fun id => (id.alternateIdType, id.alternateId)
    startCommitNum := org.startCommitNum
    endCommitNum := org.endCommitNum
    serviceId := org.serviceId }

/-- `fetch_organization`. Its three queries share the boxed scope filter; the `InternalError` of a
failing connection is not modelled, so the result is the `Option` alone. -/
def fetchOrganization (db : Db) (orgId : String) (serviceId : Option String) :
    Option Organization :=
  let org := db.organization.find? fun org =>
    org.orgId == orgId && org.endCommitNum == maxCommitNum && scopeFilter org.serviceId serviceId
  let locs := db.orgLocation.filter fun loc =>
    loc.orgId == orgId && loc.endCommitNum == maxCommitNum && scopeFilter loc.serviceId serviceId
  let ids := db.alternateIdentifier.filter fun id =>
    id.orgId == orgId && id.endCommitNum == maxCommitNum && scopeFilter id.serviceId serviceId
  org.map fun org => Organization.fromModels org locs ids

/-! ### Products -/

/-- The products store's `LatLongValue`. -/
structure ProductLatLongValue where
  latitude : Int
  longitude : Int
deriving DecidableEq, Repr

/-- The products store's `PropertyValue`: one node of a product's property tree. -/
structure PropertyValue where
  productId : String
  productAddress : String
  propertyName : String
  dataType : String
  bytesValue : Option (List UInt8)
  booleanValue : Option Bool
  numberValue : Option Int
  stringValue : Option String
  enumValue : Option Int
  structValues : List PropertyValue
  latLongValue : Option ProductLatLongValue
  startCommitNum : Int
  endCommitNum : Int
  serviceId : Option String
deriving Repr

/-- Modelled from the spec: `From<ProductPropertyValue> for PropertyValue` is not in the source. A
property with no children is a leaf value (§4.3); its coordinate needs both coordinate columns. -/
def PropertyValue.fromModel (value : ProductPropertyValue) : PropertyValue :=
  { productId := value.productId
    productAddress := value.productAddress
    propertyName := value.propertyName
    dataType := value.dataType
    bytesValue := value.bytesValue
    booleanValue := value.booleanValue
    numberValue := value.numberValue
    stringValue := value.stringValue
    enumValue := value.enumValue
    structValues := []
    latLongValue :=
      match value.latitudeValue, value.longitudeValue with
      | some latitude, some longitude => some ⟨latitude, longitude⟩
      | _, _ => none
    startCommitNum := value.startCommitNum
    endCommitNum := value.endCommitNum
    serviceId := value.serviceId }

/-- Modelled from the spec: `From<(ProductPropertyValue, Vec<PropertyValue>)>` is not in the
source; a property with children carries them in `struct_values` (§4.3). -/
def PropertyValue.fromModelWithValues (value : ProductPropertyValue)
    (children : List PropertyValue) : PropertyValue :=
  { PropertyValue.fromModel value with structValues := children }

/-- The products store's `Product`. -/
structure Product where
  productId : String
  productAddress : String
  productNamespace : String
  owner : String
  startCommitNum : Int
  endCommitNum : Int
  serviceId : Option String
  properties : List PropertyValue
deriving Repr

/-- Modelled from the spec: `Product::from((product, values))` is not in the source. -/
def Product.fromModel (product : ProductModel) (properties : List PropertyValue) : Product :=
  { productId := product.productId
    productAddress := product.productAddress
    productNamespace := product.productNamespace
    owner := product.owner
    startCommitNum := product.startCommitNum
    endCommitNum := product.endCommitNum
    serviceId := product.serviceId
    properties := properties }

/-- The products store's `ProductStoreError`; only `get_property_values` fails here. -/
inductive ProductStoreError
  | internalError (message : String)
deriving DecidableEq, Repr

section GetProduct

variable (getPropertyValues :
  Db → List ProductPropertyValue → Except ProductStoreError (List PropertyValue))

/-- `get_product`. The loop over the root values pushes one value per root and returns at the first
error: `mapM` in `Except`. `get_property_values` is not in the source, and is the parameter
`getPropertyValues`: it turns the children of a root into property values, reading the store, and
may fail. -/
def getProduct (db : Db) (productId : String) (serviceId : Option String) :
    Except ProductStoreError (Option Product) :=
  match db.product.find? fun product =>
      product.productId == productId && product.endCommitNum == maxCommitNum &&
        scopeFilter product.serviceId serviceId with
  | none => .ok none
  | some product => do
      let rootValues := db.productPropertyValue.filter fun value =>
        value.productId == productId && value.parentProperty.isNone &&
          value.endCommitNum == maxCommitNum
      let values ← rootValues.mapM fun rootValue =>
        let children := db.productPropertyValue.filter fun value =>
          nullableEq value.parentProperty rootValue.parentProperty
        if children.isEmpty then pure (PropertyValue.fromModel rootValue)
        else PropertyValue.fromModelWithValues rootValue <$> getPropertyValues db children
      pure (some (Product.fromModel product values))

/-- What `get_product` returns: the first current product row of the key and scope, carrying every
current root value of the product id, in any scope, as a leaf. A root's children are looked up by
its own parent property, which is `NULL`, so there are none, and `get_property_values` is never
called. -/
theorem getProduct_eq (db : Db) (productId : String) (serviceId : Option String) :
    getProduct getPropertyValues db productId serviceId =
      .ok ((currentRows (·.productId) db.product productId serviceId).head?.map fun product =>
        Product.fromModel product ((db.productPropertyValue.filter fun value =>
          value.productId == productId && value.parentProperty.isNone &&
            value.endCommitNum == maxCommitNum).map PropertyValue.fromModel)) := by
  unfold getProduct
  rw [find?_eq_head?_currentRows fun (product : ProductModel) =>
    currentPredicate_scopeFilter product.productId product.endCommitNum product.serviceId
      productId serviceId]
  cases (currentRows (·.productId) db.product productId serviceId).head? with
  | none => rfl
  | some product =>
      dsimp only
      rw [@mapM_except_eq_pure _ _ _ _ PropertyValue.fromModel]
      · rfl
      · intro rootValue hroot
        have hnull : rootValue.parentProperty = none := by
          have hfilter := (List.mem_filter.mp hroot).2
          simp only [Bool.and_eq_true, Option.isNone_iff_eq_none] at hfilter
          exact hfilter.1.2
        simp [hnull]

/-- A product `p-1` whose current root property `color` owns a current property `shade`. -/
def colorProduct : ProductModel :=
  { productId := "p-1", productAddress := "a1", productNamespace := "GS1", owner := "org-1",
    startCommitNum := 5, endCommitNum := maxCommitNum, serviceId := none }

/-- The root property `color` of `p-1`. -/
def colorValue : ProductPropertyValue :=
  { productId := "p-1", productAddress := "a1", propertyName := "color", parentProperty := none,
    dataType := "STRUCT", bytesValue := none, booleanValue := none, numberValue := none,
    stringValue := none, enumValue := none, latitudeValue := none, longitudeValue := none,
    startCommitNum := 5, endCommitNum := maxCommitNum, serviceId := none }

/-- The property `shade` of `p-1`, owned by `color`. -/
def shadeValue : ProductPropertyValue :=
  { colorValue with
    propertyName := "shade", parentProperty := some "color", dataType := "STRING",
    stringValue := some "red" }

def colorProductDb : Db :=
  { Db.empty with product := [colorProduct], productPropertyValue := [colorValue, shadeValue] }

/-- `get_product` returns `color` as a leaf: `shade`, its current child, is lost. -/
theorem getProduct_colorProductDb :
    (getProduct · colorProductDb "p-1" none) =
      fun _ => .ok (some (Product.fromModel colorProduct [PropertyValue.fromModel colorValue])) := by
  funext getPropertyValues
  rfl

end GetProduct

/-! ### The first current row -/

theorem fetchAgent_none (db : Db) (pubKey : String) :
    fetchAgent db pubKey none = .error (.notFoundError ("Failed to find agent: " ++ pubKey)) := by
  rw [fetchAgent, List.find?_eq_none.mpr (by simp)]

theorem fetchAgent_some (db : Db) (pubKey serviceId : String) :
    fetchAgent db pubKey (some serviceId) =
      match (currentRows (·.publicKey) db.agent pubKey (some serviceId)).head? with
      | none => .error (.notFoundError ("Failed to find agent: " ++ pubKey))
      | some agent =>
          .ok (some (Agent.fromModels agent
            (currentRows (·.publicKey) db.role pubKey (some serviceId)))) := by
  rw [fetchAgent, find?_eq_head?_currentRows fun (agent : AgentModel) =>
      currentPredicate_nullableEq agent.publicKey agent.serviceId agent.endCommitNum pubKey
        serviceId,
    filter_eq_currentRows fun (role : RoleModel) =>
      currentPredicate_nullableEq role.publicKey role.serviceId role.endCommitNum pubKey serviceId]

theorem fetchOrganization_eq (db : Db) (orgId : String) (serviceId : Option String) :
    fetchOrganization db orgId serviceId =
      (currentRows (·.orgId) db.organization orgId serviceId).head?.map fun org =>
        Organization.fromModels org (currentRows (·.orgId) db.orgLocation orgId serviceId)
          (currentRows (·.orgId) db.alternateIdentifier orgId serviceId) := by
  rw [fetchOrganization, find?_eq_head?_currentRows fun (org : OrganizationModel) =>
      currentPredicate_scopeFilter org.orgId org.endCommitNum org.serviceId orgId serviceId,
    filter_eq_currentRows fun (loc : OrgLocationModel) =>
      currentPredicate_scopeFilter loc.orgId loc.endCommitNum loc.serviceId orgId serviceId,
    filter_eq_currentRows fun (id : AltIDModel) =>
      currentPredicate_scopeFilter id.orgId id.endCommitNum id.serviceId orgId serviceId]

/-- **First current row.** Each fetch takes, among the current rows of the key and scope, the first
in table order: it returns that row's entity however many current rows there are, and not-found
when there is none. The product carries every current root value of its id as a leaf. The agent
fetch is stated on the `Some` scopes. -/
theorem fetch_eq_first_currentRows
    (getPropertyValues :
      Db → List ProductPropertyValue → Except ProductStoreError (List PropertyValue))
    (db : Db) (key : String) (scope : Option String) (serviceId : String) :
    fetchOrganization db key scope =
        (currentRows (·.orgId) db.organization key scope).head?.map (fun org =>
          Organization.fromModels org (currentRows (·.orgId) db.orgLocation key scope)
            (currentRows (·.orgId) db.alternateIdentifier key scope)) ∧
      getProduct getPropertyValues db key scope =
        .ok ((currentRows (·.productId) db.product key scope).head?.map fun product =>
          Product.fromModel product ((db.productPropertyValue.filter fun value =>
            value.productId == key && value.parentProperty.isNone &&
              value.endCommitNum == maxCommitNum).map PropertyValue.fromModel)) ∧
      fetchAgent db key (some serviceId) =
        match (currentRows (·.publicKey) db.agent key (some serviceId)).head? with
        | none => .error (.notFoundError ("Failed to find agent: " ++ key))
        | some agent =>
            .ok (some (Agent.fromModels agent
              (currentRows (·.publicKey) db.role key (some serviceId)))) :=
  ⟨fetchOrganization_eq db key scope, getProduct_eq getPropertyValues db key scope,
    fetchAgent_some db key serviceId⟩

/-- A store with two current versions of organization `org-1`, `Acme` and then `Acme Corp`. -/
def duplicateOrganizationDb : Db :=
  { Db.empty with
    organization :=
      [{ orgId := "org-1", name := "Acme", address := "a1", metadata := [], startCommitNum := 10,
         endCommitNum := maxCommitNum, serviceId := none },
       { orgId := "org-1", name := "Acme Corp", address := "a1", metadata := [],
         startCommitNum := 12, endCommitNum := maxCommitNum, serviceId := none }] }

/-- `fetch_organization` reads the two current versions of `org-1` as the first, with no error. -/
theorem fetchOrganization_duplicateOrganizationDb :
    (fetchOrganization duplicateOrganizationDb "org-1" none).map (·.name) = some "Acme" := by
  decide

end GridStore
