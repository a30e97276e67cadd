import GridStore.Sql

/-!
# Rows and the store

The row types carry the columns that the store's queries and conversions read; the `models.rs` and
`schema.rs` files that declare them are not in the source, so the columns are those the source
names. A column no modelled query or conversion reads is left out: the surrogate `id` of every
table, `start_commit_num` where no conversion copies it, and the `location` row's namespace and
owner, which only the unmodelled `From<LocationModel>` conversions read. Every row carries the
slowly-changing-dimension column `end_commit_num` and the tenant column `service_id`. Diesel's `i64`
and `i32` columns are `Int`: the store only copies and compares them.
-/

namespace GridStore

/-- A row of the `agent` table. -/
structure AgentModel where
  publicKey : String
  orgId : String
  active : Bool
  metadata : List UInt8
  startCommitNum : Int
  endCommitNum : Int
  serviceId : Option String
deriving DecidableEq, Repr

/-- A row of the `role` table: one role an agent holds. -/
structure RoleModel where
  publicKey : String
  roleName : String
  endCommitNum : Int
  serviceId : Option String
deriving DecidableEq, Repr

/-- A row of the `organization` table. -/
structure OrganizationModel where
  orgId : String
  name : String
  address : String
  metadata : List UInt8
  startCommitNum : Int
  endCommitNum : Int
  serviceId : Option String
deriving DecidableEq, Repr

/-- A row of the `org_location` table, the organizations store's `LocationModel`. -/
structure OrgLocationModel where
  orgId : String
  locationId : String
  endCommitNum : Int
  serviceId : Option String
deriving DecidableEq, Repr

/-- A row of the `alternate_identifier` table. -/
structure AltIDModel where
  orgId : String
  alternateIdType : String
  alternateId : String
  endCommitNum : Int
  serviceId : Option String
deriving DecidableEq, Repr

/-- A row of the `product` table, the products store's `models::Product`. -/
structure ProductModel where
  productId : String
  productAddress : String
  productNamespace : String
  owner : String
  startCommitNum : Int
  endCommitNum : Int
  serviceId : Option String
deriving DecidableEq, Repr

/-- A row of the `product_property_value` table: one node of a product's property tree, linked to
its parent by the parent's property name. -/
structure ProductPropertyValue where
  productId : String
  productAddress : String
  propertyName : String
  parentProperty : Option String
  dataType : String
  bytesValue : Option (List UInt8)
  booleanValue : Option Bool
  numberValue : Option Int
  stringValue : Option String
  enumValue : Option Int
  latitudeValue : Option Int
  longitudeValue : Option Int
  startCommitNum : Int
  endCommitNum : Int
  serviceId : Option String
deriving DecidableEq, Repr

/-- A row of the `location` table. -/
structure LocationModel where
  locationId : String
  endCommitNum : Int
  serviceId : Option String
deriving DecidableEq, Repr

/-- A row of the `location_attribute` table. `NewLocationAttributeModel`, the row as it is
inserted, has the same columns, and is this type too. -/
structure LocationAttributeModel where
  locationId : String
  locationAddress : String
  propertyName : String
  parentPropertyName : Option String
  dataType : String
  bytesValue : Option (List UInt8)
  booleanValue : Option Bool
  numberValue : Option Int
  stringValue : Option String
  enumValue : Option Int
  latitudeValue : Option Int
  longitudeValue : Option Int
  startCommitNum : Int
  endCommitNum : Int
  serviceId : Option String
deriving DecidableEq, Repr

/-- A row of the `grid_schema` table, the daemon's `GridSchema`. -/
structure GridSchema where
  name : String
  description : String
  owner : String
  endCommitNum : Int
  serviceId : Option String
deriving DecidableEq, Repr

/-- A row of the `grid_property_definition` table, the daemon's `GridPropertyDefinition`. -/
structure GridPropertyDefinition where
  name : String
  schemaName : String
  dataType : String
  required : Bool
  description : String
  numberExponent : Int
  enumOptions : List String
  structProperties : List String
  endCommitNum : Int
  serviceId : Option String
deriving DecidableEq, Repr

instance : VersionedRow AgentModel := ⟨(·.serviceId), (·.endCommitNum)⟩
instance : VersionedRow RoleModel := ⟨(·.serviceId), (·.endCommitNum)⟩
instance : VersionedRow OrganizationModel := ⟨(·.serviceId), (·.endCommitNum)⟩
instance : VersionedRow OrgLocationModel := ⟨(·.serviceId), (·.endCommitNum)⟩
instance : VersionedRow AltIDModel := ⟨(·.serviceId), (·.endCommitNum)⟩
instance : VersionedRow ProductModel := ⟨(·.serviceId), (·.endCommitNum)⟩
instance : VersionedRow ProductPropertyValue := ⟨(·.serviceId), (·.endCommitNum)⟩
instance : VersionedRow LocationModel := ⟨(·.serviceId), (·.endCommitNum)⟩
instance : VersionedRow LocationAttributeModel := ⟨(·.serviceId), (·.endCommitNum)⟩
instance : VersionedRow GridSchema := ⟨(·.serviceId), (·.endCommitNum)⟩
instance : VersionedRow GridPropertyDefinition := ⟨(·.serviceId), (·.endCommitNum)⟩

/-- The store: every table the modelled operations read or write. -/
structure Db where
  agent : List AgentModel
  role : List RoleModel
  organization : List OrganizationModel
  orgLocation : List OrgLocationModel
  alternateIdentifier : List AltIDModel
  product : List ProductModel
  productPropertyValue : List ProductPropertyValue
  location : List LocationModel
  locationAttribute : List LocationAttributeModel
  gridSchema : List GridSchema
  gridPropertyDefinition : List GridPropertyDefinition

/-- The store with every table empty. -/
def Db.empty : Db :=
  ⟨[], [], [], [], [], [], [], [], [], [], []⟩

end GridStore
