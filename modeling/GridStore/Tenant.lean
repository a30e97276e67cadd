import GridStore.Fetch
import GridStore.Location.Delete

/-!
# Tenant isolation

Two stores agree on a scope when every tenant-scoped table holds the same rows of that scope, in
the same order. A tenant should not be able to tell two such stores apart: each of its reads should
answer the same from both, and what another tenant does should leave its rows where they were.

`fetch_agent`, `fetch_organization` and `delete_location` select rows of their own scope only, so
they answer the same from agreeing stores (`fetchAgent_eq_of_agreeOn`, `fetchOrganization_eq_of_agreeOn`,
`deleteLocation_agreeOn`), and a delete leaves every other scope as it was (`deleteLocation_frame`).
Over a whole run of such requests from any tenants, the answers a tenant gets and its rows at the
end depend on its own rows only (`serveRequests_agreeOn`), and on its own requests only: removing
every other tenant's requests from the run changes neither (`serveRequests_purge`).

`get_product` does not: it scopes the product row, but loads the root property values of the
product id from every scope (`getProduct_foreignValueDb`). Those roots and the scope's product rows
are all it reads (`getProduct_eq_of_sameScopeRows`).
-/

namespace GridStore

/-- Two stores hold the same rows of scope `scope` in every tenant-scoped table. -/
structure AgreeOn (scope : Option String) (db db' : Db) : Prop where
  agent : SameScopeRows scope db.agent db'.agent
  role : SameScopeRows scope db.role db'.role
  organization : SameScopeRows scope db.organization db'.organization
  orgLocation : SameScopeRows scope db.orgLocation db'.orgLocation
  alternateIdentifier : SameScopeRows scope db.alternateIdentifier db'.alternateIdentifier
  product : SameScopeRows scope db.product db'.product
  productPropertyValue : SameScopeRows scope db.productPropertyValue db'.productPropertyValue
  location : SameScopeRows scope db.location db'.location
  locationAttribute : SameScopeRows scope db.locationAttribute db'.locationAttribute

section Agreement

variable {scope other : Option String} {db db' db'' : Db}

theorem AgreeOn.refl (scope : Option String) (db : Db) : AgreeOn scope db db :=
  ⟨rfl, rfl, rfl, rfl, rfl, rfl, rfl, rfl, rfl⟩

theorem AgreeOn.symm (h : AgreeOn scope db db') : AgreeOn scope db' db :=
  ⟨h.agent.symm, h.role.symm, h.organization.symm, h.orgLocation.symm,
    h.alternateIdentifier.symm, h.product.symm, h.productPropertyValue.symm, h.location.symm,
    h.locationAttribute.symm⟩

theorem AgreeOn.trans (h : AgreeOn scope db db') (h' : AgreeOn scope db' db'') :
    AgreeOn scope db db'' :=
  ⟨h.agent.trans h'.agent, h.role.trans h'.role, h.organization.trans h'.organization,
    h.orgLocation.trans h'.orgLocation, h.alternateIdentifier.trans h'.alternateIdentifier,
    h.product.trans h'.product, h.productPropertyValue.trans h'.productPropertyValue,
    h.location.trans h'.location, h.locationAttribute.trans h'.locationAttribute⟩

/-! ### Reads -/

theorem fetchAgent_eq_of_agreeOn (h : AgreeOn scope db db') (pubKey : String) :
    fetchAgent db pubKey scope = fetchAgent db' pubKey scope := by
  cases scope with
  | none => rw [fetchAgent_none, fetchAgent_none]
  | some serviceId =>
      rw [fetchAgent_some, fetchAgent_some, currentRows_eq_of_sameScopeRows _ _ h.agent,
        currentRows_eq_of_sameScopeRows _ _ h.role]

theorem fetchOrganization_eq_of_agreeOn (h : AgreeOn scope db db') (orgId : String) :
    fetchOrganization db orgId scope = fetchOrganization db' orgId scope := by
  rw [fetchOrganization_eq, fetchOrganization_eq, currentRows_eq_of_sameScopeRows _ _ h.organization,
    currentRows_eq_of_sameScopeRows _ _ h.orgLocation,
    currentRows_eq_of_sameScopeRows _ _ h.alternateIdentifier]

/-! ### Deleting a location -/

theorem locationMatches_scope (locationId : String) (scope : Option String) (row : LocationModel)
    (hrow : locationMatches locationId scope row = true) : VersionedRow.serviceId row = scope :=
  eq_of_nullableEq ((Bool.and_eq_true _ _).mp hrow).2

theorem locationAttributeMatches_scope (locationId : String) (scope : Option String)
    (row : LocationAttributeModel) (hrow : locationAttributeMatches locationId scope row = true) :
    VersionedRow.serviceId row = scope :=
  eq_of_nullableEq ((Bool.and_eq_true _ _).mp hrow).2

/-- `delete_location` answers the same from two stores that agree on its scope, and leaves them
agreeing on it. -/
theorem deleteLocation_agreeOn (h : AgreeOn scope db db') (locationId : String) :
    (deleteLocation locationId scope db).1 = (deleteLocation locationId scope db').1 ∧
      AgreeOn scope (deleteLocation locationId scope db).2 (deleteLocation locationId scope db').2 := by
  rw [deleteLocation_eq, deleteLocation_eq,
    any_eq_of_sameScopeRows (locationMatches_scope locationId scope) h.location]
  split
  · exact ⟨rfl, { h with
      location := sameScopeRows_filter_not_of_sameScopeRows h.location
      locationAttribute := sameScopeRows_filter_not_of_sameScopeRows h.locationAttribute }⟩
  · exact ⟨rfl, h⟩

/-- **Delete frame.** `delete_location` leaves the rows of every other scope as they were. -/
theorem deleteLocation_frame (hother : other ≠ scope) (locationId : String) (db : Db) :
    AgreeOn other (deleteLocation locationId scope db).2 db := by
  rw [deleteLocation_eq]
  split
  · exact { AgreeOn.refl other db with
      location := sameScopeRows_filter_not (locationMatches_scope locationId scope) hother
      locationAttribute :=
        sameScopeRows_filter_not (locationAttributeMatches_scope locationId scope) hother }
  · exact AgreeOn.refl other db

end Agreement

/-! ### Runs of requests

The store serves requests from several tenants, one after another, each in the scope it was made
in. The run below takes the agent, organization and location operations; `get_product` is left out,
since its answers leak across scopes. -/

/-- A request to the agent, organization or location store. -/
inductive StoreRequest
  | fetchAgent (pubKey : String)
  | fetchOrganization (orgId : String)
  | deleteLocation (locationId : String)

/-- The answer to a `StoreRequest`. -/
inductive StoreResponse
  | agent (result : Except AgentStoreError (Option Agent))
  | organization (result : Option Organization)
  | location (result : Except LocationStoreError Unit)

/-- One request, served in scope `scope`. -/
def serveRequest (scope : Option String) : StoreRequest → Db → StoreResponse × Db
  | .fetchAgent pubKey, db => (.agent (fetchAgent db pubKey scope), db)
  | .fetchOrganization orgId, db => (.organization (fetchOrganization db orgId scope), db)
  | .deleteLocation locationId, db =>
      (.location (deleteLocation locationId scope db).1, (deleteLocation locationId scope db).2)

/-- Requests served one after another; each answer is tagged with the scope of its request. -/
def serveRequests :
    List (Option String × StoreRequest) → Db → List (Option String × StoreResponse) × Db
  | [], db => ([], db)
  | (scope, request) :: requests, db =>
      let rest := serveRequests requests (serveRequest scope request db).2
      ((scope, (serveRequest scope request db).1) :: rest.1, rest.2)

section Run

variable {s : Option String} {db db' : Db}

/-- One request keeps two stores agreeing on `s`, whatever its scope, and is answered the same from
both when it is made in `s`. -/
theorem serveRequest_agreeOn (h : AgreeOn s db db') (scope : Option String)
    (request : StoreRequest) :
    AgreeOn s (serveRequest scope request db).2 (serveRequest scope request db').2 ∧
      (scope = s → (serveRequest scope request db).1 = (serveRequest scope request db').1) := by
  cases request with
  | fetchAgent pubKey =>
      exact ⟨h, fun hs => congrArg StoreResponse.agent (hs ▸ fetchAgent_eq_of_agreeOn h pubKey)⟩
  | fetchOrganization orgId =>
      exact ⟨h, fun hs =>
        congrArg StoreResponse.organization (hs ▸ fetchOrganization_eq_of_agreeOn h orgId)⟩
  | deleteLocation locationId =>
      by_cases hs : scope = s
      · subst hs
        obtain ⟨hresult, hagree⟩ := deleteLocation_agreeOn h locationId
        exact ⟨hagree, fun _ => congrArg StoreResponse.location hresult⟩
      · exact ⟨((deleteLocation_frame (Ne.symm hs) locationId db).trans h).trans
          (deleteLocation_frame (Ne.symm hs) locationId db').symm, fun hs' => absurd hs' hs⟩

/-- **Tenant noninterference.** From two stores that agree on scope `s`, any run of requests from
any tenants gives the same answers to the requests made in `s`, and ends in two stores that still
agree on `s`. -/
theorem serveRequests_agreeOn (requests : List (Option String × StoreRequest))
    (h : AgreeOn s db db') :
    (serveRequests requests db).1.filter (·.1 == s) =
        (serveRequests requests db').1.filter (·.1 == s) ∧
      AgreeOn s (serveRequests requests db).2 (serveRequests requests db').2 := by
  induction requests generalizing db db' with
  | nil => exact ⟨rfl, h⟩
  | cons request requests ih =>
      obtain ⟨scope, request⟩ := request
      obtain ⟨hstate, hresponse⟩ := serveRequest_agreeOn h scope request
      obtain ⟨hresponses, hrest⟩ := ih hstate
      refine ⟨?_, hrest⟩
      by_cases hs : scope = s
      · subst hs
        simp only [serveRequests, List.filter_cons, beq_self_eq_true, if_true, hresponse rfl,
          hresponses]
      · simp only [serveRequests, List.filter_cons, beq_iff_eq, hs, if_false, hresponses]

/-- A request of another tenant leaves the rows of scope `s` as they were. -/
theorem serveRequest_frame {scope : Option String} (hs : scope ≠ s) (request : StoreRequest)
    (db : Db) : AgreeOn s (serveRequest scope request db).2 db := by
  cases request with
  | fetchAgent _ => exact AgreeOn.refl s db
  | fetchOrganization _ => exact AgreeOn.refl s db
  | deleteLocation locationId => exact deleteLocation_frame (Ne.symm hs) locationId db

/-- The unwinding lemma: a run from `db` looks, to scope `s`, like the run of `s`'s own requests
from any store that agrees with `db` on `s`. -/
theorem serveRequests_purge_of_agreeOn (requests : List (Option String × StoreRequest))
    (h : AgreeOn s db db') :
    (serveRequests requests db).1.filter (·.1 == s) =
        (serveRequests (requests.filter (·.1 == s)) db').1 ∧
      AgreeOn s (serveRequests requests db).2 (serveRequests (requests.filter (·.1 == s)) db').2 := by
  induction requests generalizing db db' with
  | nil => exact ⟨rfl, h⟩
  | cons request requests ih =>
      obtain ⟨scope, request⟩ := request
      by_cases hs : scope = s
      · subst hs
        obtain ⟨hstate, hresponse⟩ := serveRequest_agreeOn h scope request
        obtain ⟨hresponses, hrest⟩ := ih hstate
        simp only [serveRequests, List.filter_cons, beq_self_eq_true, if_true, hresponse rfl,
          hresponses, true_and]
        exact hrest
      · obtain ⟨hresponses, hrest⟩ := ih ((serveRequest_frame hs request db).trans h)
        simp only [serveRequests, List.filter_cons, beq_iff_eq, hs, if_false, hresponses, true_and]
        exact hrest

/-- **Purge noninterference.** Removing every other tenant's requests from a run changes neither the
answers tenant `s` gets nor its rows at the end. -/
theorem serveRequests_purge (requests : List (Option String × StoreRequest)) (db : Db) :
    (serveRequests requests db).1.filter (·.1 == s) =
        (serveRequests (requests.filter (·.1 == s)) db).1 ∧
      AgreeOn s (serveRequests requests db).2 (serveRequests (requests.filter (·.1 == s)) db).2 :=
  serveRequests_purge_of_agreeOn requests (AgreeOn.refl s db)

end Run

/-! ### The `NULL` scope -/

/-- A shared-ledger store: agent `agent-1` and location `loc-1`, both current, in the `NULL`
scope. -/
def sharedLedgerDb : Db :=
  { Db.empty with
    agent :=
      [{ publicKey := "agent-1", orgId := "org-1", active := true, metadata := [],
         startCommitNum := 1, endCommitNum := maxCommitNum, serviceId := none }]
    location :=
      [{ locationId := "loc-1", endCommitNum := maxCommitNum, serviceId := none }] }

/-- In the `NULL` scope, `fetch_agent` finds no agent though one is current, and `delete_location`
finds no location though one is stored. -/
theorem fetchAgent_sharedLedgerDb :
    (currentRows (·.publicKey) sharedLedgerDb.agent "agent-1" none).length = 1 ∧
      fetchAgent sharedLedgerDb "agent-1" none =
        .error (.notFoundError "Failed to find agent: agent-1") ∧
      (sharedLedgerDb.location.filter fun row => row.locationId = "loc-1" ∧ row.serviceId = none)
        = sharedLedgerDb.location ∧
      deleteLocation "loc-1" none sharedLedgerDb =
        (.error (.notFoundError "Failed to find location: loc-1"), sharedLedgerDb) :=
  ⟨by decide, rfl, by decide, rfl⟩

/-! ### Products across scopes -/

/-- Product `p-1` of tenant `circuit-1`, with no property of its own. -/
def tenantProduct : ProductModel :=
  { productId := "p-1", productAddress := "a1", productNamespace := "GS1", owner := "org-1",
    startCommitNum := 5, endCommitNum := maxCommitNum, serviceId := some "circuit-1" }

def tenantProductDb : Db :=
  { Db.empty with product := [tenantProduct] }

/-- A root property of tenant `circuit-2`'s own product `p-1`. -/
def foreignValue : ProductPropertyValue :=
  { productId := "p-1", productAddress := "a2", propertyName := "weight", parentProperty := none,
    dataType := "NUMBER", bytesValue := none, booleanValue := none, numberValue := some 12,
    stringValue := none, enumValue := none, latitudeValue := none, longitudeValue := none,
    startCommitNum := 8, endCommitNum := maxCommitNum, serviceId := some "circuit-2" }

/-- `tenantProductDb` after tenant `circuit-2` has stored its product `p-1` with one property. -/
def foreignValueDb : Db :=
  { tenantProductDb with
    product := [tenantProduct, { tenantProduct with productAddress := "a2", serviceId := some "circuit-2" }]
    productPropertyValue := [foreignValue] }

theorem tenantProductDb_agreeOn_foreignValueDb :
    AgreeOn (some "circuit-1") tenantProductDb foreignValueDb :=
  ⟨rfl, rfl, rfl, rfl, rfl, by decide, by decide, rfl, rfl⟩

/-- Tenant `circuit-1` reads its product `p-1` with the property of tenant `circuit-2`'s
product. -/
theorem getProduct_foreignValueDb :
    AgreeOn (some "circuit-1") tenantProductDb foreignValueDb ∧
      (getProduct · tenantProductDb "p-1" (some "circuit-1")) =
        (fun _ => .ok (some (Product.fromModel tenantProduct []))) ∧
      (getProduct · foreignValueDb "p-1" (some "circuit-1")) =
        fun _ => .ok (some (Product.fromModel tenantProduct [PropertyValue.fromModel foreignValue])) :=
  ⟨tenantProductDb_agreeOn_foreignValueDb, funext fun _ => rfl, funext fun _ => rfl⟩

/-- **What `get_product` reads.** Its answer is fixed by the product rows of its scope and by the
current root values of the product id, from every scope. It reads no other value row and never
calls `get_property_values`. -/
theorem getProduct_eq_of_sameScopeRows
    (getPropertyValues getPropertyValues' :
      Db → List ProductPropertyValue → Except ProductStoreError (List PropertyValue))
    {db db' : Db} {productId : String} {scope : Option String}
    (hproduct : SameScopeRows scope db.product db'.product)
    (hroots : (db.productPropertyValue.filter fun value => value.productId == productId &&
        value.parentProperty.isNone && value.endCommitNum == maxCommitNum) =
      db'.productPropertyValue.filter fun value => value.productId == productId &&
        value.parentProperty.isNone && value.endCommitNum == maxCommitNum) :
    getProduct getPropertyValues db productId scope =
      getProduct getPropertyValues' db' productId scope := by
  rw [getProduct_eq, getProduct_eq, currentRows_eq_of_sameScopeRows _ _ hproduct, hroots]

/-- A value of `circuit-2`'s product `p-1` below its root `weight`. -/
def foreignChildValue : ProductPropertyValue :=
  { foreignValue with propertyName := "unit", parentProperty := some "weight" }

/-- `foreignValueDb` without `circuit-2`'s product row, and with a child value. -/
def foreignChildDb : Db :=
  { foreignValueDb with
    product := [tenantProduct]
    productPropertyValue := [foreignValue, foreignChildValue] }

theorem getProduct_foreignChildDb :
    SameScopeRows (some "circuit-1") foreignValueDb.product foreignChildDb.product ∧
      (foreignValueDb.productPropertyValue.filter fun value => value.productId == "p-1" &&
          value.parentProperty.isNone && value.endCommitNum == maxCommitNum) =
        (foreignChildDb.productPropertyValue.filter fun value => value.productId == "p-1" &&
          value.parentProperty.isNone && value.endCommitNum == maxCommitNum) ∧
      getProduct (fun _ _ => .error (.internalError "failed")) foreignValueDb "p-1"
          (some "circuit-1") =
        getProduct (fun _ _ => .ok []) foreignChildDb "p-1" (some "circuit-1") :=
  ⟨by decide, by decide, getProduct_eq_of_sameScopeRows _ _ (by decide) (by decide)⟩

/-- Two agreeing stores, and a run in which tenant `circuit-2` fetches and deletes. -/
theorem serveRequests_foreignValueDb :
    AgreeOn (some "circuit-1") tenantProductDb foreignValueDb ∧
      ((serveRequests [(some "circuit-2", .deleteLocation "loc-1"),
          (some "circuit-1", .fetchAgent "agent-1")] tenantProductDb).1.filter
            (·.1 == some "circuit-1") =
        (serveRequests [(some "circuit-2", .deleteLocation "loc-1"),
          (some "circuit-1", .fetchAgent "agent-1")] foreignValueDb).1.filter
            (·.1 == some "circuit-1") ∧
      AgreeOn (some "circuit-1")
        (serveRequests [(some "circuit-2", .deleteLocation "loc-1"),
          (some "circuit-1", .fetchAgent "agent-1")] tenantProductDb).2
        (serveRequests [(some "circuit-2", .deleteLocation "loc-1"),
          (some "circuit-1", .fetchAgent "agent-1")] foreignValueDb).2) :=
  ⟨tenantProductDb_agreeOn_foreignValueDb,
    serveRequests_agreeOn _ tenantProductDb_agreeOn_foreignValueDb⟩

end GridStore
