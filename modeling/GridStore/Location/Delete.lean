import GridStore.Models

/-!
# Deleting a location

`delete_location` runs in one transaction. It looks for a `location` row of the key and scope,
fails with `NotFoundError` when there is none, and otherwise deletes every `location` and
`location_attribute` row of the key and scope. The delete is physical: the operation takes no
commit number, sets no `end_commit_num`, and its filters do not look at `end_commit_num`, so the
closed versions of the location go with the current one. Both filters compare the scope by
`service_id.eq(&service_id)`, which on the `None` scope selects nothing. A second delete of the
same key and scope finds nothing and changes nothing (`deleteLocation_deleteLocation`).
-/

namespace GridStore

/-- The errors `delete_location` returns on its own; the query and operation errors of a failing
connection are not modelled. -/
inductive LocationStoreError
  | notFoundError (message : String)
deriving DecidableEq, Repr

/-- `location::location_id.eq(&location_id)` and `location::service_id.eq(&service_id)`. -/
def locationMatches (locationId : String) (serviceId : Option String) (row : LocationModel) : Bool :=
  row.locationId == locationId && nullableEq row.serviceId serviceId

/-- `location_attribute::location_id.eq(&location_id)` and
`location_attribute::service_id.eq(&service_id)`. -/
def locationAttributeMatches (locationId : String) (serviceId : Option String)
    (row : LocationAttributeModel) : Bool :=
  row.locationId == locationId && nullableEq row.serviceId serviceId

/-- `delete_location`; the postgres and sqlite bodies are the same. -/
def deleteLocation (locationId : String) (serviceId : Option String) :
    Db → Except LocationStoreError Unit × Db :=
  transaction fun db =>
    match db.location.find? (locationMatches locationId serviceId) with
    | none => .error (.notFoundError ("Failed to find location: " ++ locationId))
    | some _ =>
        let db := { db with
          location := db.location.filter fun row => !locationMatches locationId serviceId row }
        .ok { db with
          locationAttribute := db.locationAttribute.filter fun row =>
            !locationAttributeMatches locationId serviceId row }

/-- What `delete_location` does to a store: fail and keep it, or delete every row of the key and
scope from both tables. -/
theorem deleteLocation_eq (locationId : String) (serviceId : Option String) (db : Db) :
    deleteLocation locationId serviceId db =
      if db.location.any (locationMatches locationId serviceId) then
        (.ok (), { db with
          location := db.location.filter fun row => !locationMatches locationId serviceId row
          locationAttribute := db.locationAttribute.filter fun row =>
            !locationAttributeMatches locationId serviceId row })
      else (.error (.notFoundError ("Failed to find location: " ++ locationId)), db) := by
  unfold deleteLocation
  cases hfind : db.location.find? (locationMatches locationId serviceId) with
  | none =>
      rw [if_neg (by simpa [List.find?_eq_none] using hfind)]
      exact transaction_of_error (by simp [hfind])
  | some row =>
      rw [if_pos (List.any_eq_true.mpr ⟨row, List.mem_of_find?_eq_some hfind,
        List.find?_some hfind⟩)]
      exact transaction_of_ok (by simp [hfind])

theorem locationMatches_some (locationId serviceId : String) (row : LocationModel) :
    locationMatches locationId (some serviceId) row =
      decide (row.locationId = locationId ∧ row.serviceId = some serviceId) := by
  simp [locationMatches, nullableEq_some, Bool.beq_eq_decide_eq]

theorem locationAttributeMatches_some (locationId serviceId : String)
    (row : LocationAttributeModel) :
    locationAttributeMatches locationId (some serviceId) row =
      decide (row.locationId = locationId ∧ row.serviceId = some serviceId) := by
  simp [locationAttributeMatches, nullableEq_some, Bool.beq_eq_decide_eq]

/-- On the `None` scope, `service_id = NULL` selects no row, so `delete_location` always fails and
changes nothing. -/
theorem deleteLocation_none (locationId : String) (db : Db) :
    deleteLocation locationId none db =
      (.error (.notFoundError ("Failed to find location: " ++ locationId)), db) := by
  rw [deleteLocation_eq, if_neg]
  simp [locationMatches]

/-- **Repeated delete.** Deleting a location a second time, on any scope, fails with `NotFoundError`
and leaves the store as the first delete left it. -/
theorem deleteLocation_deleteLocation (locationId : String) (scope : Option String) (db : Db) :
    deleteLocation locationId scope (deleteLocation locationId scope db).2 =
      (.error (.notFoundError ("Failed to find location: " ++ locationId)),
        (deleteLocation locationId scope db).2) := by
  rw [deleteLocation_eq locationId scope (deleteLocation locationId scope db).2, if_neg]
  rw [deleteLocation_eq]
  split_ifs with hfound
  · simp
  · exact hfound

/-- **Hard delete.** On a `Some` scope, `delete_location` fails and keeps the store exactly when no
`location` row of the key and scope exists, current or closed; otherwise it removes every
`location` and `location_attribute` row of the key and scope, every version, and keeps every other
row, unmodified and in order. -/
theorem deleteLocation_some (db : Db) (locationId serviceId : String) :
    deleteLocation locationId (some serviceId) db =
      if ∃ row ∈ db.location, row.locationId = locationId ∧ row.serviceId = some serviceId then
        (.ok (), { db with
          location := db.location.filter fun row =>
            !(row.locationId = locationId ∧ row.serviceId = some serviceId)
          locationAttribute := db.locationAttribute.filter fun row =>
            !(row.locationId = locationId ∧ row.serviceId = some serviceId) })
      else (.error (.notFoundError ("Failed to find location: " ++ locationId)), db) := by
  simp only [deleteLocation_eq, List.any_eq_true, locationMatches_some, locationAttributeMatches_some,
    decide_eq_true_eq]

/-- A store holding one closed version of location `loc-1`: it ended at commit 7, and nothing
replaced it. -/
def closedLocationDb : Db :=
  { Db.empty with
    location :=
      [{ locationId := "loc-1", endCommitNum := 7, serviceId := some "circuit-1" }] }

/-- Deleting `loc-1` from `closedLocationDb` succeeds, though no version of it is current, and the
closed version is gone afterwards. -/
theorem deleteLocation_closedLocationDb :
    deleteLocation "loc-1" (some "circuit-1") closedLocationDb =
      (.ok (), { closedLocationDb with location := [] }) := by
  rfl

end GridStore
