import Mathlib.Data.List.Basic

/-!
# Queries over slowly-changing-dimension tables

A table is the list of its rows in physical order, and a diesel query is a predicate over rows:
`.load()` keeps the rows it holds on (`List.filter`), `.first()` returns the first of them
(`List.find?`), and `delete(..)` removes them. No query of the store sorts, so the physical order
is the order of the list.

Two readings of the tenant scope live side by side in the source. `service_id.eq(&service_id)`
binds the `Option` itself, diesel sends `service_id = $1`, and SQL's `=` is never true when either
side is `NULL`: that is `nullableEq`. The boxed queries branch instead, on `service_id.eq(s)` for
`Some s` and on `service_id.is_null()` for `None`: that is `scopeFilter`, and it is plain equality of
scopes (`scopeFilter_iff`). The two agree on every `Some` scope and select nothing in common on `None`.
-/

namespace GridStore

/-- Modelled from the spec: `MAX_COMMIT_NUM` is not in the source. It is the `MAX_COMMIT` sentinel
of §3, the `end_commit_num` of a row that is still current; no result depends on its value. -/
def maxCommitNum : Int := 9223372036854775807

/-- `column.eq(&value)` on a nullable column: SQL's `=` is unknown, and so filters the row out, as
soon as either side is `NULL`. -/
def nullableEq (column value : Option String) : Bool :=
  match column, value with
  | some column, some value => column == value
  | _, _ => false

/-- The scope filter of the boxed queries: `service_id.eq(s)` for `Some s`, and
`service_id.is_null()` for `None`. -/
def scopeFilter (column : Option String) : Option String → Bool
  | some serviceId => nullableEq column (some serviceId)
  | none => column.isNone

@[simp]
theorem nullableEq_none (column : Option String) : nullableEq column none = false := by
  cases column <;> rfl

@[simp]
theorem nullableEq_some_iff {column : Option String} {value : String} :
    nullableEq column (some value) = true ↔ column = some value := by
  cases column <;> simp [nullableEq]

/-- A row that `column.eq(&value)` selects has the scope `value`. -/
theorem eq_of_nullableEq {column value : Option String} (h : nullableEq column value = true) :
    column = value := by
  cases value <;> simp_all

theorem nullableEq_some (column : Option String) (value : String) :
    nullableEq column (some value) = decide (column = some value) :=
  Bool.eq_iff_iff.mpr (by simp)

@[simp]
theorem scopeFilter_iff {column scope : Option String} :
    scopeFilter column scope = true ↔ column = scope := by
  cases scope <;> simp [scopeFilter, Option.isNone_iff_eq_none]

/-- The two constructions of the scope filter agree exactly on the `Some` scopes. -/
theorem nullableEq_eq_scopeFilter_iff {scope : Option String} :
    (∀ column, nullableEq column scope = scopeFilter column scope) ↔ scope.isSome := by
  cases scope with
  | none => simp [scopeFilter]
  | some serviceId => simp [scopeFilter]

/-- The filter `key.eq(k).and(end_commit_num.eq(MAX_COMMIT_NUM))` with the boxed scope filter is
the current-row predicate, on every scope. -/
theorem currentPredicate_scopeFilter (key : String) (endCommitNum : Int) (column : Option String)
    (k : String) (scope : Option String) :
    (key == k && endCommitNum == maxCommitNum && scopeFilter column scope) =
      decide (key = k ∧ column = scope ∧ endCommitNum = maxCommitNum) :=
  Bool.eq_iff_iff.mpr <| by
    simp only [Bool.and_eq_true, beq_iff_eq, scopeFilter_iff, decide_eq_true_eq]
    tauto

/-- The filter `key.eq(k).and(service_id.eq(&service_id)).and(end_commit_num.eq(MAX_COMMIT_NUM))`
is the current-row predicate on every `Some` scope. -/
theorem currentPredicate_nullableEq (key : String) (column : Option String) (endCommitNum : Int)
    (k serviceId : String) :
    (key == k && nullableEq column (some serviceId) && endCommitNum == maxCommitNum) =
      decide (key = k ∧ column = some serviceId ∧ endCommitNum = maxCommitNum) :=
  Bool.eq_iff_iff.mpr (by simp only [Bool.and_eq_true, beq_iff_eq, nullableEq_some_iff,
    decide_eq_true_eq, and_assoc])

/-- `conn.transaction(|| body)`: the body's writes stay when it returns `Ok`, and are rolled back
when it returns `Err`. -/
def transaction {σ ε : Type} (body : σ → Except ε σ) (db : σ) : Except ε Unit × σ :=
  match body db with
  | .ok db' => (.ok (), db')
  | .error err => (.error err, db)

section Transaction

variable {σ ε : Type} {body : σ → Except ε σ} {db db' : σ} {err : ε}

theorem transaction_of_ok (h : body db = .ok db') : transaction body db = (.ok (), db') := by
  simp [transaction, h]

/-- A failed transaction leaves the store as it found it. -/
theorem transaction_of_error (h : body db = .error err) :
    transaction body db = (.error err, db) := by
  simp [transaction, h]

/-- A loop that pushes `f value` for each value and returns at the first error returns every
`g value` when no step fails. -/
theorem mapM_except_eq_pure {α β : Type} {f : α → Except ε β} {g : α → β} :
    ∀ {values : List α}, (∀ value ∈ values, f value = pure (g value)) →
      values.mapM f = pure (values.map g)
  | [], _ => rfl
  | value :: values, h => by
      rw [List.mapM_cons, h value (List.mem_cons_self _ _),
        mapM_except_eq_pure fun other hother => h other (List.mem_cons_of_mem _ hother)]
      rfl

end Transaction

/-! ### Rows of one scope

Every row of the store carries the slowly-changing-dimension columns. Tenant isolation compares two
stores through the rows of one scope only: a query that can only select rows of that scope reads the
same rows from both, and a delete that can only remove rows of one scope leaves the rows of every
other scope where they were. -/

/-- A row of a slowly-changing-dimension table: its tenant scope and the commit it ended at. -/
class VersionedRow (ρ : Type) where
  serviceId : ρ → Option String
  endCommitNum : ρ → Int

section Scope

variable {ρ : Type} [VersionedRow ρ]

/-- The current rows of key `key` in scope `scope`, the scope compared as a value, `None` being the
`NULL` scope: the rows the spec's `read_current` selects, in table order. -/
def currentRows (keyOf : ρ → String) (rows : List ρ) (key : String) (scope : Option String) :
    List ρ :=
  rows.filter fun row => keyOf row = key ∧ VersionedRow.serviceId row = scope ∧
    VersionedRow.endCommitNum row = maxCommitNum

/-- A query whose filter is the current-row predicate of a key and scope loads `currentRows`. -/
theorem filter_eq_currentRows {keyOf : ρ → String} {key : String} {scope : Option String}
    {p : ρ → Bool} (hp : ∀ row, p row = decide (keyOf row = key ∧
      VersionedRow.serviceId row = scope ∧ VersionedRow.endCommitNum row = maxCommitNum))
    (rows : List ρ) : rows.filter p = currentRows keyOf rows key scope := by
  rw [currentRows, funext hp]

/-- The `.first()` of such a query is the first current row. -/
theorem find?_eq_head?_currentRows {keyOf : ρ → String} {key : String} {scope : Option String}
    {p : ρ → Bool} (hp : ∀ row, p row = decide (keyOf row = key ∧
      VersionedRow.serviceId row = scope ∧ VersionedRow.endCommitNum row = maxCommitNum))
    (rows : List ρ) : rows.find? p = (currentRows keyOf rows key scope).head? := by
  rw [← filter_eq_currentRows hp, List.filter_head?]

/-- Two tables hold the same rows of scope `scope`, in the same order. -/
def SameScopeRows (scope : Option String) (rows rows' : List ρ) : Prop :=
  rows.filter (fun row => VersionedRow.serviceId row == scope) =
    rows'.filter (fun row => VersionedRow.serviceId row == scope)

instance [DecidableEq ρ] (scope : Option String) (rows rows' : List ρ) :
    Decidable (SameScopeRows scope rows rows') :=
  inferInstanceAs (Decidable (_ = _))

variable {scope other : Option String} {rows rows' : List ρ} {p : ρ → Bool}

theorem SameScopeRows.symm (h : SameScopeRows scope rows rows') : SameScopeRows scope rows' rows :=
  Eq.symm h

theorem SameScopeRows.trans {rows'' : List ρ} (h : SameScopeRows scope rows rows')
    (h' : SameScopeRows scope rows' rows'') : SameScopeRows scope rows rows'' :=
  Eq.trans h h'

theorem filter_eq_filter_scope (hp : ∀ row, p row = true → VersionedRow.serviceId row = scope)
    (rows : List ρ) :
    rows.filter p = (rows.filter fun row => VersionedRow.serviceId row == scope).filter p := by
  rw [List.filter_filter]
  congr 1
  funext row
  by_cases hrow : p row = true
  · simp [hrow, hp row hrow]
  · simp [hrow]

/-- A query that only selects rows of scope `scope` reads the same rows from two tables that agree
on that scope. -/
theorem filter_eq_of_sameScopeRows (hp : ∀ row, p row = true → VersionedRow.serviceId row = scope)
    (h : SameScopeRows scope rows rows') : rows.filter p = rows'.filter p := by
  rw [filter_eq_filter_scope hp, filter_eq_filter_scope hp rows', h]

theorem find?_eq_of_sameScopeRows (hp : ∀ row, p row = true → VersionedRow.serviceId row = scope)
    (h : SameScopeRows scope rows rows') : rows.find? p = rows'.find? p := by
  rw [← List.filter_head?, ← List.filter_head?, filter_eq_of_sameScopeRows hp h]

theorem any_eq_of_sameScopeRows (hp : ∀ row, p row = true → VersionedRow.serviceId row = scope)
    (h : SameScopeRows scope rows rows') : rows.any p = rows'.any p :=
  Bool.eq_iff_iff.mpr <| by
    rw [List.any_eq_true, List.any_eq_true, ← List.find?_isSome, ← List.find?_isSome,
      find?_eq_of_sameScopeRows hp h]

theorem currentRows_eq_of_sameScopeRows (keyOf : ρ → String) (key : String)
    (h : SameScopeRows scope rows rows') :
    currentRows keyOf rows key scope = currentRows keyOf rows' key scope :=
  filter_eq_of_sameScopeRows (fun _ hrow => (of_decide_eq_true hrow).2.1) h

/-- Deleting rows of scope `scope` leaves the rows of every other scope as they were. -/
theorem sameScopeRows_filter_not (hp : ∀ row, p row = true → VersionedRow.serviceId row = scope)
    (hother : other ≠ scope) : SameScopeRows other (rows.filter fun row => !p row) rows := by
  unfold SameScopeRows
  rw [List.filter_filter]
  congr 1
  funext row
  cases hrow : p row
  · simp
  · simp [hp row hrow, hother.symm]

/-- Deleting the same rows from two tables that agree on a scope keeps them agreeing on it. -/
theorem sameScopeRows_filter_not_of_sameScopeRows (h : SameScopeRows scope rows rows') :
    SameScopeRows scope (rows.filter fun row => !p row) (rows'.filter fun row => !p row) := by
  unfold SameScopeRows at h ⊢
  rw [List.filter_comm, h, List.filter_comm]

end Scope

end GridStore
