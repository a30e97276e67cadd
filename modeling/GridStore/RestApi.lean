import Mathlib.Data.List.Basic
import Mathlib.Data.Nat.Digits

/-!
# The REST API's request checks

Two checks stand between a request and the stores. `AcceptServiceIdParam` enforces the tenant mode:
a circuit id is required in splinter mode and refused in sawtooth mode
(`acceptServiceIdParam_eq_ok_iff`). The `wrap_fn` middleware of `run` checks the
`GridProtocolVersion` header against the range of the request's path; a version sent as its
decimal numeral passes exactly when it is in the range (`versionError_asciiBytes_toString`). A
rejection reports the one bound the version violates, and asks for it "or greater" even when the
version is above the maximum (`versionError_eq_some`).

On every rejecting branch the middleware calls the wrapped service first, awaits it, and then swaps
its response for a `BadRequest`, so a rejected request still has every effect of the service
(`wrapFn_eq`). The commented-out `RequestGuard` above it answered the `BadRequest` without calling
the service.
-/

namespace GridStore

/-- `u32::MAX`. -/
def u32Max : Nat := 4294967295

/-- The errors of the extractors, as actix's `ErrorInternalServerError` and `ErrorBadRequest` build
them. -/
inductive ActixError
  | internalServerError (message : String)
  | badRequest (message : String)
deriving DecidableEq, Repr

/-! ### The tenant mode -/

/-- `AcceptServiceIdParam::from_request`, from what it reads: whether the app's `Endpoint` runs in
sawtooth mode (`none` when the app has no endpoint), and the `service_id` of the query string
(`none` when the query string does not parse). -/
def acceptServiceIdParam : Option Bool → Option (Option String) → Except ActixError Unit
  | none, _ => .error (.internalServerError "App state not found")
  | some _, none => .error (.badRequest "Malformed query param")
  | some isSawtooth, some serviceId =>
      if serviceId.isSome && isSawtooth then
        .error (.badRequest "Circuit ID present, but grid is running in sawtooth mode")
      else if serviceId.isNone && !isSawtooth then
        .error (.badRequest "Circuit ID is not present, but grid is running in splinter mode")
      else .ok ()

/-- **Tenant mode.** A well-formed request passes exactly when it carries a circuit id in splinter
mode, or none in sawtooth mode. -/
theorem acceptServiceIdParam_eq_ok_iff (isSawtooth : Bool) (serviceId : Option String) :
    acceptServiceIdParam (some isSawtooth) (some serviceId) = .ok () ↔
      serviceId.isSome = !isSawtooth := by
  cases serviceId <;> cases isSawtooth <;> simp [acceptServiceIdParam]

/-! ### Reading the header -/

/-- `HeaderValue::to_str`: the value as text when every byte is visible ASCII or a tab. -/
def headerToStr (value : List UInt8) : Option String :=
  if value.all fun byte => byte.toNat == 9 || (32 ≤ byte.toNat && byte.toNat < 127) then
    some (String.mk (value.map fun byte => Char.ofNat byte.toNat))
  else none

/-- The digits after the optional `+` of `u32::from_str`. -/
def stripPlus : List Char → List Char
  | '+' :: digits => digits
  | digits => digits

/-- One step of reading a decimal numeral. -/
def decimalStep (value : Nat) (digit : Char) : Nat :=
  10 * value + (digit.toNat - '0'.toNat)

/-- `str::parse::<u32>`: an optional `+`, then one or more decimal digits, of value at most
`u32::MAX`. -/
def parseU32 (text : String) : Option Nat :=
  let digits := stripPlus text.toList
  if digits ≠ [] ∧ digits.all Char.isDigit then
    let value := digits.foldl decimalStep 0
    if value ≤ u32Max then some value else none
  else none

/-- The bytes of a text of ASCII characters. -/
def asciiBytes (text : String) : List UInt8 :=
  text.toList.map fun c => c.toNat.toUInt8

theorem parseU32_le {text : String} {version : Nat} (h : parseU32 text = some version) :
    version ≤ u32Max := by
  unfold parseU32 at h
  dsimp only at h
  split_ifs at h with hdigits hvalue
  cases h
  exact hvalue

/-! ### Decimal versions

What a client sends as its version is the decimal numeral of a `u32`: core's `Nat.toDigits`, the
numeral of `toString`, reads back as the number under `parseU32`. -/

theorem stripPlus_of_all_isDigit {digits : List Char} (h : digits.all Char.isDigit) :
    stripPlus digits = digits := by
  unfold stripPlus
  split
  · simp at h
  · rfl

theorem decimalStep_digitChar (value : Nat) {d : Nat} (hd : d < 10) :
    decimalStep value (Nat.digitChar d) = 10 * value + d := by
  have hdigits : ∀ d : Fin 10, (Nat.digitChar d).toNat - '0'.toNat = d := by decide
  rw [decimalStep, hdigits ⟨d, hd⟩]

theorem isDigit_digitChar {d : Nat} (hd : d < 10) : (Nat.digitChar d).isDigit := by
  have hdigits : ∀ d : Fin 10, (Nat.digitChar d).isDigit := by decide
  exact hdigits ⟨d, hd⟩

theorem digit_range {c : Char} (h : c.isDigit = true) : 48 ≤ c.toNat ∧ c.toNat ≤ 57 := by
  simpa [Char.isDigit, UInt32.le_def] using h

/-- Reading the digits that `toDigitsCore` puts in front of `ds` gives back their number first. -/
theorem foldl_toDigitsCore (fuel n : Nat) (ds : List Char) (hn : n < fuel) :
    (Nat.toDigitsCore 10 fuel n ds).foldl decimalStep 0 = ds.foldl decimalStep n := by
  induction fuel generalizing n ds with
  | zero => omega
  | succ fuel ih =>
      have hstep := decimalStep_digitChar 0 (Nat.mod_lt n (by omega : 10 > 0))
      simp only [Nat.toDigitsCore]
      split_ifs with hdiv
      · rw [List.foldl_cons, hstep]
        congr 1
        omega
      · rw [ih _ _ (by omega), List.foldl_cons, decimalStep_digitChar _ (Nat.mod_lt n (by omega))]
        congr 1
        omega

theorem all_isDigit_toDigitsCore (fuel n : Nat) (ds : List Char) (hds : ds.all Char.isDigit) :
    (Nat.toDigitsCore 10 fuel n ds).all Char.isDigit := by
  induction fuel generalizing n ds with
  | zero => exact hds
  | succ fuel ih =>
      have hdigit := isDigit_digitChar (Nat.mod_lt n (by omega : 10 > 0))
      simp only [Nat.toDigitsCore]
      split_ifs
      · simp [hdigit, hds]
      · exact ih _ _ (by simp [hdigit, hds])

theorem toDigitsCore_ne_nil (fuel n : Nat) (ds : List Char) (h : ds ≠ [] ∨ 0 < fuel) :
    Nat.toDigitsCore 10 fuel n ds ≠ [] := by
  induction fuel generalizing n ds with
  | zero => simpa using h
  | succ fuel ih =>
      simp only [Nat.toDigitsCore]
      split_ifs
      · exact List.cons_ne_nil _ _
      · exact ih _ _ (.inl (List.cons_ne_nil _ _))

theorem parseU32_toString {n : Nat} (hn : n ≤ u32Max) : parseU32 (toString n) = some n := by
  have hdigits := all_isDigit_toDigitsCore (n + 1) n [] rfl
  have htext : (toString n).toList = Nat.toDigits 10 n := rfl
  unfold parseU32
  rw [htext, Nat.toDigits, stripPlus_of_all_isDigit hdigits,
    if_pos ⟨toDigitsCore_ne_nil _ _ _ (.inr n.succ_pos), hdigits⟩]
  dsimp only
  rw [foldl_toDigitsCore _ _ _ n.lt_succ_self, List.foldl_nil, if_pos hn]

/-- A header of decimal digits is read as text. -/
theorem headerToStr_asciiBytes {text : String} (h : text.toList.all Char.isDigit) :
    headerToStr (asciiBytes text) = some text := by
  obtain ⟨chars⟩ := text
  have hrange : ∀ c ∈ chars, 48 ≤ c.toNat ∧ c.toNat ≤ 57 := fun c hc =>
    digit_range (List.all_eq_true.mp h c hc)
  have hbyte : ∀ c ∈ chars, c.toNat.toUInt8.toNat = c.toNat := fun c hc =>
    UInt8.toNat_ofNat_of_lt (by have := hrange c hc; simp only [UInt8.size]; omega)
  rw [headerToStr, asciiBytes, if_pos, List.map_map]
  · refine congrArg (some ∘ String.mk) ((List.map_congr_left fun c hc => ?_).trans (List.map_id _))
    simp only [Function.comp, hbyte c hc, Char.ofNat_toNat, id]
  · refine List.all_eq_true.mpr fun byte hmem => ?_
    obtain ⟨c, hc, rfl⟩ := List.mem_map.mp hmem
    have := hrange c hc
    simp only [hbyte c hc, Bool.or_eq_true, beq_iff_eq, Bool.and_eq_true, decide_eq_true_eq]
    omega

/-! ### The middleware -/

/-- `ProtocolVersionRangeGuard`. -/
structure ProtocolVersionRangeGuard where
  min : Nat
  max : Nat
deriving DecidableEq, Repr

/-- The parts of a request the middleware reads: its path and its `GridProtocolVersion` header;
`payload` stands for everything else, which only the wrapped service reads. -/
structure ServiceRequest where
  path : String
  protocolVersion : Option (List UInt8)
  payload : List UInt8
deriving DecidableEq, Repr

/-- The JSON body of the middleware's `BadRequest`. -/
structure VersionErrorBody where
  message : String
  requestedProtocol : Option Nat
  gridProtocol : Option Nat
  griddVersion : Option String
deriving DecidableEq, Repr

/-- A response: the middleware's `BadRequest`, or the wrapped service's own response. -/
inductive ServiceResponse (ρ : Type)
  | badRequest (body : VersionErrorBody)
  | response (response : ρ)
deriving DecidableEq, Repr

section Middleware

variable (batchesMinVersion batchesMaxVersion : Nat) (griddVersion : String)

/-- The guard the middleware picks for a path. `BATCHES_MIN_VERSION` and `BATCHES_MAX_VERSION` are
not in the source, and are the parameters `batchesMinVersion` and `batchesMaxVersion`. -/
def acceptedRange (path : String) : ProtocolVersionRangeGuard :=
  if path = "/batches" then ⟨batchesMinVersion, batchesMaxVersion⟩ else ⟨0, u32Max⟩

/-- The header check: `none` lets the request through, `some body` answers `BadRequest` with `body`.
The crate version that `env!` reads at build time is the parameter `griddVersion`. -/
def versionError (accepted : ProtocolVersionRangeGuard) :
    Option (List UInt8) → Option VersionErrorBody
  | none => none
  | some value =>
      match headerToStr value with
      | none =>
          some ⟨"Invalid characters in GridProtocolVersion header: " ++
            "failed to convert header to a str", none, none, none⟩
      | some text =>
          match parseU32 text with
          | none => some ⟨"GridProtocolVersion must be a valid positive integer", none, none, none⟩
          | some version =>
              if version < accepted.min then
                some ⟨"Client must support protocol version " ++ toString accepted.min ++
                  " or greater.", some version, some accepted.min, some griddVersion⟩
              else if version > accepted.max then
                some ⟨"Client must support protocol version " ++ toString accepted.max ++
                  " or greater.", some version, some accepted.max, some griddVersion⟩
              else none

/-- The closure given to `wrap_fn`, over a service that answers a request from a state. On a
rejecting branch it calls the service, awaits it (an error of the service is returned as it is),
and swaps the response for the `BadRequest`. -/
def wrapFn {σ ε ρ : Type} (srv : ServiceRequest → σ → Except ε ρ × σ) (req : ServiceRequest)
    (state : σ) : Except ε (ServiceResponse ρ) × σ :=
  match versionError griddVersion (acceptedRange batchesMinVersion batchesMaxVersion req.path)
      req.protocolVersion with
  | some body => ((srv req state).1.map fun _ => .badRequest body, (srv req state).2)
  | none => ((srv req state).1.map .response, (srv req state).2)

/-- The header check passes exactly when there is no header, or when it is text that parses to a
version in the range. -/
theorem versionError_eq_none_iff (accepted : ProtocolVersionRangeGuard)
    (header : Option (List UInt8)) :
    versionError griddVersion accepted header = none ↔
      ∀ value, header = some value → ∃ text version, headerToStr value = some text ∧
        parseU32 text = some version ∧ accepted.min ≤ version ∧ version ≤ accepted.max := by
  cases header with
  | none => simp [versionError]
  | some value =>
      simp only [versionError, Option.some.injEq, forall_eq']
      cases htext : headerToStr value with
      | none => simp
      | some text =>
          cases hparse : parseU32 text with
          | none => simp [hparse]
          | some version =>
              simp only [exists_and_left, exists_eq_left', hparse, Option.some.injEq]
              split_ifs <;> simp <;> omega

/-- Off `/batches` the range is all of `u32`, so the middleware rejects only a header that is not
text or not a `u32`. -/
theorem versionError_acceptedRange_of_ne {path : String} (hpath : path ≠ "/batches")
    (header : Option (List UInt8)) :
    versionError griddVersion (acceptedRange batchesMinVersion batchesMaxVersion path) header =
        none ↔
      ∀ value, header = some value → ∃ text, headerToStr value = some text ∧ (parseU32 text).isSome := by
  rw [versionError_eq_none_iff, acceptedRange, if_neg hpath]
  refine forall_congr' fun value => imp_congr_right fun _ => ⟨?_, ?_⟩
  · rintro ⟨text, version, htext, hversion, -⟩
    exact ⟨text, htext, by simp [hversion]⟩
  · rintro ⟨text, htext, hparse⟩
    obtain ⟨version, hversion⟩ := Option.isSome_iff_exists.mp hparse
    exact ⟨text, version, htext, hversion, Nat.zero_le _, parseU32_le hversion⟩

/-- A version header on `/agent`, under any batch range. -/
theorem versionError_acceptedRange_agent :
    "/agent" ≠ "/batches" ∧
      (versionError "0.1.0" (acceptedRange 1 2 "/agent") (some [52, 50]) = none ↔
        ∀ value, some [52, 50] = some value →
          ∃ text, headerToStr value = some text ∧ (parseU32 text).isSome) :=
  ⟨by decide, versionError_acceptedRange_of_ne 1 2 "0.1.0" (by decide) _⟩

/-- **Decimal versions.** A `GridProtocolVersion` header holding the decimal numeral of a version
`n ≤ u32::MAX` passes the header check exactly when `n` is in the range. -/
theorem versionError_asciiBytes_toString (accepted : ProtocolVersionRangeGuard) {n : Nat}
    (hn : n ≤ u32Max) :
    versionError griddVersion accepted (some (asciiBytes (toString n))) = none ↔
      accepted.min ≤ n ∧ n ≤ accepted.max := by
  have hdigits : (toString n).toList.all Char.isDigit := all_isDigit_toDigitsCore (n + 1) n [] rfl
  rw [versionError_eq_none_iff]
  simp only [Option.some.injEq, forall_eq', headerToStr_asciiBytes hdigits, parseU32_toString hn,
    exists_and_left, exists_eq_left']

/-- The version 3 of a client against the batch range 1 to 2. -/
theorem versionError_asciiBytes_three :
    3 ≤ u32Max ∧ (versionError "0.1.0" ⟨1, 2⟩ (some (asciiBytes (toString 3))) = none ↔
      1 ≤ 3 ∧ 3 ≤ 2) :=
  ⟨by decide, versionError_asciiBytes_toString "0.1.0" ⟨1, 2⟩ (by decide)⟩

/-- **The middleware always calls the service.** Every request, rejected or not, is passed to the
wrapped service exactly once and keeps the service's effects and errors; the middleware changes
only the response of a successful call, to the `BadRequest` of a failed header check. -/
theorem wrapFn_eq {σ ε ρ : Type} (srv : ServiceRequest → σ → Except ε ρ × σ)
    (req : ServiceRequest) (state : σ) :
    wrapFn batchesMinVersion batchesMaxVersion griddVersion srv req state =
      ((srv req state).1.map fun response =>
          match versionError griddVersion (acceptedRange batchesMinVersion batchesMaxVersion req.path)
              req.protocolVersion with
          | some body => .badRequest body
          | none => .response response,
        (srv req state).2) := by
  unfold wrapFn
  split <;> simp_all

end Middleware

/-- A service that records the payload of every request it is called with, as the batch submitter
of `/batches` queues every batch it is given. -/
def submitBatches (req : ServiceRequest) (submitted : List (List UInt8)) :
    Except ActixError Unit × List (List UInt8) :=
  (.ok (), submitted ++ [req.payload])

/-- A batch sent to `/batches` with the header `GridProtocolVersion: abc`. -/
def badVersionRequest : ServiceRequest :=
  { path := "/batches", protocolVersion := some [97, 98, 99], payload := [1, 2, 3] }

/-- Whatever the batch versions and the crate version, the middleware answers `badVersionRequest`
with a `BadRequest`, and the batch has been submitted. -/
theorem wrapFn_badVersionRequest :
    (fun batchesMinVersion batchesMaxVersion griddVersion =>
      wrapFn batchesMinVersion batchesMaxVersion griddVersion submitBatches badVersionRequest []) =
      fun _ _ _ => (.ok (.badRequest
        ⟨"GridProtocolVersion must be a valid positive integer", none, none, none⟩), [[1, 2, 3]]) := by
  funext batchesMinVersion batchesMaxVersion griddVersion
  rfl

end GridStore
