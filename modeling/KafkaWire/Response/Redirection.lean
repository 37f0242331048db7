import KafkaWire.ApiKey
import KafkaWire.Endpoint
import KafkaWire.Response.FindCoordinator
import KafkaWire.Response.Header
import KafkaWire.Response.Metadata
import KafkaWire.Schema.Codec

/-!
# Redirecting clients

Clients learn where to connect from metadata and find coordinator responses, so a proxy puts
endpoints of its own in the place of the brokers' there. A new host may be longer or shorter than
the old one, and everything after it moves; therefore a response is decoded by the schema of its
version, its endpoints are replaced, and it is encoded again.

The new endpoints come from a mapping, which is asked for each endpoint in the order of the
response until it refuses one. The mapping may have effects of its own, such as keeping a log.

## Main definitions

* `AddressMapping` — from an endpoint to the one in its place
* `Redirector` — a response type in a supported version
* `Redirector.for?` — the redirector for a key and version, if its responses hold endpoints
* `Redirector.apply`, `Redirector.applyFrame` — a redirected response, without and with its header

## Main results

* `Redirector.for?_eq_some`, `Redirector.for?_eq_none`, `Redirector.for?_eq_error` — for which keys
  and versions there is a redirector, there is none, or the version is refused
-/

namespace KafkaWire

/-- From an endpoint to the one to be used in its place. -/
abbrev AddressMapping (m : Type → Type) := Endpoint → ExceptT Error m Endpoint

/-- The response types that hold endpoints. -/
inductive EndpointSource
  | metadata
  | findCoordinator
  deriving DecidableEq, Repr

namespace EndpointSource

/-- The key of the requests that are answered. -/
def key : EndpointSource → ApiKey
  | .metadata => .metadata
  | .findCoordinator => .findCoordinator

/-- The response type for a key. -/
def ofKey? : ApiKey → Option EndpointSource
  | .metadata => some .metadata
  | .findCoordinator => some .findCoordinator
  | _ => none

/-- The schema of a version, if it is supported. -/
def schema? : EndpointSource → (version : Int16) → Option Schema
  | .metadata => MetadataResponse.schema?
  | .findCoordinator => FindCoordinatorResponse.schema?

/-- The first flexible version. -/
def firstFlexible : EndpointSource → Int16
  | .metadata => MetadataResponse.firstFlexible
  | .findCoordinator => FindCoordinatorResponse.firstFlexible

/-- The last version that has a schema. -/
def lastVersion : EndpointSource → Int16
  | .metadata => MetadataResponse.lastVersion
  | .findCoordinator => FindCoordinatorResponse.lastVersion

variable {source other : EndpointSource} {key : ApiKey} {code version : Int16}

theorem ofKey?_eq_some : ofKey? key = some source ↔ source.key = key := by
  constructor
  · intro h
    unfold ofKey? at h
    split at h <;> cases h <;> rfl
  · rintro rfl
    cases source <;> rfl

/-- **The response types are told apart by their codes.** -/
theorem bind_ofKey?_eq_some :
    (ApiKey.ofCode? code).bind ofKey? = some source ↔ source.key.code = code := by
  simp only [Option.bind_eq_some_iff, ApiKey.ofCode?_eq_some, ofKey?_eq_some]
  constructor
  · rintro ⟨key, hcode, rfl⟩
    exact hcode
  · intro hcode
    exact ⟨source.key, hcode, rfl⟩

theorem eq_of_code (h : source.key.code = other.key.code) : source = other :=
  Option.some.inj ((bind_ofKey?_eq_some.mpr h).symm.trans (bind_ofKey?_eq_some.mpr rfl))

/-- **The versions with a schema** are those up to the last one. -/
theorem isSome_schema? :
    (source.schema? version).isSome ↔ 0 ≤ version ∧ version ≤ source.lastVersion := by
  cases source with
  | metadata => simp [schema?, MetadataResponse.schema?, lastVersion]
  | findCoordinator => simp [schema?, FindCoordinatorResponse.schema?, lastVersion]

end EndpointSource

/-- A response type in a supported version, with the schema of that version. -/
structure Redirector where
  source : EndpointSource
  version : Int16
  schema : Schema
  schema_eq : source.schema? version = some schema

namespace Redirector

/-- The redirector for responses to requests of some key and version, or `none` if such responses
hold no endpoints. Versions without a schema are refused. -/
def for? (code version : Int16) : Except Error (Option Redirector) :=
  match (ApiKey.ofCode? code).bind EndpointSource.ofKey? with
  | none => .ok none
  | some source =>
    match h : source.schema? version with
    | some schema => .ok (some ⟨source, version, schema, h⟩)
    | none => .error (.unsupportedApiVersion code version)

/-! ### When there is a redirector -/

section Lookup

variable {code version : Int16} {r r' : Redirector} {e : Error}

/-- The schema is that of the version, so nothing else sets redirectors apart. -/
theorem eq_of_code (hcode : r.source.key.code = r'.source.key.code)
    (hversion : r.version = r'.version) : r = r' := by
  obtain ⟨source, version, schema, hschema⟩ := r
  obtain ⟨source', version', schema', hschema'⟩ := r'
  obtain rfl : source = source' := EndpointSource.eq_of_code hcode
  obtain rfl : version = version' := hversion
  obtain rfl : schema = schema' := Option.some.inj (hschema.symm.trans hschema')
  rfl

theorem schema?_ne_none {source : EndpointSource} (hcode : r.source.key.code = source.key.code) :
    source.schema? r.version ≠ none := by
  rw [← EndpointSource.eq_of_code hcode, r.schema_eq]
  exact Option.some_ne_none _

/-- The three outcomes, each with what brings it about. -/
theorem for?_cases (code version : Int16) :
    ((∀ source : EndpointSource, source.key.code ≠ code) ∧ for? code version = .ok none) ∨
    (∃ source : EndpointSource, source.key.code = code ∧ source.schema? version = none ∧
      for? code version = .error (.unsupportedApiVersion code version)) ∨
    ∃ r : Redirector, r.source.key.code = code ∧ r.version = version ∧
      for? code version = .ok (some r) := by
  rw [for?]
  split
  · rename_i hnone
    refine .inl ⟨fun source hcode => ?_, rfl⟩
    rw [EndpointSource.bind_ofKey?_eq_some.mpr hcode] at hnone
    cases hnone
  · rename_i source hsource
    have hcode : source.key.code = code := EndpointSource.bind_ofKey?_eq_some.mp hsource
    split
    · exact .inr (.inr ⟨_, hcode, rfl, rfl⟩)
    · rename_i hschema
      exact .inr (.inl ⟨source, hcode, hschema, rfl⟩)

/-- **The redirector that is found** is the one of that key and version, so each is found. -/
theorem for?_eq_some : for? code version = .ok (some r) ↔
    r.source.key.code = code ∧ r.version = version := by
  obtain ⟨hnone, h⟩ | ⟨source, hcode, hschema, h⟩ | ⟨r', hcode, hversion, h⟩ :=
    for?_cases code version
  · rw [h]
    exact ⟨nofun, fun hr => absurd hr.1 (hnone r.source)⟩
  · rw [h]
    refine ⟨nofun, ?_⟩
    rintro ⟨hr, rfl⟩
    exact absurd hschema (schema?_ne_none (hr.trans hcode.symm))
  · rw [h]
    constructor
    · rintro ⟨⟩
      exact ⟨hcode, hversion⟩
    · rintro ⟨hr, hr'⟩
      rw [eq_of_code (hcode.trans hr.symm) (hversion.trans hr'.symm)]

/-- **Nothing is found** for the keys whose responses hold no endpoints, in any version. -/
theorem for?_eq_none : for? code version = .ok none ↔
    ∀ source : EndpointSource, source.key.code ≠ code := by
  obtain ⟨hnone, h⟩ | ⟨source, hcode, -, h⟩ | ⟨r, hcode, -, h⟩ := for?_cases code version
  · exact ⟨fun _ => hnone, fun _ => h⟩
  · rw [h]
    exact ⟨nofun, fun hnone => absurd hcode (hnone source)⟩
  · rw [h]
    exact ⟨nofun, fun hnone => absurd hcode (hnone r.source)⟩

/-- **A version is refused** if others of its key have a schema and it has none. -/
theorem for?_eq_error : for? code version = .error e ↔
    (∃ source : EndpointSource, source.key.code = code ∧
      ¬ (0 ≤ version ∧ version ≤ source.lastVersion)) ∧
    e = .unsupportedApiVersion code version := by
  simp only [← EndpointSource.isSome_schema?, Option.not_isSome_iff_eq_none]
  obtain ⟨hnone, h⟩ | ⟨source, hcode, hschema, h⟩ | ⟨r, hcode, hversion, h⟩ :=
    for?_cases code version
  · rw [h]
    exact ⟨nofun, fun ⟨⟨source, hcode, _⟩, _⟩ => absurd hcode (hnone source)⟩
  · rw [h]
    constructor
    · rintro ⟨⟩
      exact ⟨⟨source, hcode, hschema⟩, rfl⟩
    · rintro ⟨-, rfl⟩
      rfl
  · rw [h, ← hversion]
    refine ⟨nofun, ?_⟩
    rintro ⟨⟨source, hsource, hschema⟩, -⟩
    exact absurd hschema (schema?_ne_none (hcode.trans hsource.symm))

end Lookup

/-! ### Redirecting -/

/-- The version of the header of these responses. -/
def headerVersion (r : Redirector) : Int16 :=
  if r.source.firstFlexible ≤ r.version then 1 else 0

/-- How a redirector is shown. -/
def describe (r : Redirector) : String :=
  "ResponseModifier \x7b api_key: " ++ r.source.key.name ++ ", api_version: " ++
    toString r.version ++ ", schema: " ++ Text.quote r.schema.name ++ " \x7d"

variable {m : Type → Type} [Monad m]

/-- Replaces the endpoint of a struct with a host and a port. What stays the same is not
touched. -/
def replaceEndpoint (mapping : AddressMapping m) (s : Struct) : ExceptT Error m Struct := do
  let host ← MonadExcept.ofExcept (s.getText "host")
  let port ← MonadExcept.ofExcept (s.getInt32 "port")
  let new ← mapping ⟨host, port⟩
  let mut s := s
  if new.host ≠ host then
    s := (← MonadExcept.ofExcept (s.replace "host" (.string new.host))).2
  if new.port ≠ port then
    s := (← MonadExcept.ofExcept (s.replace "port" (.int32 new.port))).2
  return s

/-- Replaces the endpoints of a list of structs, in order. -/
def replaceEndpoints (mapping : AddressMapping m) : List Value → ExceptT Error m (List Value)
  | [] => return []
  | .struct s :: rest => do
    let s ← replaceEndpoint mapping s
    return .struct s :: (← replaceEndpoints mapping rest)
  | other :: _ => throw (.schemaDecoding (.notBroker other.kind.name))

/-- Replaces all endpoints of a decoded response. -/
def replaceAll (mapping : AddressMapping m) (r : Redirector) (response : Struct) :
    ExceptT Error m Struct := do
  let inArray (field : String) := do
    let (_, s) ← response.modifyArray field fun items => do
      return ((), ← replaceEndpoints mapping items)
    return s
  let inStruct (field : String) := do
    let (_, s) ← response.modifyStruct field fun s => do
      return ((), ← replaceEndpoint mapping s)
    return s
  match r.source with
  | .metadata => inArray MetadataResponse.brokers
  | .findCoordinator =>
    if r.version < FindCoordinatorResponse.firstListing then
      inStruct FindCoordinatorResponse.coordinator
    else inArray FindCoordinatorResponse.coordinators

/-- The body of a response with its endpoints replaced. If any of them is refused there is no
such body. -/
def apply (mapping : AddressMapping m) (r : Redirector) (body : Bytes) : ExceptT Error m Bytes := do
  let response ← MonadExcept.ofExcept (r.schema.decode body)
  let response ← replaceAll mapping r response
  MonadExcept.ofExcept (r.schema.encode response)

/-- A whole response, which begins with its header, with the endpoints in its body replaced. -/
def applyFrame (mapping : AddressMapping m) (r : Redirector) (frame : Bytes) :
    ExceptT Error m Bytes := do
  let (header, body) ← MonadExcept.ofExcept ((ResponseHeader.reader r.headerVersion).run frame)
  let body ← apply mapping r body
  let written := header.write r.headerVersion ++ .chunk (.raw body)
  MonadExcept.ofExcept written.result
  return (written.feed ({} : Buffer)).bytes.toList

end Redirector

end KafkaWire
