import KafkaWire.Proofs.Schema.Exact
import KafkaWire.Proofs.Schema.Fields
import KafkaWire.Response.Redirection

/-!
# The schemas of responses

What redirecting relies on in the eighteen schemas: which field holds the endpoints, that the
structs in it have a host and a port, that reading admits every array, and that the classic
versions are free of varints.

## Main definitions

* `Redirector.field` — the field with the endpoints
* `Redirector.lists`, `Redirector.item` — whether it is an array, and of which structs
* `EndpointSource.versions` — the versions that have a schema
* `Schema.HasEndpoint` — the schema has a host and a port

## Main results

* `Redirector.typeOf_field`, `Redirector.item_hasEndpoint` — what is in that field
* `Redirector.countable` — no array element of a response vanishes
* `Redirector.isClassic` — there are no varints before the first flexible version
-/

namespace KafkaWire

/-- Structs of the schema have a host, which is a text, and a port. -/
structure Schema.HasEndpoint (schema : Schema) : Prop where
  host : ∃ form, schema.typeOf? "host" = some (.primitive (.string form))
  port : schema.typeOf? "port" = some (.primitive .int32)

/-! ### Metadata -/

namespace MetadataResponse

theorem typeOf_brokers (version : Int16) : (schema version).typeOf? brokers =
    some (.array (Form.of version firstFlexible) (.struct (brokerSchema version))) := by
  by_cases h : 3 ≤ version <;>
    simp [schema, fieldsIf, h, Schema.typeOf?, Schema.indexOf?, brokers, List.findIdx?_cons]

theorem brokerSchema_hasEndpoint (version : Int16) : (brokerSchema version).HasEndpoint :=
  ⟨⟨Form.of version firstFlexible, rfl⟩, rfl⟩

end MetadataResponse

/-! ### Find coordinator -/

namespace FindCoordinatorResponse

theorem typeOf_coordinator {version : Int16} (h : ¬ firstListing ≤ version) :
    (schema version).typeOf? coordinator =
      some (.struct (singleSchema (Form.of version firstFlexible))) := by
  by_cases hthrottle : 1 ≤ version <;>
    simp [schema, h, hthrottle, Schema.typeOf?, Schema.indexOf?, coordinator, List.findIdx?_cons]

theorem typeOf_coordinators {version : Int16} (h : firstListing ≤ version) :
    (schema version).typeOf? coordinators =
      some (.array .compact (.struct (listedSchema (Form.of version firstFlexible)))) := by
  by_cases hthrottle : 1 ≤ version <;>
    simp [schema, h, hthrottle, Schema.typeOf?, Schema.indexOf?, coordinators, List.findIdx?_cons]

theorem singleSchema_hasEndpoint (form : Form) : (singleSchema form).HasEndpoint :=
  ⟨⟨form, rfl⟩, rfl⟩

theorem listedSchema_hasEndpoint (form : Form) : (listedSchema form).HasEndpoint :=
  ⟨⟨form, rfl⟩, rfl⟩

end FindCoordinatorResponse

/-! ### Both -/

namespace EndpointSource

/-- The versions that have a schema, as plain numbers. -/
def versions (source : EndpointSource) : List Nat :=
  List.range (source.lastVersion.toInt.toNat + 1)

variable {source : EndpointSource} {version : Int16} {schema : Schema}

theorem exists_mem_versions (h : source.schema? version = some schema) :
    ∃ n ∈ source.versions, version = Int16.ofNat n := by
  have hbounds : 0 ≤ version ∧ version ≤ source.lastVersion :=
    isSome_schema?.mp (Option.isSome_of_eq_some h)
  have hfirst : 0 ≤ version.toInt := Int16.le_iff_toInt_le.mp hbounds.1
  have hlast : version.toInt ≤ source.lastVersion.toInt := Int16.le_iff_toInt_le.mp hbounds.2
  have hlt := version.toInt_lt
  refine ⟨version.toInt.toNat, List.mem_range.mpr (by omega), ?_⟩
  rw [← Int16.toInt_inj, Int16.toInt_ofNat_of_lt (by omega)]
  omega

theorem countable_of_mem (source : EndpointSource) : ∀ n ∈ source.versions,
    ∀ schema ∈ source.schema? (.ofNat n), schema.Countable := by
  cases source <;> decide

theorem isClassic_of_mem (source : EndpointSource) : ∀ n ∈ source.versions,
    .ofNat n < source.firstFlexible → ∀ schema ∈ source.schema? (.ofNat n), schema.IsClassic := by
  cases source <;> decide

end EndpointSource

namespace Redirector

/-- The field that holds the endpoints. -/
def field (r : Redirector) : String :=
  match r.source with
  | .metadata => MetadataResponse.brokers
  | .findCoordinator =>
    if FindCoordinatorResponse.firstListing ≤ r.version then FindCoordinatorResponse.coordinators
    else FindCoordinatorResponse.coordinator

/-- Whether the field is an array, rather than a single struct. -/
def lists (r : Redirector) : Bool :=
  match r.source with
  | .metadata => true
  | .findCoordinator => FindCoordinatorResponse.firstListing ≤ r.version

/-- The schema of the structs in the field. -/
def item (r : Redirector) : Schema :=
  match r.source with
  | .metadata => MetadataResponse.brokerSchema r.version
  | .findCoordinator =>
    if FindCoordinatorResponse.firstListing ≤ r.version then
      FindCoordinatorResponse.listedSchema
        (Form.of r.version FindCoordinatorResponse.firstFlexible)
    else
      FindCoordinatorResponse.singleSchema
        (Form.of r.version FindCoordinatorResponse.firstFlexible)

/-- **No array element of a response vanishes**, so every response that can be written can be
read. -/
theorem countable (r : Redirector) : r.schema.Countable := by
  obtain ⟨n, hmem, hversion⟩ := EndpointSource.exists_mem_versions r.schema_eq
  exact r.source.countable_of_mem n hmem r.schema (hversion ▸ r.schema_eq)

/-- **Before the first flexible version there are no varints.** -/
theorem isClassic {r : Redirector} (classic : r.version < r.source.firstFlexible) :
    r.schema.IsClassic := by
  obtain ⟨n, hmem, hversion⟩ := EndpointSource.exists_mem_versions r.schema_eq
  have hschema := r.schema_eq
  rw [hversion] at classic hschema
  exact r.source.isClassic_of_mem n hmem classic r.schema hschema

theorem schema_metadata {r : Redirector} (h : r.source = .metadata) :
    r.schema = MetadataResponse.schema r.version := by
  have hschema := r.schema_eq
  rw [h] at hschema
  exact (Option.some.inj (Option.ite_none_right_eq_some.mp hschema).2).symm

theorem schema_findCoordinator {r : Redirector} (h : r.source = .findCoordinator) :
    r.schema = FindCoordinatorResponse.schema r.version := by
  have hschema := r.schema_eq
  rw [h] at hschema
  exact (Option.some.inj (Option.ite_none_right_eq_some.mp hschema).2).symm

theorem item_hasEndpoint (r : Redirector) : r.item.HasEndpoint := by
  cases h : r.source with
  | metadata =>
    rw [item, h]
    exact MetadataResponse.brokerSchema_hasEndpoint r.version
  | findCoordinator =>
    rw [item, h]
    by_cases hlist : FindCoordinatorResponse.firstListing ≤ r.version
    · simp only [hlist, if_true]
      exact FindCoordinatorResponse.listedSchema_hasEndpoint _
    · simp only [hlist, if_false]
      exact FindCoordinatorResponse.singleSchema_hasEndpoint _

/-- **The endpoints are where they are looked for.** -/
theorem typeOf_field (r : Redirector) :
    if r.lists then ∃ form, r.schema.typeOf? r.field = some (.array form (.struct r.item))
    else r.schema.typeOf? r.field = some (.struct r.item) := by
  cases h : r.source with
  | metadata =>
    rw [lists, field, item, h, schema_metadata h]
    exact ⟨_, MetadataResponse.typeOf_brokers r.version⟩
  | findCoordinator =>
    rw [lists, field, item, h, schema_findCoordinator h]
    by_cases hlist : FindCoordinatorResponse.firstListing ≤ r.version
    · simp only [hlist, if_true, decide_true]
      exact ⟨_, FindCoordinatorResponse.typeOf_coordinators hlist⟩
    · simp only [hlist, if_false, decide_false, Bool.false_eq_true]
      exact FindCoordinatorResponse.typeOf_coordinator hlist

end Redirector

end KafkaWire
