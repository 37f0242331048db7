import KafkaWire.Schema.Basic

/-!
# Find coordinator responses

The broker that coordinates a group or transaction, and from version 4 on those of several.

```
response (to version 3) => throttle_time_ms (from version 1) error_code error_message (1)
                           node_id host port
response (version 4)    => throttle_time_ms [coordinators]
coordinator             => key node_id host port error_code error_message
```

Up to version 3 the fields of the endpoint are gathered in one struct, as if it were an entry of
the later list. Version 3 is the first flexible one.

## Main definitions

* `FindCoordinatorResponse.schema` — the schema of a version
* `FindCoordinatorResponse.schema?` — the same for supported versions only
-/

namespace KafkaWire

namespace FindCoordinatorResponse

/-- The first version with compact lengths and tag buffers. -/
def firstFlexible : Int16 := 3

/-- The first version with a list of coordinators. -/
def firstListing : Int16 := 4

/-- The last supported version. -/
def lastVersion : Int16 := 4

/-- The field of the single coordinator. -/
def coordinator : String := "coordinator"

/-- The field that lists the coordinators. -/
def coordinators : String := "coordinators"

/-- The schema of a single coordinator. -/
def singleSchema (form : Form) : Schema :=
  ⟨"Coordinator",
    [⟨"node_id", .primitive .int32⟩,
      ⟨"host", .primitive (.string form)⟩,
      ⟨"port", .primitive .int32⟩]⟩

/-- The schema of one coordinator of a list. -/
def listedSchema (form : Form) : Schema :=
  ⟨"Coordinator",
    [⟨"key", .primitive (.string form)⟩,
      ⟨"node_id", .primitive .int32⟩,
      ⟨"host", .primitive (.string form)⟩,
      ⟨"port", .primitive .int32⟩,
      ⟨"error_code", .primitive .int16⟩,
      ⟨"error_message", .primitive (.nullableString form)⟩,
      ⟨"_tagged_fields", .primitive .tagBuffer⟩]⟩

/-- The schema of a response. -/
def schema (version : Int16) : Schema :=
  let form := Form.of version firstFlexible
  let throttle : List Field :=
    if 1 ≤ version then [⟨"throttle_time_ms", .primitive .int32⟩] else []
  let contents : List Field :=
    if firstListing ≤ version then
      [⟨coordinators, .array .compact (.struct (listedSchema form))⟩]
    else
      [⟨"error_code", .primitive .int16⟩] ++
      (if 1 ≤ version then [⟨"error_message", .primitive (.nullableString form)⟩] else []) ++
      [⟨coordinator, .struct (singleSchema form)⟩]
  let tags : List Field :=
    if form = .compact then [⟨"_tagged_fields", .primitive .tagBuffer⟩] else []
  ⟨"FindCoordinatorResponse", throttle ++ contents ++ tags⟩

/-- The schema of a response, if the version is supported. -/
def schema? (version : Int16) : Option Schema :=
  if 0 ≤ version ∧ version ≤ lastVersion then some (schema version) else none

end FindCoordinatorResponse

end KafkaWire
