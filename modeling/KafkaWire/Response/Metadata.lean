import KafkaWire.Schema.Basic

/-!
# Metadata responses

The brokers of a cluster and the places of its partitions, by version.

```
response  => throttle_time_ms (from version 3) [brokers] cluster_id (2) controller_id (1)
             [topics] cluster_authorized_operations (8 to 10)
broker    => node_id host port rack (1)
topic     => error_code name (or null from 12) topic_id (10) is_internal (1) [partitions]
             topic_authorized_operations (8)
partition => error_code partition_index leader_id leader_epoch (7) [replica_nodes]
             [isr_nodes] [offline_replicas] (5)
```

Version 9 is the first flexible one: every struct ends with a tag buffer from there on.

## Main definitions

* `MetadataResponse.schema` — the schema of a version
* `MetadataResponse.schema?` — the same for supported versions only
-/

namespace KafkaWire

namespace MetadataResponse

/-- The first version with compact lengths and tag buffers. -/
def firstFlexible : Int16 := 9

/-- The last supported version. -/
def lastVersion : Int16 := 12

/-- The field that lists the brokers, in every version. -/
def brokers : String := "brokers"

/-- Fields that are there only under a condition. -/
def fieldsIf (present : Bool) (fields : List Field) : List Field :=
  if present then fields else []

/-- The tag buffer that ends a struct of a flexible version. -/
def tagFields (form : Form) : List Field :=
  fieldsIf (form = .compact) [⟨"_tagged_fields", .primitive .tagBuffer⟩]

/-- The schema of a broker. -/
def brokerSchema (version : Int16) : Schema :=
  let form := Form.of version firstFlexible
  ⟨"MetadataBroker",
    [⟨"node_id", .primitive .int32⟩,
      ⟨"host", .primitive (.string form)⟩,
      ⟨"port", .primitive .int32⟩] ++
    fieldsIf (1 ≤ version) [⟨"rack", .primitive (.nullableString form)⟩] ++
    tagFields form⟩

/-- The schema of a partition. -/
def partitionSchema (version : Int16) : Schema :=
  let form := Form.of version firstFlexible
  ⟨"MetadataPartition",
    [⟨"error_code", .primitive .int16⟩,
      ⟨"partition_index", .primitive .int32⟩,
      ⟨"leader_id", .primitive .int32⟩] ++
    fieldsIf (7 ≤ version) [⟨"leader_epoch", .primitive .int32⟩] ++
    [⟨"replica_nodes", .array form (.primitive .int32)⟩,
      ⟨"isr_nodes", .array form (.primitive .int32)⟩] ++
    fieldsIf (5 ≤ version) [⟨"offline_replicas", .array form (.primitive .int32)⟩] ++
    tagFields form⟩

/-- The schema of a topic. -/
def topicSchema (version : Int16) : Schema :=
  let form := Form.of version firstFlexible
  ⟨"MetadataTopic",
    [⟨"error_code", .primitive .int16⟩,
      ⟨"name", .primitive (if 12 ≤ version then .nullableString form else .string form)⟩] ++
    fieldsIf (10 ≤ version) [⟨"topic_id", .primitive .uuid⟩] ++
    fieldsIf (1 ≤ version) [⟨"is_internal", .primitive .bool⟩] ++
    [⟨"partition_metadata", .array form (.struct (partitionSchema version))⟩] ++
    fieldsIf (8 ≤ version) [⟨"topic_authorized_operations", .primitive .int32⟩] ++
    tagFields form⟩

/-- The schema of a response. -/
def schema (version : Int16) : Schema :=
  let form := Form.of version firstFlexible
  ⟨"MetadataResponse",
    fieldsIf (3 ≤ version) [⟨"throttle_time_ms", .primitive .int32⟩] ++
    [⟨brokers, .array form (.struct (brokerSchema version))⟩] ++
    fieldsIf (2 ≤ version) [⟨"cluster_id", .primitive (.nullableString form)⟩] ++
    fieldsIf (1 ≤ version) [⟨"controller_id", .primitive .int32⟩] ++
    [⟨"topic_metadata", .array form (.struct (topicSchema version))⟩] ++
    fieldsIf (8 ≤ version && version ≤ 10)
      [⟨"cluster_authorized_operations", .primitive .int32⟩] ++
    tagFields form⟩

/-- The schema of a response, if the version is supported. -/
def schema? (version : Int16) : Option Schema :=
  if 0 ≤ version ∧ version ≤ lastVersion then some (schema version) else none

end MetadataResponse

end KafkaWire
