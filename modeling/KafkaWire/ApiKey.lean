/-!
# Api keys

The numeric codes that tell request types apart. All codes are known by name, though only a few
requests have a decoder here.

## Main definitions

* `ApiKey` — the request types, in the order of their codes
* `ApiKey.code`, `ApiKey.ofCode?` — and their codes

## Main results

* `ApiKey.ofCode?_eq_some` — every key is found by its code, and by no other
-/

namespace KafkaWire

/-- A request type. -/
inductive ApiKey
  | produce
  | fetch
  | listOffsets
  | metadata
  | leaderAndIsr
  | stopReplica
  | updateMetadata
  | controlledShutdown
  | offsetCommit
  | offsetFetch
  | findCoordinator
  | joinGroup
  | heartbeat
  | leaveGroup
  | syncGroup
  | describeGroups
  | listGroups
  | saslHandshake
  | apiVersions
  | createTopics
  | deleteTopics
  | deleteRecords
  | initProducerId
  | offsetForLeaderEpoch
  | addPartitionsToTxn
  | addOffsetsToTxn
  | endTxn
  | writeTxnMarkers
  | txnOffsetCommit
  | describeAcls
  | createAcls
  | deleteAcls
  | describeConfigs
  | alterConfigs
  | alterReplicaLogDirs
  | describeLogDirs
  | saslAuthenticate
  | createPartitions
  | createDelegationToken
  | renewDelegationToken
  | expireDelegationToken
  | describeDelegationToken
  | deleteGroups
  | electLeaders
  | incrementalAlterConfigs
  | alterPartitionReassignments
  | listPartitionReassignments
  | offsetDelete
  | describeClientQuotas
  | alterClientQuotas
  | describeUserScramCredentials
  | alterUserScramCredentials
  deriving DecidableEq, Repr

namespace ApiKey

/-- All keys, in the order of their codes. -/
def all : List ApiKey := [
  .produce, .fetch, .listOffsets, .metadata, .leaderAndIsr, .stopReplica, .updateMetadata,
  .controlledShutdown, .offsetCommit, .offsetFetch, .findCoordinator, .joinGroup, .heartbeat,
  .leaveGroup, .syncGroup, .describeGroups, .listGroups, .saslHandshake, .apiVersions,
  .createTopics, .deleteTopics, .deleteRecords, .initProducerId, .offsetForLeaderEpoch,
  .addPartitionsToTxn, .addOffsetsToTxn, .endTxn, .writeTxnMarkers, .txnOffsetCommit,
  .describeAcls, .createAcls, .deleteAcls, .describeConfigs, .alterConfigs, .alterReplicaLogDirs,
  .describeLogDirs, .saslAuthenticate, .createPartitions, .createDelegationToken,
  .renewDelegationToken, .expireDelegationToken, .describeDelegationToken, .deleteGroups,
  .electLeaders, .incrementalAlterConfigs, .alterPartitionReassignments,
  .listPartitionReassignments, .offsetDelete, .describeClientQuotas, .alterClientQuotas,
  .describeUserScramCredentials, .alterUserScramCredentials]

/-- The code of a key. -/
def code (key : ApiKey) : Int16 := Int16.ofNat key.ctorIdx

/-- The key with a code. -/
def ofCode? (code : Int16) : Option ApiKey :=
  if 0 ≤ code then all[code.toNatClampNeg]? else none

theorem ofCode?_code (key : ApiKey) : ofCode? key.code = some key := by
  cases key <;> rfl

/-- The codes count the keys. -/
theorem code_getElem_all : ∀ n : Fin all.length, all[n].code = Int16.ofNat n := by
  decide

/-- **A key is found by its code** and by no other. -/
theorem ofCode?_eq_some {code : Int16} {key : ApiKey} :
    ofCode? code = some key ↔ key.code = code := by
  constructor
  · intro h
    rw [ofCode?, Option.ite_none_right_eq_some] at h
    obtain ⟨hcode, h⟩ := h
    obtain ⟨hlt, rfl⟩ := List.getElem?_eq_some_iff.mp h
    refine (code_getElem_all ⟨_, hlt⟩).trans ?_
    exact Int16.ofNat_toNatClampNeg _ hcode
  · rintro rfl
    exact ofCode?_code key

/-- The name of a key. -/
def name : ApiKey → String
  | .produce => "Produce"
  | .fetch => "Fetch"
  | .listOffsets => "ListOffsets"
  | .metadata => "Metadata"
  | .leaderAndIsr => "LeaderAndIsr"
  | .stopReplica => "StopReplica"
  | .updateMetadata => "UpdateMetadata"
  | .controlledShutdown => "ControlledShutdown"
  | .offsetCommit => "OffsetCommit"
  | .offsetFetch => "OffsetFetch"
  | .findCoordinator => "FindCoordinator"
  | .joinGroup => "JoinGroup"
  | .heartbeat => "Heartbeat"
  | .leaveGroup => "LeaveGroup"
  | .syncGroup => "SyncGroup"
  | .describeGroups => "DescribeGroups"
  | .listGroups => "ListGroups"
  | .saslHandshake => "SaslHandshake"
  | .apiVersions => "ApiVersions"
  | .createTopics => "CreateTopics"
  | .deleteTopics => "DeleteTopics"
  | .deleteRecords => "DeleteRecords"
  | .initProducerId => "InitProducerId"
  | .offsetForLeaderEpoch => "OffsetForLeaderEpoch"
  | .addPartitionsToTxn => "AddPartitionsToTxn"
  | .addOffsetsToTxn => "AddOffsetsToTxn"
  | .endTxn => "EndTxn"
  | .writeTxnMarkers => "WriteTxnMarkers"
  | .txnOffsetCommit => "TxnOffsetCommit"
  | .describeAcls => "DescribeAcls"
  | .createAcls => "CreateAcls"
  | .deleteAcls => "DeleteAcls"
  | .describeConfigs => "DescribeConfigs"
  | .alterConfigs => "AlterConfigs"
  | .alterReplicaLogDirs => "AlterReplicaLogDirs"
  | .describeLogDirs => "DescribeLogDirs"
  | .saslAuthenticate => "SaslAuthenticate"
  | .createPartitions => "CreatePartitions"
  | .createDelegationToken => "CreateDelegationToken"
  | .renewDelegationToken => "RenewDelegationToken"
  | .expireDelegationToken => "ExpireDelegationToken"
  | .describeDelegationToken => "DescribeDelegationToken"
  | .deleteGroups => "DeleteGroups"
  | .electLeaders => "ElectLeaders"
  | .incrementalAlterConfigs => "IncrementalAlterConfigs"
  | .alterPartitionReassignments => "AlterPartitionReassignments"
  | .listPartitionReassignments => "ListPartitionReassignments"
  | .offsetDelete => "OffsetDelete"
  | .describeClientQuotas => "DescribeClientQuotas"
  | .alterClientQuotas => "AlterClientQuotas"
  | .describeUserScramCredentials => "DescribeUserScramCredentials"
  | .alterUserScramCredentials => "AlterUserScramCredentials"

end ApiKey

end KafkaWire
