import KafkaWire.Main
import KafkaWire.Proofs.Amplification
import KafkaWire.Proofs.Inspection
import KafkaWire.Proofs.Passes
import KafkaWire.Proofs.Request.Frame
import KafkaWire.Proofs.Request.Names
import KafkaWire.Proofs.Response.Splice
import KafkaWire.Proofs.Schema.Canonical
import KafkaWire.Proofs.Truncation
import KafkaWire.Wire.Failure
import KafkaWire.Proofs.Wire.Stability
import KafkaWire.Proofs.Request.Stability
import KafkaWire.Proofs.Schema.LongTexts
import KafkaWire.Proofs.Wire.TagMap
import KafkaWire.Proofs.Wire.TagSpelling
import KafkaWire.Proofs.Schema.Faults
import KafkaWire.Proofs.Wire.VarintSpelling
import KafkaWire.Proofs.Response.Header
import KafkaWire.Proofs.Refusal
import KafkaWire.Proofs.Request.Stream
import KafkaWire.Proofs.Settings.MappingList
import KafkaWire.Proofs.Schema.Replacement
import KafkaWire.Proofs.Endpoint
