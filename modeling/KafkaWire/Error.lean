import KafkaWire.Text.Numeral
import KafkaWire.Text.Quoted
import KafkaWire.Wire.Basic

/-!
# Errors

Everything that can go wrong, as causes. The errors fall into a few groups: bytes that end too
early or do not form a value, values that the wire cannot carry, structs that disagree with
their schema, requests without a decoder, endpoints without a mapping, frames over the limit,
failing streams and faulty settings. The wording of each stands in one place, `Error.message`.

## What is deliberately absent

Streams fail in many more ways than `StreamFault` lists. The first two are those that frames run
into by themselves; the others stand for all the failures that are merely passed on. And of a
settings document that is no JSON it is only said that it is none (`SettingsFault.invalidJson`), not
where and why: that is the wording of a parser which is not modelled.

## Main definitions

* `Error` — an error, with the facts that its wording needs
* `Error.message` — its wording
* `Error.isDecoding` — whether malformed bytes caused it
-/

namespace KafkaWire

/-- Bytes that are present but form no packet. -/
inductive PacketFault
  /-- A complete value was read and bytes are left. -/
  | leftover (count : Nat)
  /-- A tag that does not exceed the one before it. -/
  | tagOrder (tag last : UInt32)
  /-- A request too short for its own key and version. -/
  | requestLength (length : Int32)
  /-- A request whose length field disagrees with the bytes that follow it. -/
  | frameLength (declared : Int32) (received : Nat)
  /-- A body of another key or version than its frame begins with. -/
  | wrongBody (key version headKey headVersion : Int16)
  /-- Any other fault, in its own words. -/
  | described (text : String)
  deriving DecidableEq, Repr

/-- The wording of a fault. -/
def PacketFault.message : PacketFault → String
  | .leftover count => s!"invalid length: {count} bytes remaining"
  | .tagOrder tag last => s!"tagged field {tag} out of order after {last}"
  | .requestLength length => s!"invalid request length {length}"
  | .frameLength declared received =>
    s!"frame length {declared} does not match the {received} bytes received"
  | .wrongBody key version headKey headVersion =>
    s!"body decoded as key {key} version {version} but the frame says " ++
      s!"key {headKey} version {headVersion}"
  | .described text => text

/-- A value that the wire cannot carry. -/
inductive EncodingFault
  /-- A length above the limit of its kind. -/
  | tooLong (what : Counted) (length : Nat)
  /-- A frame whose length field cannot hold its length. -/
  | frameTooLong (length : Nat)
  /-- The counting pass and the writing pass disagree. -/
  | passesDisagree (counted written : Nat)
  /-- Any other fault, in its own words. -/
  | described (text : String)
  deriving DecidableEq, Repr

/-- The wording of a fault. -/
def EncodingFault.message : EncodingFault → String
  | .tooLong what length => s!"length {length} exceeds {what.widthName}"
  | .frameTooLong length => s!"frame of {length} bytes"
  | .passesDisagree counted written =>
    s!"prepass computed {counted} bytes but {written} were written"
  | .described text => text

/-- A value or struct that cannot be written by a schema. -/
inductive ShapeFault
  /-- A schema with two fields of one name. -/
  | duplicateField (field schema : String)
  /-- A struct with too few or too many values. -/
  | valueCount (schema : String) (values fields : Nat)
  /-- A nested struct of another schema than its field's. -/
  | wrongStruct (field expected found : String)
  /-- A value of another kind than its field's type takes. -/
  | wrongKind (field expected found : String)
  /-- A struct written by another schema than its own. -/
  | writtenAs (found expected : String)
  /-- A replacement of another kind than the value it replaces. -/
  | replacement (kind schema field newKind : String)
  /-- Any other fault, in its own words. -/
  | described (text : String)
  deriving DecidableEq, Repr

/-- The wording of a fault. -/
def ShapeFault.message : ShapeFault → String
  | .duplicateField field schema => s!"duplicate field {field} in schema {schema}"
  | .valueCount schema values fields => s!"struct {schema} has {values} values for {fields} fields"
  | .wrongStruct field expected found =>
    s!"field {field}: expected struct {expected}, found struct {found}"
  | .wrongKind field expected found => s!"field {field}: expected {expected}, found {found}"
  | .writtenAs found expected => s!"struct {found} encoded as {expected}"
  | .replacement kind schema field newKind =>
    s!"cannot replace {kind} field {schema}.{field} with {newKind}"
  | .described text => text

/-- A message or struct in which a schema does not find what it describes. -/
inductive AccessFault
  /-- The schema read a struct and bytes are left. -/
  | leftover (count : Nat) (schema : String)
  /-- No field of that name. -/
  | unknownField (field schema : String)
  /-- A field for which the struct holds no value. -/
  | missingValue (field : String)
  /-- A field of another kind than asked for. -/
  | wrongKind (schema field expected found : String)
  /-- An element of a list of brokers that is no struct. -/
  | notBroker (found : String)
  /-- Any other fault, in its own words. -/
  | described (text : String)
  deriving DecidableEq, Repr

/-- The wording of a fault. -/
def AccessFault.message : AccessFault → String
  | .leftover count schema => s!"{count} bytes remaining after decoding {schema}"
  | .unknownField field schema => s!"field {field} not found in {schema}"
  | .missingValue field => s!"field {field} has no value"
  | .wrongKind schema field expected found =>
    s!"field {schema}.{field}: expected {expected}, found {found}"
  | .notBroker found => s!"expected a broker struct, found {found}"
  | .described text => text

/-- An endpoint that an address mapping does not cover. -/
inductive MappingFault
  /-- No entry for that endpoint. -/
  | unmapped (host : String) (port : Int32)
  /-- Any other fault, in its own words. -/
  | described (text : String)
  deriving DecidableEq, Repr

/-- The wording of a fault. -/
def MappingFault.message : MappingFault → String
  | .unmapped host port => s!"no mapping for {host}:{port}"
  | .described text => text

/-- How a stream fails. -/
inductive StreamFault
  | unexpectedEof
  | writeZero
  | brokenPipe
  | connectionReset
  | timedOut
  deriving DecidableEq, Repr

/-- The name of the failure. -/
def StreamFault.name : StreamFault → String
  | .unexpectedEof => "UnexpectedEof"
  | .writeZero => "WriteZero"
  | .brokenPipe => "BrokenPipe"
  | .connectionReset => "ConnectionReset"
  | .timedOut => "TimedOut"

/-- Settings that cannot be used. -/
inductive SettingsFault
  /-- A text that is no settings document. -/
  | invalidJson
  /-- A frame size limit of zero. -/
  | zeroLimit
  /-- A variable whose value is no size. -/
  | invalidSize (key text : String) (fault : NumeralFault)
  /-- An entry of a mapping list without a comma. -/
  | noAdvertised (key entry : String)
  /-- An endpoint without a colon. -/
  | noPort (endpoint : String)
  /-- An endpoint that begins with its only colon. -/
  | noHost (endpoint : String)
  /-- An endpoint whose port is no number. -/
  | invalidPort (endpoint : String) (fault : NumeralFault)
  /-- An endpoint whose port is a number, but no port. -/
  | portRange (port : Int) (endpoint : String)
  /-- Any other fault, in its own words. -/
  | described (text : String)
  deriving DecidableEq, Repr

/-- The wording of a fault. -/
def SettingsFault.message : SettingsFault → String
  | .invalidJson => "invalid json"
  | .zeroLimit => "frame size limits must be positive"
  | .invalidSize key text fault =>
    s!"{key}: invalid size " ++ Text.quote text ++ ": " ++ fault.message
  | .noAdvertised key entry =>
    s!"{key}: expected broker,advertised but got " ++ Text.quote entry
  | .noPort endpoint => "expected host:port, got " ++ Text.quote endpoint
  | .noHost endpoint => "missing host in " ++ Text.quote endpoint
  | .invalidPort endpoint fault =>
    "invalid port in " ++ Text.quote endpoint ++ ": " ++ fault.message
  | .portRange port endpoint => s!"port {port} out of range in " ++ Text.quote endpoint
  | .described text => text

/-- An error of the codec or of what surrounds it. -/
inductive Error
  /-- The bytes end before a declared length is satisfied. -/
  | insufficientData
  /-- A boolean byte other than zero or one. -/
  | invalidBool
  /-- A length that is negative where null is not allowed, or above what reading admits. -/
  | invalidLength (what : Counted) (length : Int)
  /-- A varint that does not fit its type. -/
  | invalidVarint
  /-- A text that is not in UTF-8. -/
  | invalidUtf8
  | packetDecoding (fault : PacketFault)
  | packetEncoding (fault : EncodingFault)
  | schemaEncoding (fault : ShapeFault)
  | schemaDecoding (fault : AccessFault)
  | unsupportedApiKey (key : Int16)
  | unsupportedApiVersion (key version : Int16)
  | addressMapping (fault : MappingFault)
  /-- A frame whose announced size is negative or above the limit. -/
  | frameTooLarge (size : Int) (max : Nat)
  | stream (fault : StreamFault)
  | settings (fault : SettingsFault)
  deriving DecidableEq, Repr

namespace Error

/-- The wording of an error. -/
def message : Error → String
  | .insufficientData => "kafka: insufficient data to decode packet, more bytes expected"
  | .invalidBool => "kafka: error decoding packet: invalid bool"
  | .invalidLength what length =>
    s!"kafka: error decoding packet: invalid {what.name} length {length}"
  | .invalidVarint => "kafka: error decoding packet: varint overflow"
  | .invalidUtf8 => "kafka: error decoding packet: invalid utf-8 string"
  | .packetDecoding fault => "kafka: error decoding packet: " ++ fault.message
  | .packetEncoding fault => "kafka: error encoding packet: " ++ fault.message
  | .schemaEncoding fault => "schema: error encoding: " ++ fault.message
  | .schemaDecoding fault => "schema: error decoding: " ++ fault.message
  | .unsupportedApiKey key => s!"unsupported api key {key}"
  | .unsupportedApiVersion key version => s!"unsupported version {version} for api key {key}"
  | .addressMapping fault => "address mapping error: " ++ fault.message
  | .frameTooLarge size max => s!"frame of {size} bytes exceeds the maximum of {max}"
  | .stream fault => "IO error: " ++ fault.name
  | .settings fault => "Configuration error: " ++ fault.message

/-- Whether the error says that the bytes read are malformed or incomplete. -/
def isDecoding : Error → Bool
  | .insufficientData | .invalidBool | .invalidLength .. | .invalidVarint | .invalidUtf8
  | .packetDecoding _ | .schemaDecoding _ => true
  | _ => false

end Error

end KafkaWire
