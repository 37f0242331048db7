import KafkaWire.Error

/-!
# Failures of reading steps

Readers that are put together from general steps fail in general ways, which are told here as
errors of the codec: input that ends too early is insufficient data, and anything else is a
packet that cannot be decoded, described by the step that refused it.

The readers of this library are not put together so: they fail with errors of the codec at once, and
none of their steps is tried again. Neither of the two types occurs in them. They are for callers
that join these readers with others. There are more general steps than those of `StepFault`, which
are left out: their faults would be told like the last four, by a description.

## Main definitions

* `StepFault` — what a general step can find wrong, with `StepFault.toError`
* `Failure` — how a reading step ends without a value, with `Failure.toError`

## Main results

* `StepFault.isDecoding_toError`, `Failure.isDecoding_toError` — both are told as malformed bytes
-/

namespace KafkaWire

/-- What a general reading step can find wrong. -/
inductive StepFault
  /-- The input ends. -/
  | eof
  /-- The input ends where it should be complete. -/
  | complete
  /-- Another text than the expected one. -/
  | tag
  /-- No digit. -/
  | digit
  /-- A value that fails its test. -/
  | verify
  /-- A size beyond any input. -/
  | tooLarge
  deriving DecidableEq, Repr

namespace StepFault

/-- The description of a fault. -/
def description : StepFault → String
  | .eof => "End of file"
  | .complete => "Complete"
  | .tag => "Tag"
  | .digit => "Digit"
  | .verify => "predicate verification"
  | .tooLarge => "Needed data size is too large"

/-- The error that a fault amounts to. -/
def toError : StepFault → Error
  | .eof | .complete => .insufficientData
  | fault => .packetDecoding (.described fault.description)

/-- A general step blames the bytes, whatever it finds wrong. -/
theorem isDecoding_toError (fault : StepFault) : fault.toError.isDecoding = true := by
  cases fault <;> rfl

/-- The error of a step within which another step has failed: the error of the inner one. -/
def around (_outer : StepFault) (inner : Error) : Error := inner

end StepFault

/-- How a reading step ends without a value. -/
inductive Failure
  /-- It needs more input, so many bytes if that is known. -/
  | incomplete (needed : Option Nat)
  /-- It fails, and another step may be tried. -/
  | recoverable (e : Error)
  /-- It fails for good. -/
  | final (e : Error)
  deriving DecidableEq, Repr

/-- The error that a failure amounts to. -/
def Failure.toError : Failure → Error
  | .incomplete _ => .insufficientData
  | .recoverable e | .final e => e

/-- A step that needs more input blames the bytes, and every other one does what its error does,
whether or not another step may be tried. -/
theorem Failure.isDecoding_toError {failure : Failure}
    (h : ∀ e, failure = .recoverable e ∨ failure = .final e → e.isDecoding = true) :
    failure.toError.isDecoding = true := by
  cases failure with
  | incomplete needed => rfl
  | recoverable e => exact h e (.inl rfl)
  | final e => exact h e (.inr rfl)

end KafkaWire
