/-
# What a request came to

`ExecutionResult` is what an executor reports of one request, and a metrics collector and an
event recorder record. Instants and durations are nanoseconds.
-/
import Mathlib.Data.List.Basic

namespace Netanvil.Types

inductive ExecutionError where
  | connect (text : String)
  | timeout
  | http (text : String)
  | tls (text : String)
  | protocol (text : String)
  | other (text : String)
  deriving DecidableEq

/-- The result of one request; of the latency breakdown only the total is kept. -/
structure ExecutionResult where
  requestId : Nat
  /-- When the request was due. -/
  intendedTime : Nat
  /-- When the timer thread sent it. -/
  sentTime : Nat
  /-- When the worker took it off its channel. -/
  actualTime : Nat
  /-- When its execution began. -/
  dispatchTime : Nat
  total : Nat
  status : Option Nat
  bytesSent : Nat
  responseSize : Nat
  error : Option ExecutionError
  responseHeaders : Option (List (String × String))
  responseBody : Option (List UInt8)

/-- Event recorders with states in `E`. -/
structure EventRecorder (E : Type) where
  record : E → ExecutionResult → E
  flush : E → E

end Netanvil.Types
