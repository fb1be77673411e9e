import Crabedence.Evidence

/-!
# Requests, responses and recovery locators

The wire types of `internal/execution/service.go`, the part of a resolved capability descriptor the
executor reads, and the recovery locator of `internal/idempotency/contract.go`.
-/

namespace Crabedence

inductive ExecutionClass where
  | pure
  | read
  | mutation
  | critical
  deriving DecidableEq, Repr

namespace ExecutionClass

def text : ExecutionClass → String
  | pure => "PURE"
  | read => "READ"
  | mutation => "MUTATION"
  | critical => "CRITICAL"

def isDurable : ExecutionClass → Bool
  | mutation | critical => true
  | pure | read => false

end ExecutionClass

structure RequestAuthority where
  principal : String
  authorityRef : String
  grantID : String
  authorityGeneration : Int
  authorityDigest : String
  deriving DecidableEq, Repr

def RequestAuthority.effectiveAuthorityRef (authority : RequestAuthority) : String :=
  if authority.authorityRef ≠ "" then authority.authorityRef else authority.grantID

structure Request where
  capability : String
  arguments : RawMessage
  authority : RequestAuthority
  idempotencyKey : String
  deadline : String
  deriving DecidableEq, Repr

/-- The pinned descriptor.  `descriptorDigest` is what its `DescriptorDigest` method returns. -/
structure ResolvedDescriptor where
  id : String
  descriptorVersion : Int
  descriptorDigest : Except String String
  executionClass : ExecutionClass
  assuranceProfile : String
  executionRoute : String
  adapterID : String

/-- Response statuses; a handler may return any text. -/
inductive Status where
  | succeeded
  | failed
  | denied
  | unknown
  | inFlight
  | other (text : String)
  deriving DecidableEq, Repr

def Status.text : Status → String
  | .succeeded => "SUCCEEDED"
  | .failed => "FAILED"
  | .denied => "DENIED"
  | .unknown => "UNKNOWN"
  | .inFlight => "IN_FLIGHT"
  | .other written => written

def stateToStatus : State → Status
  | .committed => .succeeded
  | .failed => .failed
  | .denied => .denied
  | .unknown => .unknown
  | .inFlight => .inFlight
  | .prepared => .other State.prepared.text
  | .executing => .other State.executing.text

structure EvidenceRef where
  digest : String
  receiptVersion : Int
  deriving DecidableEq, Repr

structure ExecutionMeta where
  provider : String
  runID : String
  deriving DecidableEq, Repr

structure Response where
  status : Status
  failureCode : String := ""
  result : RawMessage := []
  error : String := ""
  evidence : Option EvidenceRef := none
  execution : Option ExecutionMeta := none
  definitiveFailure : Bool := false
  evidenceArtifact : List UInt8 := []
  deriving DecidableEq, Repr

def failureInvalidRequest : String := "INVALID_REQUEST"

def failureCapabilityUnavailable : String := "CAPABILITY_UNAVAILABLE"

def failureAdmissionDenied : String := "ADMISSION_DENIED"

def failureExecutionFailed : String := "EXECUTION_FAILED"

def failureExecutionUnknown : String := "EXECUTION_UNKNOWN"

def failureInFlight : String := "IN_FLIGHT"

def failureInternalError : String := "INTERNAL_ERROR"

def failureIdempotencyConflict : String := "IDEMPOTENCY_CONFLICT"

structure RecoveryLocator where
  version : Int
  providerID : String
  strategy : String
  externalToken : String
  resourceRef : String
  requestDigest : String
  executionID : String
  principalID : String
  capabilityID : String
  idempotencyKey : String
  extensions : RawMessage
  deriving DecidableEq, Repr

structure RecoveryLocatorInput where
  executionID : String
  adapterID : String
  capabilityID : String
  principal : String
  idempotencyKey : String
  requestDigest : String
  arguments : RawMessage
  deriving DecidableEq, Repr

/-- What the dispatch of a request to its handler came to: an answer, or no answer within the
executor's ceiling and grace, with the reason the dispatch context reports. -/
inductive HandlerReply where
  | answered (response : Response)
  | outlived (cause : String)
  deriving DecidableEq, Repr

end Crabedence
