import Crabedence.Capability.Grant
import Crabedence.Capability.Registry

/-!
# Authority verification

`VerifyAuthority`: the grant of a request is resolved and compared with the capability, and the
arguments that the capability binds to resource dimensions are compared with the grant's constraints.
-/

namespace Crabedence.Capability

open Json Go

inductive FailureCode where
  | invalidRequest
  | unauthorized
  | capabilityNotFound
deriving DecidableEq, Repr

structure Denial where
  code : FailureCode
  reason : Str
deriving DecidableEq

/-- The part of an `AdmissionRequest` that `VerifyAuthority` reads. -/
structure AdmissionRequest where
  capability : Str
  arguments : RawMessage
  principal : Str
  grantID : Str

/-- A resolver; `expiryIsAuthoritative` is `none` where it lacks the method. -/
structure GrantResolver where
  resolve : Str → Str → Except Str (Option Grant)
  expiryIsAuthoritative : Option Bool

/-- What the functions of other packages print: the decoder's errors and the verb `%q`. -/
structure Printing where
  texts : ErrorTexts
  quote : Str → Str

section Arguments

def goString (text : Text) : Str := str (textString text)

/-- The kind of a value that does not fit, as an `UnmarshalTypeError` names it. -/
def unmarshalKind : Value Number → String
  | .null => "null"
  | .bool _ => "bool"
  | .number _ => "number"
  | .string _ => "string"
  | .array _ => "array"
  | .object _ => "object"

/-- `json.Unmarshal` into a `map[string]json.RawMessage`. -/
def unmarshalMembers (texts : ErrorTexts) (raw : RawMessage) :
    Except String (List (Str × Value Number)) := do
  let (document, rest) ← (decodeValue (Utf8.decode raw)).mapError texts.decode
  (requireEOF rest).mapError texts.decode
  match document.collect with
  | .object members => return members.map fun member => (goString member.1, member.2)
  | .null => return []
  | other => throw ("json: cannot unmarshal " ++ unmarshalKind other ++
      " into Go value of type map[string]json.RawMessage")

/-- `json.Unmarshal` into a `string`, which null leaves empty. -/
def unmarshalString : Value Number → Option Str
  | .string text => some (goString text)
  | .null => some []
  | _ => none

end Arguments

section Verification

variable (printing : Printing)

/-- The body of the loop of `checkResourceConstraints`: the reason to deny, if there is one. -/
def checkDimension (policy : AuthorityPolicy) (args : List (Str × Value Number)) (grant : Grant)
    (dimension : Str) : Option Denial :=
  let quote := printing.quote
  let argName := (policy.resourceArguments.get? dimension).getD []
  let unevaluated := fun why : String =>
    Denial.mk .unauthorized (str "grant " ++ grant.id ++
      str " cannot be evaluated: resource argument " ++ quote argName ++ str " (dimension " ++
      quote dimension ++ str ") is " ++ str why)
  match args.lookup argName with
  | none => some (unevaluated "missing")
  | some field =>
    match unmarshalString field with
    | none => some (unevaluated "not a string")
    | some value =>
      if grant.allowsResource dimension value then none
      else some ⟨.unauthorized, str "grant " ++ grant.id ++ str " does not permit " ++ dimension ++
        str " " ++ quote value⟩

def checkResourceConstraints (policy : AuthorityPolicy) (raw : RawMessage) (grant : Grant) :
    Option Denial :=
  match unmarshalMembers printing.texts raw with
  | .error failure =>
    some ⟨.invalidRequest,
      str "cannot evaluate resource constraints: arguments are not a JSON object: " ++ str failure⟩
  | .ok args =>
    (sortStrings policy.resourceArguments.keys).findSome? (checkDimension printing policy args grant)

def unauthorized {Result : Type} (reason : Str) : Except Denial Result :=
  .error ⟨.unauthorized, reason⟩

/-- The end of `VerifyAuthority`: what a resolved grant must satisfy at the application time `now`. -/
def verifyGrant (now : Time) (req : AdmissionRequest) (desc : Descriptor) (dbOwnedExpiry : Bool)
    (grant : Grant) : Except Denial (Option Grant) :=
  if grant.revoked || !grant.hasCapability req.capability ||
      (!dbOwnedExpiry && grant.expired now) then
    unauthorized (str "grant " ++ req.grantID ++ str " does not permit capability " ++
      req.capability ++ str " (expired, revoked, or not authorized)")
  else if desc.authorityPolicy.resourceArguments.entries = [] then .ok (some grant)
  else
    match checkResourceConstraints printing desc.authorityPolicy req.arguments grant with
    | some denial => .error denial
    | none => .ok (some grant)

def Registry.verifyAuthority (r : Registry) (now : Time) (req : AdmissionRequest)
    (resolver : Option GrantResolver) : Except Denial (Option Grant) :=
  if req.principal = [] then unauthorized (str "missing principal")
  else
    match r.lookup req.capability with
    | none => .error ⟨.capabilityNotFound, str "capability not registered: " ++ req.capability⟩
    | some desc =>
      if desc.authorityPolicy.grantRequired = false then .ok none
      else if req.grantID = [] then unauthorized (str "missing grant_id")
      else
        match resolver with
        -- no resolver configured: grant-required capabilities fail closed
        | none => unauthorized (str "no grant resolver configured")
        | some resolver =>
          match resolver.resolve req.grantID req.principal with
          | .error failure => unauthorized (str "grant resolution failed: " ++ failure)
          | .ok none =>
            unauthorized (str "grant not found or not issued to principal: " ++ req.grantID)
          | .ok (some grant) =>
            verifyGrant printing now req desc (resolver.expiryIsAuthoritative.getD false) grant

end Verification

end Crabedence.Capability
