import Crabedence.Digest.Request
import Crabedence.Dispatch.Pipeline

/-!
# Receipt digests

What `TerminalReceipt.Digest` hashes.  The store's results hold for whatever the JSON functions
return; here they are the source's own, so that the hashed bytes can be compared.  The encoder writes
a byte that is no UTF-8 as the replacement character, so the bytes of two receipts are equal exactly
if their strings have the same runes and their results are equal as JSON values.  The store's
receipts are text, where the same runes are the same string.
-/

namespace Crabedence

open Json Utf8

/-- The members of the hashed object, in the order of the struct. -/
inductive ReceiptField where
  | executionID | capability | principal | requestDigest | terminalStatus | canonicalResult
  | providerID | providerRunID | evidenceDigest | receiptVersion
deriving DecidableEq

namespace ReceiptField

def all : List ReceiptField :=
  [executionID, capability, principal, requestDigest, terminalStatus, canonicalResult, providerID,
    providerRunID, evidenceDigest, receiptVersion]

def name : ReceiptField → String
  | executionID => "execution_id"
  | capability => "capability"
  | principal => "principal"
  | requestDigest => "request_digest"
  | terminalStatus => "terminal_status"
  | canonicalResult => "canonical_result"
  | providerID => "provider_id"
  | providerRunID => "provider_run_id"
  | evidenceDigest => "evidence_digest"
  | receiptVersion => "receipt_version"

def key (field : ReceiptField) : Text := field.name.toList.map some

theorem mem_all (field : ReceiptField) : field ∈ all := by
  cases field <;> decide

theorem key_injective : Function.Injective key := by
  intro field other same
  cases field <;> cases other <;> first | rfl | exact absurd same (by decide)

end ReceiptField

def textRunes (text : String) : Text := text.toList.map some

def textValue {N : Type} (text : String) : Value N := .string (textRunes text)

theorem textRunes_injective : Function.Injective textRunes := by
  intro text other same
  exact String.toList_inj.mp (List.map_injective_iff.mpr (fun _ _ => Option.some.inj) same)

theorem textValue_injective {N : Type} : Function.Injective (textValue : String → Value N) :=
  fun _ _ same => textRunes_injective (Value.string.inj same)

def State.runes (state : State) : Text := textRunes state.text

theorem State.text_injective : Function.Injective State.text := by
  intro state other same
  cases state <;> cases other <;> first | rfl | exact absurd same (by decide)

namespace TerminalPayload

variable {S T N : Type} (runes : S → Text) (status : T → Text)

def optionalText (text : Text) : Option (Value N) :=
  if text = [] then none else some (.string text)

/-- The members of the hashed object; three of them are left out when they are empty. -/
def member (number : Int → N) (payload : TerminalPayload S T) (result : Option (Value N)) :
    ReceiptField → Option (Value N)
  | .executionID => some (.string (runes payload.executionID))
  | .capability => some (.string (runes payload.capability))
  | .principal => some (.string (runes payload.principal))
  | .requestDigest => some (.string (runes payload.requestDigest))
  | .terminalStatus => some (.string (status payload.terminalStatus))
  | .canonicalResult => result
  | .providerID => some (.string (runes payload.providerID))
  | .providerRunID => some (.string (runes payload.providerRunID))
  | .evidenceDigest => optionalText (runes payload.evidenceDigest)
  | .receiptVersion => BoundRequest.optionalNumber number payload.receiptVersion

def members (number : Int → N) (payload : TerminalPayload S T) (result : Option (Value N)) :
    List (Text × Value N) :=
  presentMembers ReceiptField.key ReceiptField.all (payload.member runes status number result)

def rawResult (payload : TerminalPayload S T) : Option (Value (List Char)) :=
  if payload.canonicalResult.length = 0 then none
  else some (.number ((Utf8.decode payload.canonicalResult).map fun rune => rune.getD '\uFFFD'))

/-- The payload with every string replaced. -/
def map {S' T' : Type} (string : S → S') (status : T → T') (payload : TerminalPayload S T) :
    TerminalPayload S' T' where
  executionID := string payload.executionID
  capability := string payload.capability
  principal := string payload.principal
  requestDigest := string payload.requestDigest
  terminalStatus := status payload.terminalStatus
  canonicalResult := payload.canonicalResult
  providerID := string payload.providerID
  providerRunID := string payload.providerRunID
  evidenceDigest := string payload.evidenceDigest
  receiptVersion := payload.receiptVersion

end TerminalPayload

/-- `json.Marshal` of the struct in `TerminalReceipt.Digest`, over the runes of its strings. -/
def marshalTerminalPayload {S T : Type} (runes : S → Text) (status : T → Text)
    (payload : TerminalPayload S T) : List UInt8 :=
  marshal (.object (payload.members runes status integerText payload.rawResult))

def Platform.withJSON (platform : Platform) (texts : ErrorTexts) : Platform :=
  { platform with
    canonicalize := canonicalizeMessage texts
    marshalTerminalPayload := Crabedence.marshalTerminalPayload textRunes State.runes }

def DispatchPlatform.withJSON (platform : DispatchPlatform) (texts : ErrorTexts) :
    DispatchPlatform :=
  { platform with toPlatform := platform.toPlatform.withJSON texts }

section Bytes

def resultBytes : Option (Value Number) → RawMessage
  | none => []
  | some value => Utf8.encode value.text

theorem resultBytes_injective : Function.Injective resultBytes := by
  intro result other same
  cases result with
  | none =>
    cases other with
    | none => rfl
    | some second => exact absurd same.symm (encode_ne_nil (second.text_ne_nil))
  | some first =>
    cases other with
    | none => exact absurd same (encode_ne_nil (first.text_ne_nil))
    | some second => rw [Value.text_injective (Utf8.encode_injective same)]

variable {S T : Type} {runes : S → Text} {status : T → Text} {payload : TerminalPayload S T}
  {result : Option (Value Number)}

theorem TerminalPayload.rawResult_bytes (holds : payload.canonicalResult = resultBytes result) :
    payload.rawResult = result.map fun value => .number value.text := by
  unfold rawResult
  rw [holds]
  cases result with
  | none => rfl
  | some value =>
    have written : (resultBytes (some value)).length ≠ 0 :=
      fun empty => encode_ne_nil (value.text_ne_nil) (List.length_eq_zero_iff.mp empty)
    rw [if_neg written, resultBytes, Utf8.decode_encode, List.map_map]
    simp [Function.comp_def]

theorem marshalTerminalPayload_eq (holds : payload.canonicalResult = resultBytes result) :
    marshalTerminalPayload runes status payload =
      Utf8.encode (Value.object (payload.members runes status Number.ofInt result)).text := by
  have same : (payload.members runes status integerText payload.rawResult).map
      (fun member => memberText (member.1, member.2.print)) =
        (payload.members runes status Number.ofInt result).map
          fun member => memberText (member.1, member.2.text) := by
    unfold TerminalPayload.members presentMembers
    rw [TerminalPayload.rawResult_bytes holds, List.map_filterMap, List.map_filterMap]
    apply List.filterMap_congr
    intro field _
    cases field with
    | canonicalResult => cases result <;> rfl
    | evidenceDigest =>
      dsimp only [TerminalPayload.member, TerminalPayload.optionalText]
      split_ifs <;> rfl
    | receiptVersion =>
      dsimp only [TerminalPayload.member, BoundRequest.optionalNumber]
      split_ifs
      · exact congrArg (fun text => some (memberText (_, text)))
          (Number.text_ofInt payload.receiptVersion).symm
      · rfl
    | _ => rfl
  rw [marshalTerminalPayload, marshal, Value.print_object, Value.text_object, same]

theorem optionalText_injective {N : Type} :
    Function.Injective (TerminalPayload.optionalText : Text → Option (Value N)) := by
  intro text other same
  unfold TerminalPayload.optionalText at same
  split_ifs at same with first second
  · exact first.trans second.symm
  · exact Value.string.inj (Option.some.inj same)

theorem marshalTerminalPayload_inj {other : TerminalPayload S T} {second : Option (Value Number)}
    (holds : payload.canonicalResult = resultBytes result)
    (also : other.canonicalResult = resultBytes second)
    (same : marshalTerminalPayload runes status payload =
      marshalTerminalPayload runes status other) :
    payload.map runes status = other.map runes status := by
  rw [marshalTerminalPayload_eq holds, marshalTerminalPayload_eq also] at same
  have members := Value.object.inj (Value.text_injective (Utf8.encode_injective same))
  have fields := (Value.object_present_eq_iff ReceiptField.key_injective ReceiptField.mem_all
    (payload.member runes status Number.ofInt result)
    (other.member runes status Number.ofInt second)).mp
      (congrArg (fun members => Value.object (gather members)) members)
  have text {first last : Text}
      (same : some (Value.string first : Value Number) = some (.string last)) : first = last :=
    Value.string.inj (Option.some.inj same)
  have results : result = second := fields .canonicalResult
  have canonical : payload.canonicalResult = other.canonicalResult := by rw [holds, also, results]
  unfold TerminalPayload.map
  rw [TerminalPayload.mk.injEq]
  exact ⟨text (fields .executionID), text (fields .capability), text (fields .principal),
    text (fields .requestDigest), text (fields .terminalStatus), canonical,
    text (fields .providerID), text (fields .providerRunID),
    optionalText_injective (fields .evidenceDigest),
    (BoundRequest.optionalNumber_eq_iff _ _).mp (fields .receiptVersion)⟩

theorem TerminalPayload.map_textRunes_injective :
    Function.Injective (TerminalPayload.map textRunes State.runes) := by
  intro payload other same
  unfold TerminalPayload.map at same
  rw [TerminalPayload.mk.injEq] at same
  obtain ⟨execution, capability, principal, digest, status, result, provider, run, evidence,
    version⟩ := same
  have text {first last : String} (same : textRunes first = textRunes last) := textRunes_injective same
  cases payload
  cases other
  rw [TerminalPayload.mk.injEq]
  exact ⟨text execution, text capability, text principal, text digest,
    State.text_injective (text status), result, text provider, text run, text evidence, version⟩

/-- Payloads of the store's receipts are told apart by their bytes. -/
theorem TerminalPayload.eq_of_marshal {payload : TerminalPayload} {result : Option (Value Number)}
    {other : TerminalPayload} {second : Option (Value Number)}
    (holds : payload.canonicalResult = resultBytes result)
    (also : other.canonicalResult = resultBytes second)
    (same : marshalTerminalPayload textRunes State.runes payload =
      marshalTerminalPayload textRunes State.runes other) : payload = other :=
  map_textRunes_injective (marshalTerminalPayload_inj holds also same)

end Bytes

section Receipts

variable {texts : ErrorTexts} {result second : Option (Value Number)}

def HoldsResult (raw : RawMessage) : Option (Value Number) → Prop
  | none => raw = []
  | some value => Decodes raw value

variable {raw canonical : RawMessage} {platform : Platform}

theorem HoldsResult.canonicalized (platform : Platform) (holds : HoldsResult raw result) :
    canonicalizeJSON (platform.withJSON texts) raw =
      .ok (resultBytes (result.map fun value => value.map Number.normalize)) := by
  unfold canonicalizeJSON
  cases result with
  | none =>
    rw [show raw = [] from holds]
    rfl
  | some value =>
    rw [if_neg (Decodes.nonempty holds)]
    exact canonicalizeMessage_of_decodes texts holds

section

variable (accepted : canonicalizeJSON (platform.withJSON texts) raw = .ok canonical)
include accepted

theorem holdsResult_of_canonicalizeJSON : ∃ result, HoldsResult raw result := by
  unfold canonicalizeJSON at accepted
  split_ifs at accepted with empty
  · exact ⟨none, List.length_eq_zero_iff.mp empty⟩
  · obtain ⟨value, decodes, _⟩ := decodes_of_canonicalizeMessage accepted
    exact ⟨some value, decodes⟩

theorem canonicalizeJSON_idempotent :
    canonicalizeJSON (platform.withJSON texts) canonical = .ok canonical := by
  unfold canonicalizeJSON at accepted ⊢
  split_ifs at accepted with empty
  · cases accepted
    rfl
  · split_ifs with none
    · rw [List.length_eq_zero_iff.mp none]
    · exact canonicalizeMessage_idempotent accepted

theorem canonicalizeJSON_ne_nil (present : raw ≠ []) : canonical ≠ [] := by
  unfold canonicalizeJSON at accepted
  rw [if_neg (mt List.length_eq_zero_iff.mp present)] at accepted
  obtain ⟨value, _, rfl⟩ := decodes_of_canonicalizeMessage accepted
  exact encode_ne_nil (Value.text_ne_nil _)

end

variable {receipt : TerminalReceipt} {written other : TerminalReceipt GoString GoString}

/-- The bytes `TerminalReceipt.Digest` hashes for a receipt that holds this result. -/
def TerminalReceipt.hashed (receipt : TerminalReceipt GoString GoString)
    (result : Option (Value Number)) : List UInt8 :=
  marshalTerminalPayload Utf8.decode Utf8.decode
    (receipt.payload (resultBytes (result.map fun value => value.map Number.normalize)))

/-- The hashed fields but the result, their strings as the encoder reads them. -/
def TerminalReceipt.runes (receipt : TerminalReceipt GoString GoString) : TerminalPayload Text Text :=
  (receipt.payload []).map Utf8.decode Utf8.decode

/-- A receipt of the store as the byte strings it is for Go. -/
def TerminalReceipt.bytes (receipt : TerminalReceipt) : TerminalReceipt GoString GoString where
  executionID := Utf8.encode receipt.executionID.toList
  capability := Utf8.encode receipt.capability.toList
  principal := Utf8.encode receipt.principal.toList
  requestDigest := Utf8.encode receipt.requestDigest.toList
  terminalStatus := Utf8.encode receipt.terminalStatus.text.toList
  canonicalResult := receipt.canonicalResult
  providerID := Utf8.encode receipt.providerID.toList
  providerRunID := Utf8.encode receipt.providerRunID.toList
  evidenceDigest := Utf8.encode receipt.evidenceDigest.toList
  receiptVersion := receipt.receiptVersion
  evidenceReceipt := receipt.evidenceReceipt

theorem TerminalReceipt.bytes_payload (result : RawMessage) :
    (receipt.bytes.payload result).map Utf8.decode Utf8.decode =
      (receipt.payload result).map textRunes State.runes := by
  simp only [TerminalPayload.map, payload, bytes, Utf8.decode_encode, textRunes, State.runes]

theorem TerminalReceipt.bytes_runes_eq_iff {second : TerminalReceipt} :
    receipt.bytes.runes = second.bytes.runes ↔ receipt.payload [] = second.payload [] := by
  unfold runes
  rw [bytes_payload, bytes_payload]
  exact TerminalPayload.map_textRunes_injective.eq_iff

theorem marshalTerminalPayload_map {S T : Type} {runes : S → Text} {status : T → Text}
    {payload : TerminalPayload S T} : marshalTerminalPayload runes status payload =
      marshalTerminalPayload id id (payload.map runes status) := rfl

/-- `TerminalReceipt.Digest` with the JSON functions it calls. -/
def TerminalReceipt.byteDigest (platform : Platform) (texts : ErrorTexts)
    (receipt : TerminalReceipt GoString GoString) : Except StoreError String :=
  receipt.digest (platform.withJSON texts) (marshalTerminalPayload Utf8.decode Utf8.decode)

theorem TerminalReceipt.byteDigest_holds (platform : Platform)
    (holds : HoldsResult written.canonicalResult result) :
    written.byteDigest platform texts = .ok (platform.sha256 (written.hashed result)) := by
  unfold byteDigest digest
  rw [holds.canonicalized platform]
  rfl

theorem terminalReceiptDigest_bytes (platform : Platform) (receipt : TerminalReceipt) :
    terminalReceiptDigest (platform.withJSON texts) receipt =
      receipt.bytes.byteDigest platform texts := by
  have marshals (bytes : RawMessage) :
      marshalTerminalPayload textRunes State.runes (receipt.payload bytes) =
        marshalTerminalPayload Utf8.decode Utf8.decode (receipt.bytes.payload bytes) := by
    rw [marshalTerminalPayload_map, ← TerminalReceipt.bytes_payload]
    rfl
  unfold terminalReceiptDigest TerminalReceipt.byteDigest TerminalReceipt.digest
  rw [show receipt.bytes.canonicalResult = receipt.canonicalResult from rfl]
  cases canonicalizeJSON (platform.withJSON texts) receipt.canonicalResult with
  | error reason => rfl
  | ok bytes => exact congrArg (fun written => Except.ok (platform.sha256 written)) (marshals bytes)

theorem terminalReceiptDigest_holds (platform : Platform)
    (holds : HoldsResult receipt.canonicalResult result) :
    terminalReceiptDigest (platform.withJSON texts) receipt =
      .ok (platform.sha256 (receipt.bytes.hashed result)) := by
  rw [terminalReceiptDigest_bytes]
  exact TerminalReceipt.byteDigest_holds platform holds

/-- The hashed bytes are equal exactly if the receipts agree on every hashed field, the strings rune
by rune and the results as JSON values. -/
theorem TerminalReceipt.hashed_eq_iff : written.hashed result = other.hashed second ↔
      written.runes = other.runes ∧
        result.map (fun value => value.map Number.value) =
          second.map fun value => value.map Number.value := by
  have canonical : result.map (fun value => value.map Number.normalize) =
      second.map (fun value => value.map Number.normalize) ↔
        result.map (fun value => value.map Number.value) =
          second.map fun value => value.map Number.value := by
    cases result <;> cases second <;>
      simp [Value.map_eq_map_iff Number.normalize_eq_iff]
  rw [← canonical]
  constructor
  · intro same
    have payloads := @marshalTerminalPayload_inj _ _ _ _ (written.payload _) _ _ _ rfl rfl same
    refine ⟨?_, resultBytes_injective (congrArg TerminalPayload.canonicalResult payloads)⟩
    exact congrArg (fun payload => { payload with canonicalResult := [] }) payloads
  · rintro ⟨fields, results⟩
    have payloads (bytes : RawMessage) : (written.payload bytes).map Utf8.decode Utf8.decode =
        (other.payload bytes).map Utf8.decode Utf8.decode :=
      congrArg (fun payload => { payload with canonicalResult := bytes }) fields
    unfold hashed
    rw [results, marshalTerminalPayload_map, payloads]
    rfl

end Receipts

end Crabedence
