import Crabedence.Worker.OrgIdentity

/-!
# Organisation keys

A label and its key determine each other, and the keys of labels, of a missing label and of legacy
records are disjoint.  A legacy key counts for every label it may have been made from.
-/

namespace Crabedence.Worker

open Base64 Script
open Utf16 (Str str)

section Encoding

variable {label key : Str}

theorem validatedOrgLabel_some {valid : Str} (checked : validatedOrgLabel label = some valid) :
    valid = label ∧ label ≠ [] ∧ label.length ≤ 63 ∧ ∀ unit ∈ label, unit < 256 := by
  unfold validatedOrgLabel at checked
  split_ifs at checked with refused
  cases checked
  simp only [not_or, Bool.not_eq_false, List.all_eq_true, decide_eq_true_eq, Nat.not_lt] at refused
  obtain ⟨nonempty, short, _, _, printable⟩ := refused
  refine ⟨rfl, List.ne_nil_of_length_pos nonempty, short, fun unit held => ?_⟩
  exact UInt16.lt_of_le_of_lt (printable unit held).2 (by decide)

def urlUnit (unit : UInt16) : UInt16 :=
  let dashed := if unit = 0x2b then 0x2d else unit
  if dashed = 0x2f then 0x5f else dashed

theorem urlUnit_plain : ∀ value < 64, urlUnit (symbol value) ≠ 0x3d ∧
    (isAlphanumericUnit (urlUnit (symbol value)) ||
      decide (urlUnit (symbol value) ∈ str "_-")) = true ∧
    replaceAll 0x5f 0x2f (replaceAll 0x2d 0x2b [urlUnit (symbol value)]) = [symbol value] := by
  decide +kernel

theorem encodeBase64URL_eq (bytes : ∀ unit ∈ label, unit < 256) : encodeBase64URL label =
      some ((sextets (label.map UInt16.toNat)).map fun value => urlUnit (symbol value)) := by
  have filled (old new : UInt16) (text : Str) (other : 0x3d ≠ old) :
      replaceAll old new (fill text) = fill (replaceAll old new text) := by
    simp [replaceAll, fill, other]
  have small := sextets_units bytes
  have encoded : btoa label = some (fill ((sextets (label.map UInt16.toNat)).map symbol)) :=
    if_pos (List.all_eq_true.mpr fun unit held => decide_eq_true (bytes unit held))
  unfold encodeBase64URL
  rw [encoded, Option.map_some, filled _ _ _ (by decide), filled _ _ _ (by decide), rdropWhile_fill]
  · simp only [replaceAll, List.map_map]
    rfl
  · simp only [replaceAll, List.map_map, List.forall_mem_map]
    exact fun value held => (urlUnit_plain value (small value held)).1

theorem decodeBase64URL_encoded {values : List ℕ} (small : ∀ value ∈ values, value < 64)
    (whole : values.length % 4 ≠ 1) :
    decodeBase64URL (values.map fun value => urlUnit (symbol value)) =
      some ((octets values).map UInt16.ofNat) := by
  rw [← atob_fill small whole]
  unfold decodeBase64URL
  congr 2
  simp only [replaceAll, List.map_map]
  refine List.map_congr_left fun value held => ?_
  exact List.singleton_inj.mp (urlUnit_plain value (small value held)).2.2

theorem orgKeyForLabel_eq_some_iff :
    orgKeyForLabel label = some key ↔ validatedOrgLabel label = some label ∧
      key = currentOrgKeyPrefix ++
        (sextets (label.map UInt16.toNat)).map fun value => urlUnit (symbol value) := by
  unfold orgKeyForLabel
  constructor
  · intro keyed
    obtain ⟨valid, checked, encoded⟩ := Option.bind_eq_some_iff.mp keyed
    obtain ⟨rfl, _, _, bytes⟩ := validatedOrgLabel_some checked
    rw [encodeBase64URL_eq bytes] at encoded
    exact ⟨checked, (Option.some.inj encoded).symm⟩
  · rintro ⟨checked, rfl⟩
    obtain ⟨_, _, _, bytes⟩ := validatedOrgLabel_some checked
    rw [checked, Option.bind_eq_bind, Option.bind_some, encodeBase64URL_eq bytes]
    rfl

theorem orgLabelFromKey_key (keyed : orgKeyForLabel label = some key) :
    orgLabelFromKey (.string key) = some label := by
  obtain ⟨checked, rfl⟩ := orgKeyForLabel_eq_some_iff.mp keyed
  obtain ⟨_, nonempty, _, bytes⟩ := validatedOrgLabel_some checked
  have small := sextets_units bytes
  obtain ⟨whole, long⟩ := length_sextets (label.map UInt16.toNat)
  unfold orgLabelFromKey
  dsimp only
  rw [List.drop_left, if_pos, decodeBase64URL_encoded small whole, octets_units bytes]
  · exact Option.filter_some_pos (decide_eq_true keyed)
  · refine ⟨List.prefix_append _ _, ?_, ?_, by simpa using whole⟩
    · intro empty
      rw [List.map_eq_nil_iff] at empty
      rw [empty, List.length_nil, List.length_map, Nat.le_zero, List.length_eq_zero_iff] at long
      exact nonempty long
    · rw [List.all_eq_true, List.forall_mem_map]
      exact fun value held => (urlUnit_plain value (small value held)).2.1

theorem orgLabelFromKey_only {key : Value} (labelled : orgLabelFromKey key = some label) :
    ∃ text, key = .string text ∧ orgKeyForLabel label = some text := by
  cases key with
  | string text =>
    unfold orgLabelFromKey at labelled
    dsimp only at labelled
    split_ifs at labelled
    obtain ⟨_, made⟩ := Option.filter_eq_some_iff.mp labelled
    exact ⟨text, rfl, of_decide_eq_true made⟩
  | _ => cases labelled

end Encoding

section Requests

/-- A request's label: its header, or else the default of its environment, unless that is empty. -/
def OrgRequest.label (request : OrgRequest) : Option Str :=
  (requestOrgSource request).filter (· ≠ [])

variable {label key left right : Str} {request : OrgRequest}

theorem orgKeyForLabel_ne_missing (keyed : orgKeyForLabel label = some key) :
    key ≠ missingOrgKey := by
  obtain ⟨_, rfl⟩ := orgKeyForLabel_eq_some_iff.mp keyed
  intro same
  have second : some (0x31 : UInt16) = some 0x30 := congrArg (·[1]?) same
  exact absurd second (by decide)

theorem requestOrgKey_eq (request : OrgRequest) :
    requestOrgKey request = request.label.elim (some missingOrgKey) orgKeyForLabel := by
  unfold requestOrgKey OrgRequest.label
  cases requestOrgSource request with
  | none => rfl
  | some label => cases label <;> rfl

theorem current_requestOrgKey (keyed : requestOrgKey request = some key) :
    isCurrentOrgKey (.string key) = true := by
  rw [requestOrgKey_eq] at keyed
  unfold isCurrentOrgKey
  cases labelled : request.label with
  | none =>
    rw [labelled] at keyed
    simp [← Option.some.inj keyed]
  | some label =>
    rw [labelled] at keyed
    simp [orgLabelFromKey_key keyed]

theorem requestOrgKey_eq_iff {other : OrgRequest} (keyed : requestOrgKey request = some left)
    (keyed' : requestOrgKey other = some right) : left = right ↔ request.label = other.label := by
  rw [requestOrgKey_eq] at keyed keyed'
  constructor
  · rintro rfl
    cases first : request.label <;> cases second : other.label <;>
      rw [first] at keyed <;> rw [second] at keyed'
    case mp.none.some => exact absurd (Option.some.inj keyed).symm (orgKeyForLabel_ne_missing keyed')
    case mp.some.none => exact absurd (Option.some.inj keyed').symm (orgKeyForLabel_ne_missing keyed)
    case mp.some.some => exact (orgLabelFromKey_key keyed).symm.trans (orgLabelFromKey_key keyed')
  · intro same
    rw [same] at keyed
    exact Option.some.inj (keyed.symm.trans keyed')

theorem current_tilde (current : isCurrentOrgKey (.string key) = true) : 0x7e ∈ key := by
  rcases Bool.or_eq_true_iff.mp current with missing | labelled
  · rw [of_decide_eq_true missing]
    decide
  · obtain ⟨label, labelled⟩ := Option.isSome_iff_exists.mp labelled
    obtain ⟨_, ⟨⟩, keyed⟩ := orgLabelFromKey_only labelled
    obtain ⟨_, rfl⟩ := orgKeyForLabel_eq_some_iff.mp keyed
    exact List.mem_append_left _ (by decide)

theorem legacy_not_current (legacy : isLegacyOrgKey key = true) :
    isCurrentOrgKey (.string key) = false := by
  by_contra current
  have tilde := current_tilde ((Bool.not_eq_false _).mp current)
  have listed := List.all_eq_true.mp (Bool.and_eq_true_iff.mp legacy).2 _ tilde
  exact absurd listed (by decide)

theorem legacyOrgKey_legacy (valid : validatedOrgLabel label = some label) :
    isLegacyOrgKey (legacyOrgKey label) = true := by
  obtain ⟨_, nonempty, short, _⟩ := validatedOrgLabel_some valid
  have positive := List.length_pos_of_ne_nil nonempty
  have filled : (label.map fun unit => if isLegacyUnit unit then unit else 0x5f).take 63 ≠ [] := by
    simp [nonempty]
  unfold legacyOrgKey
  dsimp only
  rw [if_neg filled]
  unfold isLegacyOrgKey
  rw [Bool.and_eq_true_iff, decide_eq_true_eq, List.all_eq_true]
  constructor
  · rw [List.length_take, List.length_map]
    omega
  · intro unit held
    obtain ⟨original, _, rfl⟩ := List.mem_map.mp (List.mem_of_mem_take held)
    split_ifs with plain
    · exact plain
    · decide

theorem sameOrgIdentityKey_comm : sameOrgIdentityKey left right = sameOrgIdentityKey right left := by
  unfold sameOrgIdentityKey
  by_cases same : left = right
  · rw [same]
  · simp [same, Ne.symm same]

theorem orgMatchesForAccounting_comm :
    orgMatchesForAccounting left right = orgMatchesForAccounting right left := by
  unfold orgMatchesForAccounting
  have swapped : decide (left = right) = decide (right = left) := decide_eq_decide.mpr eq_comm
  rw [@sameOrgIdentityKey_comm left right]
  cases isLegacyOrgKey left <;> cases isLegacyOrgKey right <;> first | rfl | rw [swapped]

theorem accounting_legacy (keyed : orgKeyForLabel label = some key) :
    orgMatchesForAccounting key (legacyOrgKey label) = true := by
  have legacy := legacyOrgKey_legacy (orgKeyForLabel_eq_some_iff.mp keyed).1
  have labelled := orgLabelFromKey_key keyed
  have current : isLegacyOrgKey key = false := by
    by_contra old
    have outdated := legacy_not_current ((Bool.not_eq_false _).mp old)
    simp [isCurrentOrgKey, labelled] at outdated
  unfold orgMatchesForAccounting
  simp [legacy, current, labelled, orgKeyForLabel_ne_missing keyed]

end Requests

end Crabedence.Worker
