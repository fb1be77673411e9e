import Mathlib.Algebra.Group.Nat.Defs
import Mathlib.Data.List.Basic

/-!
# Length-prefixed frames

A frame is a payload after its length in four big-endian bytes.  A payload shorter than `2 ^ 32` can
be told from whatever follows its frame, so a sequence of such frames determines its payloads.
-/

namespace Framing

/-- `binary.BigEndian.PutUint32` of a length. -/
def header (size : Nat) : List UInt8 :=
  [UInt8.ofNat (size / 0x1000000), UInt8.ofNat (size / 0x10000), UInt8.ofNat (size / 0x100),
    UInt8.ofNat size]

def frame (payload : List UInt8) : List UInt8 := header payload.length ++ payload

def frames (payloads : List (List UInt8)) : List UInt8 := payloads.flatMap frame

def Fits (payload : List UInt8) : Prop := payload.length < 2 ^ 32

variable {payload other rest further : List UInt8}

theorem header_injective {size length : Nat} (small : size < 2 ^ 32) (short : length < 2 ^ 32)
    (same : header size = header length) : size = length := by
  unfold header at same
  simp only [List.cons.injEq, and_true] at same
  obtain ⟨first, second, third, fourth⟩ := same
  have byte {value more : Nat} (equal : UInt8.ofNat value = UInt8.ofNat more) :
      value % 256 = more % 256 := by
    have numbers := congrArg UInt8.toNat equal
    simpa using numbers
  have top := byte first
  have upper := byte second
  have lower := byte third
  have last := byte fourth
  omega

theorem frame_append_inj (fits : Fits payload) (fits' : Fits other)
    (same : frame payload ++ rest = frame other ++ further) : payload = other ∧ rest = further := by
  unfold frame at same
  rw [List.append_assoc, List.append_assoc] at same
  obtain ⟨headers, bodies⟩ := List.append_inj same rfl
  exact List.append_inj bodies (header_injective fits fits' headers)

theorem frames_inj {payloads others : List (List UInt8)} (fits : ∀ item ∈ payloads, Fits item)
    (fits' : ∀ item ∈ others, Fits item) (same : frames payloads = frames others) :
    payloads = others := by
  induction payloads generalizing others with
  | nil =>
    cases others with
    | nil => rfl
    | cons other others => cases same
  | cons payload payloads ih =>
    cases others with
    | nil => cases same
    | cons other others =>
      obtain ⟨rfl, remaining⟩ := frame_append_inj (fits payload List.mem_cons_self)
        (fits' other List.mem_cons_self) same
      rw [ih (fun item held => fits item (List.mem_cons_of_mem _ held))
        (fun item held => fits' item (List.mem_cons_of_mem _ held)) remaining]

end Framing
