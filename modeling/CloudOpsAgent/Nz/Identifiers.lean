/-
  `validate_correlation_id`: which values name a UUIDv7.

  A value of the type `UUID` is a UUIDv7 by construction; here is the way into it, from a value that
  may be anything.  A text goes through Python's `UUID(text)`, which forgives `urn:`, `uuid:`, braces
  and every hyphen.
-/
import CloudOpsAgent.Lib.PyText
import CloudOpsAgent.Nz.Contracts
import CloudOpsAgent.Nz.Encoding

namespace CloudOpsAgent

open PyText

/-- A value from outside, as far as the identifier and name checks tell values apart. -/
inductive PyObject where
  | str (text : Text)
  /-- A `uuid.UUID` of any version. -/
  | uuid (bits : BitVec 128)
  /-- Anything else, by what `str` makes of it. -/
  | other (str : Text)
  deriving DecidableEq

namespace UUID

/-- `UUID(text).int`, `none` where it raises `ValueError`. -/
def parse (text : Text) : Option (BitVec 128) :=
  let hex := (strip (ofString "{}") (remove (ofString "uuid:") (remove (ofString "urn:") text))).filter
    (· ≠ .char '-')
  if hex.length ≠ 32 then none
  else (int? 16 hex).bind fun n =>
    if 0 ≤ n ∧ n < 2 ^ 128 then some (BitVec.ofNat 128 n.toNat) else none

/-- `str(uuid)`, of any version. -/
def format (n : BitVec 128) : String :=
  let n := n.toNat
  String.ofList <| hexDigits (n / 2 ^ 96) 8 ++ '-' :: hexDigits (n / 2 ^ 80) 4 ++
    '-' :: hexDigits (n / 2 ^ 64) 4 ++ '-' :: hexDigits (n / 2 ^ 48) 4 ++ '-' :: hexDigits n 12

theorem format_bits (u : UUID) : format u.bits = u.str := rfl

/-- `uuid.variant == RFC_4122`. -/
def isRfc4122 (n : BitVec 128) : Bool := n.getLsbD 63 && !n.getLsbD 62

/-- `uuid.version`. -/
def version (n : BitVec 128) : Option Nat :=
  if isRfc4122 n then some (n.extractLsb' 76 4).toNat else none

/-- The free bits of a UUIDv7. -/
def ofBits (n : BitVec 128) : UUID :=
  ⟨n.extractLsb' 80 48, n.extractLsb' 64 12, n.extractLsb' 0 62⟩

theorem isRfc4122_iff (n : BitVec 128) : isRfc4122 n = true ↔ n.toNat / 2 ^ 62 % 4 = 2 := by
  have bit (i : Nat) : n.getLsbD i = decide (n.toNat / 2 ^ i % 2 = 1) :=
    Nat.testBit_eq_decide_div_mod_eq
  simp only [isRfc4122, bit, Bool.and_eq_true, Bool.not_eq_true', decide_eq_true_eq,
    decide_eq_false_iff_not]
  omega

theorem version_eq_seven (n : BitVec 128) :
    version n = some 7 ↔ n.toNat / 2 ^ 62 % 4 = 2 ∧ n.toNat / 2 ^ 76 % 16 = 7 := by
  have nibble : (n.extractLsb' 76 4).toNat = n.toNat / 2 ^ 76 % 16 := by
    rw [BitVec.extractLsb'_toNat, Nat.shiftRight_eq_div_pow]
  rw [← isRfc4122_iff, version]
  by_cases rfc : isRfc4122 n = true
  · rw [if_pos rfc, Option.some_inj, nibble]
    exact ⟨fun h => ⟨rfc, h⟩, fun h => h.2⟩
  · rw [if_neg rfc]
    exact ⟨fun h => by simp at h, fun h => absurd h.1 rfc⟩

/-- A version 7 identifier is its free bits and nothing else. -/
theorem bits_ofBits {n : BitVec 128} (h : version n = some 7) : (ofBits n).bits = n := by
  obtain ⟨hvariant, hversion⟩ := (version_eq_seven n).1 h
  apply BitVec.eq_of_toNat_eq
  simp only [toNat_bits, ofBits, BitVec.extractLsb'_toNat, Nat.shiftRight_eq_div_pow]
  have hn := n.isLt
  omega

theorem version_bits (u : UUID) : version u.bits = some 7 := by
  have ha := u.randA.isLt
  have hb := u.randB.isLt
  rw [version_eq_seven, toNat_bits]
  constructor <;> omega

theorem ofBits_bits (u : UUID) : ofBits u.bits = u := by
  apply bits_inj
  rw [bits_ofBits (version_bits u)]

end UUID

/-- `validate_correlation_id`. -/
def validateCorrelationId (value : PyObject) : Except PyExc UUID :=
  let checked (n : BitVec 128) : Except PyExc UUID :=
    if UUID.version n = some 7 then .ok (.ofBits n)
    else .error (.valueError "correlation_id must be an RFC-compatible UUIDv7")
  match value with
  | .uuid n => checked n
  | .str text =>
    match UUID.parse text with
    | some n => checked n
    | none => .error (.valueError "correlation_id must be a valid UUIDv7")
  | .other _ => .error (.valueError "correlation_id must be a UUIDv7 or UUIDv7 string")

/-- Every identifier of the model is accepted, and is the value it is accepted as. -/
theorem validateCorrelationId_uuid (n : BitVec 128) (u : UUID) :
    validateCorrelationId (.uuid n) = .ok u ↔ n = u.bits := by
  simp only [validateCorrelationId]
  by_cases h : UUID.version n = some 7
  · rw [if_pos h, Except.ok.injEq]
    constructor
    · rintro rfl
      exact (UUID.bits_ofBits h).symm
    · rintro rfl
      exact UUID.ofBits_bits u
  · rw [if_neg h]
    constructor
    · intro hok
      cases hok
    · rintro rfl
      exact absurd (UUID.version_bits u) h

example : validateCorrelationId (.str (ofString "{urn:uuid:00000000-0000-7000-8000-00000000000F}")) =
    .ok ⟨0, 0, 15⟩ := by decide +kernel

end CloudOpsAgent
