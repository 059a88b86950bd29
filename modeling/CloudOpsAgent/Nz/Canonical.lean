/-
  The scalar values of the Non-Zero contracts, and the canonical JSON they are hashed over.

  Everything durable in this system is bound together by SHA-256 digests of canonical JSON, so the
  payloads are modelled as they are built: which keys, which values, in which textual form.  The
  hash itself stays abstract (`class Sha256`); nothing below looks inside it.

  1. **Identifiers** — a `UUID` here is a UUIDv7 by construction: the version and variant bits are
     not stored, so no value of the type fails `validate_correlation_id`.

  2. **Digests** — `^[0-9a-f]{64}$` is exactly a 256-bit value, so that is what is stored.

  3. **Time** — a timezone-aware UTC `datetime`, as microseconds since 0001-01-01T00:00:00.
     `isoformat`/`fromisoformat` are Python's, on the one spelling this program writes.

  4. **JSON** — `Json`, and `dumps` with `ensure_ascii`, `sort_keys` and the compact separators.

  The length and character-class bounds of the pydantic text types are not carried: text is
  `String`, and the constants the program writes are inside those bounds.
-/
import Mathlib.Data.Finmap
import Mathlib.Data.List.Sort

namespace CloudOpsAgent

/-! ## Dictionaries -/

/-- A Python `dict`: finitely many keys, one value each.  No operation of the program reads the
    insertion order of the dictionaries modelled this way. -/
abbrev Dict (κ ν : Type) := Finmap (fun _ : κ => ν)

namespace Dict

variable {κ ν : Type} [DecidableEq κ]

/-- `{k: v for …}`, later bindings winning. -/
def ofPairs (l : List (κ × ν)) : Dict κ ν := l.foldl (fun d kv => d.insert kv.1 kv.2) ∅

end Dict

/-! ## Identifiers -/

/-- A UUIDv7: 48 bits of time and 74 free bits around the fixed version and variant. -/
structure UUID where
  timeBits : BitVec 48
  randA : BitVec 12
  randB : BitVec 62
  deriving DecidableEq

namespace UUID

/-- The 128 bits of the identifier, version nibble 7 and variant `10` included. -/
def bits (u : UUID) : BitVec 128 :=
  (u.timeBits ++ 7#4 ++ u.randA ++ 2#2 ++ u.randB).cast (by decide)

/-- The nibbles `hi, hi-1, …` of `n`, most significant first, as lowercase hex. -/
def hexDigits (n : Nat) : Nat → List Char
  | 0 => []
  | count + 1 => Nat.digitChar (n / 16 ^ count % 16) :: hexDigits n count

/-- `str(uuid)`. -/
def str (u : UUID) : String :=
  let n := u.bits.toNat
  String.ofList <| hexDigits (n / 2 ^ 96) 8 ++ '-' :: hexDigits (n / 2 ^ 80) 4 ++
    '-' :: hexDigits (n / 2 ^ 64) 4 ++ '-' :: hexDigits (n / 2 ^ 48) 4 ++ '-' :: hexDigits n 12

end UUID

/-- A SHA-256 digest; `hex` is its `hexdigest` text. -/
structure Sha256Digest where
  bits : BitVec 256
  deriving DecidableEq

def Sha256Digest.hex (d : Sha256Digest) : String :=
  String.ofList (UUID.hexDigits d.bits.toNat 64)

/-- SHA-256 of a text's UTF-8 bytes, left abstract. -/
class Sha256 where
  hexdigest : String → Sha256Digest

/-! ## Time -/

/-- A UTC instant: microseconds since 0001-01-01T00:00:00. -/
abbrev Time := Nat

/-- A `datetime`, and whether it is aware with offset zero. -/
structure Reading where
  time : Time
  utc : Bool

/-- `timedelta(seconds=n)`. -/
def seconds (n : Nat) : Nat := n * 1000000

namespace Time

/-- Year, month and day of the day that is `days` after 0001-01-01, in the proleptic Gregorian
    calendar: eras of 400 years counted from 0000-03-01, which is 306 days earlier. -/
def civil (days : Nat) : Nat × Nat × Nat :=
  let z := days + 306
  let era := z / 146097
  let doe := z % 146097
  let yoe := (doe - doe / 1460 + doe / 36524 - doe / 146096) / 365
  let doy := doe - (365 * yoe + yoe / 4 - yoe / 100)
  let mp := (5 * doy + 2) / 153
  let month := if mp < 10 then mp + 3 else mp - 9
  (yoe + era * 400 + if month ≤ 2 then 1 else 0, month, doy - (153 * mp + 2) / 5 + 1)

/-- The inverse of `civil` on valid dates. -/
def ofCivil (year month day : Nat) : Nat :=
  let y := if month ≤ 2 then year - 1 else year
  let era := y / 400
  let yoe := y % 400
  let mp := if month ≤ 2 then month + 9 else month - 3
  era * 146097 + (yoe * 365 + yoe / 4 - yoe / 100) + ((153 * mp + 2) / 5 + day - 1) - 306

/-- `n` in decimal, padded with zeros to `width` digits. -/
def padded (n : Nat) : Nat → List Char
  | 0 => []
  | width + 1 => Nat.digitChar (n / 10 ^ width % 10) :: padded n width

/-- Date, `T` and time of day, with the six digits of a non-zero fraction. -/
def clockText (t : Time) : List Char :=
  let (year, month, day) := civil (t / 86400000000)
  let us := t % 86400000000
  let date := padded year 4 ++ '-' :: padded month 2 ++ '-' :: padded day 2
  let time := padded (us / 3600000000) 2 ++ ':' :: padded (us / 60000000 % 60) 2 ++
    ':' :: padded (us / 1000000 % 60) 2
  date ++ 'T' :: time ++ if us % 1000000 = 0 then [] else '.' :: padded (us % 1000000) 6

/-- `datetime.isoformat()` of a UTC value. -/
def isoformat (t : Time) : String := String.ofList (clockText t ++ "+00:00".toList)

/-- The spelling pydantic uses for the same value in `model_dump(mode="json")`. -/
def dumpJson (t : Time) : String := String.ofList (clockText t ++ ['Z'])

/-- The number a list of decimal digits spells. -/
def number? (cs : List Char) : Option Nat :=
  if cs.all Char.isDigit then some (cs.foldl (fun n c => 10 * n + (c.toNat - 48)) 0) else none

/-- Microseconds of the text after the seconds field: an optional fraction, then `+00:00`. -/
def fraction? (cs : List Char) : Option Nat :=
  if cs = "+00:00".toList then some 0
  else if cs.head? = some '.' ∧ cs.drop 7 = "+00:00".toList then number? (cs.drop 1 |>.take 6)
  else none

def daysInMonth (year month : Nat) : Nat :=
  if month = 2 then
    if year % 4 = 0 ∧ (year % 100 ≠ 0 ∨ year % 400 = 0) then 29 else 28
  else if month = 4 ∨ month = 6 ∨ month = 9 ∨ month = 11 then 30 else 31

/-- `datetime.fromisoformat` on the spelling `isoformat` writes, `none` for its `ValueError`. -/
def fromisoformat (text : String) : Option Time := do
  let cs := text.toList
  let field (start width : Nat) : Option Nat := number? (cs.drop start |>.take width)
  guard (19 ≤ cs.length ∧ cs[4]? = some '-' ∧ cs[7]? = some '-' ∧ cs[10]? = some 'T' ∧
    cs[13]? = some ':' ∧ cs[16]? = some ':')
  let year ← field 0 4
  let month ← field 5 2
  let day ← field 8 2
  let hour ← field 11 2
  let minute ← field 14 2
  let second ← field 17 2
  let us ← fraction? (cs.drop 19)
  guard (1 ≤ year ∧ 1 ≤ month ∧ month ≤ 12 ∧ 1 ≤ day ∧ day ≤ daysInMonth year month ∧
    hour ≤ 23 ∧ minute ≤ 59 ∧ second ≤ 59)
  return (((ofCivil year month day * 24 + hour) * 60 + minute) * 60 + second) * 1000000 + us

/-- 2024-02-29T12:34:56.000789+00:00, there and back. -/
example : fromisoformat (isoformat 63844806896000789) = some 63844806896000789 := by decide

end Time

/-! ## JSON -/

/-- A JSON value.  A float is carried by the text `float.__repr__` gives it. -/
inductive Json where
  | null
  | bool (b : Bool)
  | int (i : Int)
  | float (repr : String)
  | str (s : String)
  | arr (items : List Json)
  | obj (fields : List (String × Json))
  deriving Inhabited

namespace Json

/-- `isinstance(value, str)`, and the string. -/
def str? : Json → Option String
  | .str s => some s
  | _ => none

/-- `isinstance(value, bool)`, and the boolean. -/
def bool? : Json → Option Bool
  | .bool b => some b
  | _ => none

theorem eq_str {j : Json} {s : String} (h : j.str? = some s) : j = .str s := by
  cases j <;> cases h
  rfl

/-- Whether Python can hash the value: lists and dicts are unhashable. -/
def hashable : Json → Bool
  | .arr _ | .obj _ => false
  | _ => true

/-- `None` becomes `null`. -/
def ofOption {α : Type} (f : α → Json) : Option α → Json
  | none => .null
  | some a => f a

/-- One UTF-16 code unit as `\uXXXX`. -/
def escapeUnit (n : Nat) : List Char := '\\' :: 'u' :: UUID.hexDigits n 4

/-- One character of a string literal under `ensure_ascii`. -/
def escapeChar (c : Char) : List Char :=
  if c = '"' then ['\\', '"']
  else if c = '\\' then ['\\', '\\']
  else if c = '\n' then ['\\', 'n']
  else if c = '\r' then ['\\', 'r']
  else if c = '\t' then ['\\', 't']
  else if c.toNat = 8 then ['\\', 'b']
  else if c.toNat = 12 then ['\\', 'f']
  else if 32 ≤ c.toNat ∧ c.toNat < 127 then [c]
  else if c.toNat < 65536 then escapeUnit c.toNat
  else escapeUnit (55296 + (c.toNat - 65536) / 1024) ++ escapeUnit (56320 + (c.toNat - 65536) % 1024)

def quoted (s : String) : List Char := '"' :: s.toList.flatMap escapeChar ++ ['"']

/-- `sep.join(parts)`. -/
def joined (parts : List (List Char)) : List Char := (parts.intersperse [',']).flatten

/-- Keys in code-point order, which is how `sort_keys` orders them. -/
def sortedFields (fields : List (String × List Char)) : List (String × List Char) :=
  fields.insertionSort fun a b => a.1 ≤ b.1

mutual

/-- `json.dumps(value, ensure_ascii=True, separators=(",", ":"), sort_keys=True)`. -/
def render : Json → List Char
  | null => "null".toList
  | bool b => (if b then "true" else "false").toList
  | int i => (toString i).toList
  | float repr => repr.toList
  | str s => quoted s
  | arr items => '[' :: joined (renderAll items) ++ [']']
  | obj fields =>
    '{' :: joined ((sortedFields (renderFields fields)).map fun f => quoted f.1 ++ ':' :: f.2) ++
      ['}']

def renderAll : List Json → List (List Char)
  | [] => []
  | j :: js => render j :: renderAll js

def renderFields : List (String × Json) → List (String × List Char)
  | [] => []
  | (k, j) :: fs => (k, render j) :: renderFields fs

end

def dumps (j : Json) : String := String.ofList j.render

end Json

/-- `_canonical_digest`, and `compute_evidence_digest`: SHA-256 over canonical JSON. -/
def canonicalDigest [Sha256] (payload : Json) : Sha256Digest := Sha256.hexdigest payload.dumps

example : (Json.obj [("b", .arr [.int (-1), .bool true]), ("a", .str "x\"é")]).dumps
    = "\x7b\"a\":\"x\\\"\\u00e9\",\"b\":[-1,true]\x7d" := by decide +kernel

end CloudOpsAgent
