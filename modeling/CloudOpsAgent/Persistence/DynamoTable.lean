/-
  One DynamoDB table with conditional writes, as the repository uses it.

  1. **Keys** — `DynamoKey` and its checks.

  2. **Items** — attributes by name, each a one-key dictionary in the low-level form of the API.

  3. **Requests** — `GetItem`, a conditional `PutItem` and a conditional `UpdateItem`, with what a
     client may get to see of each.

  4. **The service** — a request is applied at once or not at all.  The client may learn nothing of a
     write that was applied; a library that repeats a lost request may even be told that its own
     write is in the way.  Without consistent reads a read may answer from any earlier table.

  The service is not part of the repository; what is said of it here is what it documents, and every
  failure of it is allowed.
-/
import CloudOpsAgent.Lib.Prog
import CloudOpsAgent.Nz.Contracts
import CloudOpsAgent.Persistence.Serialization

namespace CloudOpsAgent

open ClientProg

/-! ## Keys -/

def MAX_KEY_COMPONENT_LENGTH : Nat := 512

/-- `ContractValidationError`. -/
def contractValidation (message : String) : PyExc :=
  .other ("ContractValidationError: " ++ message)

/-- `_validate_key_component`. -/
def validateKeyComponent (name value : String) : Except PyExc Unit :=
  let text := PyText.ofString value
  if text.all (PyText.isSpace ·.toNat) then
    .error (contractValidation (name ++ " must be a non-empty string"))
  else if !PyText.isStripped text then
    .error (contractValidation (name ++ " must not contain surrounding whitespace"))
  else if MAX_KEY_COMPONENT_LENGTH < value.length then
    .error (contractValidation (name ++ " must not exceed " ++ toString MAX_KEY_COMPONENT_LENGTH ++
      " characters"))
  else if value.toList.any fun c => c = '\n' || c = '\r' || c = '\x00' then
    .error (contractValidation (name ++ " contains an invalid control character"))
  else .ok ()

/-- Composite key accepted by the project state table. -/
structure DynamoKey where
  partitionKey : String
  sortKey : String
  deriving DecidableEq

/-- `DynamoKey(partition_key, sort_key)`. -/
def DynamoKey.make (partitionKey sortKey : String) : Except PyExc DynamoKey := do
  validateKeyComponent "partition_key" partitionKey
  validateKeyComponent "sort_key" sortKey
  return ⟨partitionKey, sortKey⟩

/-! ## Items -/

/-- A one-key attribute whose value is a text: `{"S": text}` or `{"N": text}`. -/
def scalar (kind text : String) : Json := .obj [(kind, .str text)]

/-- `_string`. -/
def stringAttribute (text : String) : Json := scalar "S" text

/-- `_number`. -/
def numberAttribute (n : Nat) : Except PyExc Json := (Dynamo.intText n).map (scalar "N")

/-- The attributes of an item, by name. -/
abbrev DynamoItem := String → Option Json

/-- All items of a table, by key. -/
abbrev DynamoItems := DynamoKey → Option DynamoItem

namespace DynamoItem

/-- The attribute is the one-key dictionary `{kind: text}`. -/
def hasScalar (item : DynamoItem) (name kind text : String) : Bool :=
  match item name with
  | some (.obj [(k, .str t)]) => k == kind && t == text
  | _ => false

theorem hasScalar_iff {item : DynamoItem} {name kind text : String} :
    item.hasScalar name kind text ↔ item name = some (scalar kind text) := by
  unfold hasScalar
  split
  · next k t heq =>
    rw [heq, Bool.and_eq_true, beq_iff_eq, beq_iff_eq, scalar]
    constructor
    · rintro ⟨rfl, rfl⟩
      rfl
    · intro h
      cases h
      exact ⟨rfl, rfl⟩
  · next hne =>
    constructor
    · intro h
      cases h
    · intro h
      exact absurd h (hne kind text)

/-- Attributes set one after the other. -/
def assign (item : DynamoItem) (fields : List (String × Json)) : DynamoItem :=
  fields.foldl (fun item f => Function.update item f.1 (some f.2)) item

@[simp] theorem assign_cons (item : DynamoItem) (f : String × Json) (fields : List (String × Json)) :
    item.assign (f :: fields) = assign (Function.update item f.1 (some f.2)) fields := rfl

/-- An attribute that is not set stays as it is. -/
theorem assign_of_notMem {name : String} {fields : List (String × Json)}
    (h : name ∉ fields.map Prod.fst) (item : DynamoItem) : item.assign fields name = item name := by
  induction fields generalizing item with
  | nil => rfl
  | cons f fields ih =>
    rw [List.map_cons, List.mem_cons, not_or] at h
    rw [assign_cons, ih h.2, Function.update_of_ne h.1]

/-- An attribute that is set once has its value. -/
theorem assign_of_mem {name : String} {value : Json} {fields : List (String × Json)}
    (hnodup : (fields.map Prod.fst).Nodup) (h : (name, value) ∈ fields) (item : DynamoItem) :
    item.assign fields name = some value := by
  induction fields generalizing item with
  | nil => cases h
  | cons f fields ih =>
    rw [List.map_cons, List.nodup_cons] at hnodup
    rw [assign_cons]
    obtain rfl | hmem := List.mem_cons.mp h
    · rw [assign_of_notMem hnodup.1, Function.update_self]
    · exact ih hnodup.2 hmem _

end DynamoItem

/-! ## Requests -/

/-- One clause of a `ConditionExpression`, its placeholders resolved. -/
inductive Clause where
  | equals (name kind text : String)
  | attributeNotExists (name : String)
  deriving DecidableEq

/-- No item, no attributes. -/
def Clause.holds (item : Option DynamoItem) : Clause → Bool
  | equals name kind text => item.any (·.hasScalar name kind text)
  | attributeNotExists name => (item.bind (· name)).isNone

/-- A request to the low-level client. -/
inductive TableRequest where
  | getItem (key : DynamoKey)
  | putItem (key : DynamoKey) (item : DynamoItem) (condition : List Clause)
  | updateItem (key : DynamoKey) (assignments : List (String × Json)) (condition : List Clause)

/-- What `get_item` may do. -/
inductive GetReply where
  | found (item : Option DynamoItem)
  | malformedResponse
  | malformedItem
  | failed

/-- What `put_item` and `update_item` may do: return, or raise one of two kinds of errors. -/
inductive WriteReply where
  | done
  | conditionalCheckFailed
  | failed
  deriving DecidableEq

def TableRequest.Ans : TableRequest → Type
  | getItem _ => GetReply
  | putItem .. | updateItem .. => WriteReply

/-- The item that a write leaves under its key, where its condition holds. -/
def TableRequest.written (items : DynamoItems) : TableRequest → Option (DynamoKey × DynamoItem)
  | getItem _ => none
  | putItem key item condition =>
    if condition.all (·.holds (items key)) then some (key, item) else none
  | updateItem key assignments condition =>
    if condition.all (·.holds (items key)) then
      some (key, ((items key).getD (DynamoItem.assign (fun _ => none)
        [("PK", stringAttribute key.partitionKey), ("SK", stringAttribute key.sortKey)])).assign
          assignments)
    else none

/-! ## The service -/

/-- A table and who wrote to it: each write with the items it left, the latest first. -/
structure TableWorld (ι : Type) where
  log : List (ι × DynamoItems) := []

namespace TableWorld

variable {ι : Type}

/-- The table before any write. -/
def emptyItems : DynamoItems := fun _ => none

def items (w : TableWorld ι) : DynamoItems :=
  match w.log with
  | [] => emptyItems
  | (_, items) :: _ => items

/-- The items as they are and as they ever were. -/
def versions (w : TableWorld ι) : List DynamoItems := w.log.map Prod.snd ++ [emptyItems]

/-- Those who have written. -/
def writers (w : TableWorld ι) : List ι := w.log.map Prod.fst

def wrote (w : TableWorld ι) (who : ι) (key : DynamoKey) (item : DynamoItem) : TableWorld ι :=
  ⟨(who, Function.update w.items key (some item)) :: w.log⟩

@[simp] theorem wrote_items (w : TableWorld ι) (who : ι) (key : DynamoKey) (item : DynamoItem) :
    (w.wrote who key item).items = Function.update w.items key (some item) := rfl

theorem items_mem_versions (w : TableWorld ι) : w.items ∈ w.versions := by
  obtain ⟨_ | ⟨⟨i, t⟩, log⟩⟩ := w
  · exact List.mem_singleton_self _
  · exact List.mem_cons_self

end TableWorld

/-- How a write may be answered, with the table it leaves. -/
inductive WriteAnswer {ι : Type} (who : ι) (w : TableWorld ι) (r : TableRequest) :
    WriteReply → TableWorld ι → Prop
  | done {key : DynamoKey} {item : DynamoItem} (h : r.written w.items = some (key, item)) :
    WriteAnswer who w r .done (w.wrote who key item)
  | refused (h : r.written w.items = none) : WriteAnswer who w r .conditionalCheckFailed w
  | failedBefore : WriteAnswer who w r .failed w
  | failedAfter {key : DynamoKey} {item : DynamoItem} (h : r.written w.items = some (key, item)) :
    WriteAnswer who w r .failed (w.wrote who key item)
  /-- The reply was lost and the request repeated: it meets what it has written itself. -/
  | repeated {key : DynamoKey} {item : DynamoItem} (h : r.written w.items = some (key, item)) :
    WriteAnswer who w r .conditionalCheckFailed (w.wrote who key item)

/-- How the service may answer a request, `consistent` being `ConsistentRead`. -/
def tableAnswers {ι : Type} (consistent : Bool) (who : ι) (w : TableWorld ι) :
    (r : TableRequest) → r.Ans → TableWorld ι → Prop
  | .getItem key, .found item, w' =>
    w' = w ∧ ∃ items ∈ w.versions, items key = item ∧ (consistent → items = w.items)
  | .getItem _, .malformedResponse, w' | .getItem _, .malformedItem, w' | .getItem _, .failed, w' =>
    w' = w
  | .putItem key item condition, x, w' => WriteAnswer who w (.putItem key item condition) x w'
  | .updateItem key assignments condition, x, w' =>
    WriteAnswer who w (.updateItem key assignments condition) x w'

end CloudOpsAgent
