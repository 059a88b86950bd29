/-
  The diff checks of the offline change-set review.

  `review_change_set` is given a template and an exported change set, both untrusted JSON.
  `_resource_reasons` walks the change list once, keeping the logical ids it has accepted;
  `_public_surface_reasons` looks at the function URL and its two permissions.

  1. **The checks** — as the source computes them.  Both test a JSON value for membership in a set,
     which hashes it: a list or a dict there is a `TypeError`.

  2. **The loop** — where nothing is raised, an unblemished walk has accepted every entry under a
     fresh id (`scanChanges_clean_iff`), and the two final counts make that a bijection with the
     template's resources (`complete_iff`).

  3. **Exactness** — the diff is exact, and nothing is raised, precisely where the values that are
     hashed can be (`change_set_diff_exact_iff`).
-/
import CloudOpsAgent.Nz.Contracts
import CloudOpsAgent.Nz.Mapping
import CloudOpsAgent.Release.Cleanup

namespace CloudOpsAgent

namespace ChangeSetReview

open Json

/-! ## The checks -/

def ALLOWED_RESOURCE_COUNTS : List (String × Nat) := [
  ("AWS::CloudWatch::Alarm", 7), ("AWS::DynamoDB::Table", 1), ("AWS::IAM::Role", 2),
  ("AWS::Lambda::Alias", 2), ("AWS::Lambda::Function", 2), ("AWS::Lambda::Permission", 2),
  ("AWS::Lambda::Url", 1), ("AWS::Lambda::Version", 2), ("AWS::Logs::LogGroup", 2),
  ("AWS::SecretsManager::Secret", 1)]

/-- `_resources`. -/
def resources (template : Mapping) : List (String × Mapping) :=
  match template.get "Resources" with
  | .obj entries => entries.filterMap fun entry =>
    match entry.2 with
    | .obj resource => some (entry.1, resource)
    | _ => none
  | _ => []

/-- `_properties`. -/
def properties (resource : Mapping) : Mapping := (resource.get "Properties").mapping

/-- `dict(Counter(str(label) for …)) == counts`.  A label that is no string has a text that starts
    with a digit, a sign, a bracket or the name of a constant, and so is none of the names counted. -/
def countsAre (labels : List Json) (counts : List (String × Nat)) : Bool :=
  labels.all (fun label => counts.any fun c => label.isStr c.1) &&
    counts.all fun c => labels.countP (·.isStr c.1) == c.2

def CHANGE_KEYS : List String :=
  ["action", "logical_resource_id", "replacement", "resource_type", "scope"]

/-- What is found of one entry of the change list. -/
inductive Verdict where
  | malformed
  | invalid
  | accepted (logicalId : String)
  deriving DecidableEq

section Changes

variable [FloatValue] (declared : List (String × Mapping))

/-- The tests of an entry from its scope on. -/
def identified (seen : List String) (change : Mapping) : Verdict :=
  match change.get "scope", change.get "logical_resource_id" with
  | .arr [], .str logicalId =>
    match declared.lookup logicalId with
    | some resource =>
      if Cleanup.isLogicalId logicalId ∧ logicalId ∉ seen ∧
          pyEq (resource.get "Type") (change.get "resource_type") then .accepted logicalId
      else .invalid
    | none => .invalid
  | _, _ => .invalid

/-- The body of the loop over the changes. -/
def examine (seen : List String) : Json → Except PyExc Verdict
  | .obj change =>
    if ¬ Mapping.keysAre change CHANGE_KEYS then .ok .malformed
    else if ¬ (Mapping.get change "action").isStr "Add" then .ok .invalid
    else
      -- membership in a set hashes the value
      let replacement := Mapping.get change "replacement"
      if ¬ replacement.hashable then .error (.typeError "unhashable type")
      else if replacement.isStr "False" ∨ replacement.isStr "NotApplicable" then
        .ok (identified declared seen change)
      else .ok .invalid
  | _ => .ok .malformed

/-- The loop: the ids accepted, latest first, and the reasons found. -/
def scanChanges (seen : List String) : List Json → Except PyExc (List String × List String)
  | [] => .ok (seen, [])
  | change :: changes =>
    match examine declared seen change with
    | .error e => .error e
    | .ok .malformed => (scanChanges seen changes).map fun (ids, reasons) =>
      (ids, "CHANGE_SET_RESOURCE_CHANGE_INVALID" :: reasons)
    | .ok .invalid => (scanChanges seen changes).map fun (ids, reasons) =>
      (ids, "INITIAL_CHANGE_SET_DIFF_INVALID" :: reasons)
    | .ok (.accepted logicalId) => scanChanges (logicalId :: seen) changes

end Changes

/-- `change_set if isinstance(change_set, Mapping) else None`. -/
def changeSetModel : Json → Option Mapping
  | .obj fields => some fields
  | _ => none

/-- `change_set.get("changes") if change_set is not None else None`. -/
def changesOf (changeSet : Option Mapping) : Json := (changeSet.map (Mapping.get · "changes")).getD .null

def allowlistReasons (declared : List (String × Mapping)) : List String :=
  if countsAre (declared.map (·.2.get "Type")) ALLOWED_RESOURCE_COUNTS then []
  else ["UNEXPECTED_RESOURCE_SET"]

def diffReasons [FloatValue] (declared : List (String × Mapping)) :
    Json → Except PyExc (List String)
  | .arr changes =>
    match scanChanges declared [] changes with
    | .error e => .error e
    | .ok (seen, diff) =>
      let names := declared.map Prod.fst
      if seen.all (· ∈ names) ∧ names.all (· ∈ seen) ∧ changes.length = declared.length then .ok diff
      else .ok (diff ++ ["INITIAL_CHANGE_SET_NOT_COMPLETE"])
  | _ => .ok ["CHANGE_SET_RESOURCE_CHANGES_REQUIRED"]

/-- `_resource_reasons`: the reasons of the allowlist and of the diff. -/
def resourceReasons [FloatValue] (template : Mapping) (changeSet : Option Mapping) :
    Except PyExc (List String × List String) :=
  let declared := resources template
  (diffReasons declared (changesOf changeSet)).map fun diff => (allowlistReasons declared, diff)

/-- Carries the condition of the public ingress. -/
def conditioned (resource : Mapping) : Bool :=
  (resource.get "Condition").isStr "PublicIngressEnabledCondition"

/-- The last of the properties with this action: `by_action.get(action, {})`. -/
def byAction (action : String) (permissions : List Mapping) : Mapping :=
  (permissions.reverse.find? fun p => (p.get "Action").isStr action).getD []

/-- The tests of the permissions once their actions are a set. -/
def permissionsBounded [FloatValue] (permissions : List Mapping) : Bool :=
  permissions.all (fun p => (p.get "Action").isStr "lambda:InvokeFunction" ||
      (p.get "Action").isStr "lambda:InvokeFunctionUrl") &&
    permissions.any (fun p => (p.get "Action").isStr "lambda:InvokeFunction") &&
    permissions.any (fun p => (p.get "Action").isStr "lambda:InvokeFunctionUrl") &&
    permissions.all (fun p => (p.get "Principal").isStr "*") &&
    permissions.all (fun p =>
      pyEq (p.get "FunctionName") (.obj [("Ref", .str "OrchestratorAlias")])) &&
    ((byAction "lambda:InvokeFunctionUrl" permissions).get "FunctionUrlAuthType").isStr "NONE" &&
    ((byAction "lambda:InvokeFunction" permissions).get "InvokedViaFunctionUrl").bool? == some true

def PERMISSION_REASON : String := "PUBLIC_PERMISSION_BOUNDARY_INVALID"

/-- `_public_surface_reasons`. -/
def publicSurfaceReasons [FloatValue] (template : Mapping) : Except PyExc (List String) :=
  let declared := (resources template).map Prod.snd
  let urls := declared.filter fun r => (r.get "Type").isStr "AWS::Lambda::Url"
  let permissions := declared.filter fun r => (r.get "Type").isStr "AWS::Lambda::Permission"
  match urls with
  | [url] =>
    if permissions.length ≠ 2 then .ok ["EXACT_PUBLIC_SURFACE_REQUIRED"]
    else
      let boundary := .obj [("AuthType", .str "NONE"), ("InvokeMode", .str "BUFFERED"),
        ("Qualifier", .str "live"),
        ("TargetFunctionArn", .obj [("Ref", .str "OrchestratorFunction")])]
      let reasons := if conditioned url && pyEq (.obj (properties url)) boundary then []
        else ["FUNCTION_URL_BOUNDARY_INVALID"]
      if ¬ permissions.all conditioned then .ok (reasons ++ [PERMISSION_REASON])
      else
        let granted := permissions.map properties
        -- the actions become a set before they are compared
        if ¬ granted.all (fun p => (p.get "Action").hashable) then
          .error (.typeError "unhashable type")
        else if permissionsBounded granted then .ok reasons
        else .ok (reasons ++ [PERMISSION_REASON])
  | _ => .ok ["EXACT_PUBLIC_SURFACE_REQUIRED"]

/-! ## The loop -/

section Loop

variable [FloatValue]

/-- The entry is the addition of this resource: exactly the five keys, nothing replaced, no scope,
    and the resource's id and type. -/
structure Adds (entry : Mapping) (resource : String × Mapping) : Prop where
  keys : entry.keysAre CHANGE_KEYS
  action : entry.get "action" = .str "Add"
  replacement : entry.get "replacement" = .str "False" ∨
    entry.get "replacement" = .str "NotApplicable"
  scope : entry.get "scope" = .arr []
  logicalId : entry.get "logical_resource_id" = .str resource.1
  validId : Cleanup.isLogicalId resource.1
  type : pyEq (resource.2.get "Type") (entry.get "resource_type")

def Describes (change : Json) (resource : String × Mapping) : Prop :=
  ∃ entry, change = .obj entry ∧ Adds entry resource

/-- What the loop hashes of the entry can be hashed. -/
def Hashed (change : Json) : Prop :=
  ∀ entry : Mapping, change = .obj entry → entry.keysAre CHANGE_KEYS → entry.get "action" = .str "Add" →
    (entry.get "replacement").hashable

variable {declared : List (String × Mapping)} {seen : List String}

omit [FloatValue] in
theorem hashable_of_isStr {j : Json} {text : String} (h : j.isStr text) : j.hashable := by
  rw [isStr_iff.mp h]
  rfl

/-- An entry is looked at without an exception exactly when its replacement can be hashed. -/
theorem examine_ok_iff (declared : List (String × Mapping)) (seen : List String) (change : Json) :
    (∃ v, examine declared seen change = .ok v) ↔ Hashed change := by
  rcases change with _ | _ | _ | _ | _ | _ | entry
  case obj =>
    rw [examine]
    split
    · next hkeys =>
      refine iff_of_true ⟨_, rfl⟩ ?_
      rintro _ ⟨rfl⟩ hkeys'
      exact absurd hkeys' hkeys
    split
    · next haction =>
      refine iff_of_true ⟨_, rfl⟩ ?_
      rintro _ ⟨rfl⟩ - haction'
      exact absurd (isStr_iff.mpr haction') haction
    · next hkeys haction =>
      have hadd := isStr_iff.mp (not_not.mp haction)
      constructor
      · rintro ⟨v, hv⟩ _ ⟨rfl⟩ - -
        by_contra hh
        rw [if_pos hh] at hv
        cases hv
      · intro h
        rw [if_neg (not_not.mpr (h entry rfl (not_not.mp hkeys) hadd))]
        split <;> exact ⟨_, rfl⟩
  all_goals
    refine iff_of_true ⟨_, rfl⟩ ?_
    intro entry hentry
    cases hentry

theorem identified_accepted_iff {entry : Mapping} {logicalId : String} :
    identified declared seen entry = .accepted logicalId ↔
      entry.get "scope" = .arr [] ∧ entry.get "logical_resource_id" = .str logicalId ∧
        Cleanup.isLogicalId logicalId ∧ logicalId ∉ seen ∧
        ∃ resource, declared.lookup logicalId = some resource ∧
          pyEq (resource.get "Type") (entry.get "resource_type") := by
  unfold identified
  split
  · next id hscope hid =>
    rw [hscope, hid]
    rcases hl : declared.lookup id with _ | resource
    · constructor
      · intro h
        cases h
      · rintro ⟨-, ⟨rfl⟩, -, -, resource, hresource, -⟩
        rw [hl] at hresource
        cases hresource
    · show (if _ then Verdict.accepted id else Verdict.invalid) = .accepted logicalId ↔ _
      split
      · next h =>
        constructor
        · rintro ⟨rfl⟩
          exact ⟨rfl, rfl, h.1, h.2.1, resource, hl, h.2.2⟩
        · rintro ⟨-, ⟨rfl⟩, -⟩
          rfl
      · next h =>
        constructor
        · intro hc
          cases hc
        · rintro ⟨-, ⟨rfl⟩, hvalid, hseen, resource', hresource, htype⟩
          rw [hl] at hresource
          obtain rfl := Option.some.inj hresource
          exact absurd ⟨hvalid, hseen, htype⟩ h
  · next hne =>
    constructor
    · intro h
      cases h
    · rintro ⟨hscope, hid, -⟩
      exact absurd hid (hne _ hscope)

/-- An entry is accepted when it adds a declared resource under an id not yet seen. -/
theorem examine_accepted_iff {change : Json} {logicalId : String} :
    examine declared seen change = .ok (.accepted logicalId) ↔
      logicalId ∉ seen ∧ ∃ resource, declared.lookup logicalId = some resource ∧
        Describes change (logicalId, resource) := by
  constructor
  · intro h
    rcases change with _ | _ | _ | _ | _ | _ | entry
    case obj =>
      rw [examine] at h
      split at h
      · cases h
      split at h
      · cases h
      · next hkeys haction =>
        simp only at h
        split at h
        · cases h
        split at h
        · next hreplacement =>
          have hid := Except.ok.inj h
          obtain ⟨hscope, hid, hvalid, hseen, resource, hresource, htype⟩ :=
            identified_accepted_iff.mp hid
          refine ⟨hseen, resource, hresource, entry, rfl, ?_⟩
          exact ⟨not_not.mp hkeys, isStr_iff.mp (not_not.mp haction),
            hreplacement.imp isStr_iff.mp isStr_iff.mp, hscope, hid, hvalid, htype⟩
        · cases h
    all_goals cases h
  · rintro ⟨hseen, resource, hresource, entry, rfl, h⟩
    have hreplacement := h.replacement.imp isStr_iff.mpr isStr_iff.mpr
    have hhashable : ¬ ¬ (Mapping.get entry "replacement").hashable = true :=
      not_not.mpr (hreplacement.elim hashable_of_isStr hashable_of_isStr)
    rw [examine, if_neg (not_not.mpr h.keys), if_neg (not_not.mpr (isStr_iff.mpr h.action))]
    simp only [if_neg hhashable, if_pos hreplacement]
    rw [identified_accepted_iff.mpr
      ⟨h.scope, h.logicalId, h.validId, hseen, resource, hresource, h.type⟩]

/-- The loop raises nothing exactly when every entry can be looked at. -/
theorem scanChanges_ok_iff (declared : List (String × Mapping)) (seen : List String)
    {changes : List Json} : (∃ r, scanChanges declared seen changes = .ok r) ↔ ∀ change ∈ changes, Hashed change := by
  induction changes generalizing seen with
  | nil => exact iff_of_true ⟨_, rfl⟩ (fun _ h => absurd h List.not_mem_nil)
  | cons change changes ih =>
    rw [List.forall_mem_cons, ← examine_ok_iff declared seen change,
      scanChanges]
    rcases hv : examine declared seen change with e | v
    · refine iff_of_false ?_ ?_
      · rintro ⟨r, hr⟩
        cases hr
      · rintro ⟨⟨v, h⟩, -⟩
        cases h
    · have hmap (f : List String × List String → List String × List String) :
          (∃ r, (scanChanges declared seen changes).map f = .ok r) ↔
            ∀ change ∈ changes, Hashed change := by
        rw [← ih seen]
        rcases scanChanges declared seen changes with e | r
        · exact iff_of_false (fun ⟨_, h⟩ => by cases h) (fun ⟨_, h⟩ => by cases h)
        · exact iff_of_true ⟨_, rfl⟩ ⟨_, rfl⟩
      rw [and_iff_right ⟨v, rfl⟩]
      rcases v with _ | _ | logicalId
      · exact hmap _
      · exact hmap _
      · exact ih _

/-- A walk that found nothing wrong accepted every entry for a declared resource, each under an id
    of its own. -/
theorem scanChanges_clean_iff {changes : List Json} {ids : List String} (hseen : seen.Nodup) :
    scanChanges declared seen changes = .ok (ids, []) ↔
      ∃ order, List.Forall₂ Describes changes order ∧
        (∀ r ∈ order, declared.lookup r.1 = some r.2) ∧
        ids = (order.map Prod.fst).reverse ++ seen ∧ ids.Nodup := by
  induction changes generalizing seen with
  | nil =>
    rw [scanChanges]
    constructor
    · rintro ⟨rfl⟩
      exact ⟨[], .nil, fun _ h => absurd h List.not_mem_nil, rfl, hseen⟩
    · rintro ⟨order, hforall, -, rfl, -⟩
      rw [List.forall₂_nil_left_iff.mp hforall]
      rfl
  | cons change changes ih =>
    rw [scanChanges]
    constructor
    · intro h
      rcases hv : examine declared seen change with e | _ | _ | logicalId <;> rw [hv] at h
      case ok.accepted =>
        obtain ⟨hfresh, resource, hresource, hdescribes⟩ := examine_accepted_iff.mp hv
        obtain ⟨order, hforall, hdeclared, hids, hnodup⟩ :=
          (ih (List.nodup_cons.mpr ⟨hfresh, hseen⟩)).mp h
        refine ⟨(logicalId, resource) :: order, .cons hdescribes hforall, ?_, ?_, hnodup⟩
        · exact List.forall_mem_cons.mpr ⟨hresource, hdeclared⟩
        · rw [hids, List.map_cons, List.reverse_cons, List.append_assoc]
          rfl
      case error => cases h
      all_goals
        rcases hs : scanChanges declared seen changes with e | r <;> rw [hs] at h <;> cases h
    · rintro ⟨order, hforall, hdeclared, hids, hnodup⟩
      obtain ⟨resource, rest, hdescribes, hrest, rfl⟩ := List.forall₂_cons_left_iff.mp hforall
      obtain ⟨hresource, hdeclared'⟩ := List.forall_mem_cons.mp hdeclared
      have hids' : ids = (rest.map Prod.fst).reverse ++ resource.1 :: seen := by
        rw [hids, List.map_cons, List.reverse_cons, List.append_assoc]
        rfl
      have hcons : (resource.1 :: seen).Nodup := (hids' ▸ hnodup).of_append_right
      have hfresh : resource.1 ∉ seen := (List.nodup_cons.mp hcons).1
      rw [examine_accepted_iff.mpr ⟨hfresh, resource.2, hresource, hdescribes⟩]
      exact (ih hcons).mpr ⟨rest, hrest, hdeclared', hids', hnodup⟩

end Loop

/-! ## Exactness -/

/-- The names of the template's resources are distinct. -/
theorem resources_nodup (template : JsonMapping) :
    ((resources template.fields).map Prod.fst).Nodup := by
  have hwell := template.get_wellFormed "Resources"
  unfold resources
  rcases h : template.fields.get "Resources" with _ | _ | _ | _ | _ | _ | entries
  case obj =>
    rw [h] at hwell
    have hkeys := (wellFormed_obj.mp hwell).1
    refine (Assoc.keys_filterMap (fun e r hr => ?_) entries).nodup hkeys
    rcases he : e.2 with _ | _ | _ | _ | _ | _ | resource <;> rw [he] at hr <;> cases hr
    rfl
  all_goals exact List.nodup_nil

section Exactness

variable [FloatValue]

/-- The change list holds exactly one addition for each resource of the template, in any order. -/
def Complete (declared : List (String × Mapping)) (changes : Json) : Prop :=
  ∃ items order, changes = .arr items ∧ order.Perm declared ∧ List.Forall₂ Describes items order

/-- The order of the change list does not matter. -/
theorem Complete.perm {declared : List (String × Mapping)} {items items' : List Json}
    (h : Complete declared (.arr items)) (hperm : items'.Perm items) :
    Complete declared (.arr items') := by
  obtain ⟨_, order, ⟨rfl⟩, horder, hforall⟩ := h
  obtain ⟨order', hforall', horder'⟩ := List.perm_comp_forall₂ hperm hforall
  exact ⟨items', order', rfl, horder'.trans horder, hforall'⟩

/-- The two final counts of the loop: the accepted ids are those of the declared resources. -/
theorem complete_iff {declared order : List (String × Mapping)} {changes : List Json}
    (hn : (declared.map Prod.fst).Nodup) (hforall : List.Forall₂ Describes changes order)
    (hdeclared : ∀ r ∈ order, declared.lookup r.1 = some r.2)
    (hnodup : (order.map Prod.fst).Nodup) :
    (((order.map Prod.fst).reverse.all (· ∈ declared.map Prod.fst) = true ∧
      (declared.map Prod.fst).all (· ∈ (order.map Prod.fst).reverse) = true ∧
      changes.length = declared.length)) ↔ order.Perm declared := by
  constructor
  · rintro ⟨-, hall, -⟩
    rw [List.perm_ext_iff_of_nodup (List.Nodup.of_map _ hnodup) (List.Nodup.of_map _ hn)]
    intro r
    constructor
    · intro hr
      exact Assoc.mem_of_lookup (hdeclared r hr)
    · intro hr
      have hid := List.all_eq_true.mp hall r.1 (List.mem_map_of_mem hr)
      obtain ⟨r', hr', hid'⟩ := List.mem_map.mp (List.mem_reverse.mp (of_decide_eq_true hid))
      have hlookup := hdeclared r' hr'
      rw [hid', (Assoc.lookup_iff_mem hn).mpr hr] at hlookup
      have heq : r' = r := Prod.ext hid' (Option.some.inj hlookup).symm
      exact heq ▸ hr'
  · intro hperm
    have hmap := hperm.map Prod.fst
    refine ⟨?_, ?_, hforall.length_eq.trans hperm.length_eq⟩
    · refine List.all_eq_true.mpr fun id hid => decide_eq_true ?_
      exact hmap.mem_iff.mp (List.mem_reverse.mp hid)
    · refine List.all_eq_true.mpr fun id hid => decide_eq_true ?_
      exact List.mem_reverse.mpr (hmap.mem_iff.mpr hid)

/-- Of a walk that raised nothing, the diff is clean exactly when the change list is complete. -/
theorem diff_clean_iff {declared : List (String × Mapping)} (hn : (declared.map Prod.fst).Nodup)
    {changes : List Json} {seen diff : List String}
    (h : scanChanges declared [] changes = .ok (seen, diff)) :
    (diff = [] ∧ (seen.all (· ∈ declared.map Prod.fst) = true ∧
      (declared.map Prod.fst).all (· ∈ seen) = true ∧ changes.length = declared.length)) ↔
      Complete declared (.arr changes) := by
  constructor
  · rintro ⟨rfl, hcounts⟩
    obtain ⟨order, hforall, hdeclared, hids, hnodup⟩ :=
      (scanChanges_clean_iff List.nodup_nil).mp h
    rw [List.append_nil] at hids
    subst hids
    exact ⟨changes, order, rfl,
      (complete_iff hn hforall hdeclared (List.nodup_reverse.mp hnodup)).mp hcounts, hforall⟩
  · rintro ⟨_, order, ⟨rfl⟩, hperm, hforall⟩
    have hnodup : (order.map Prod.fst).Nodup := (hperm.map Prod.fst).nodup_iff.mpr hn
    have hdeclared : ∀ r ∈ order, declared.lookup r.1 = some r.2 :=
      fun r hr => (Assoc.lookup_iff_mem hn).mpr (hperm.mem_iff.mp hr)
    have hclean := (scanChanges_clean_iff List.nodup_nil).mpr
      ⟨order, hforall, hdeclared, (List.append_nil _).symm, List.nodup_reverse.mpr hnodup⟩
    obtain ⟨rfl, rfl⟩ := Prod.mk.inj (Except.ok.inj (h.symm.trans hclean))
    exact ⟨rfl, (complete_iff hn hforall hdeclared hnodup).mpr hperm⟩

/-- The diff is computed exactly where every entry of the change list can be looked at, and is then
    exact. -/
theorem diffReasons_iff {declared : List (String × Mapping)} (hn : (declared.map Prod.fst).Nodup)
    (changes : Json) :
    (∃ diff, diffReasons declared changes = .ok diff ∧ (diff = [] ↔ Complete declared changes)) ↔
      ∀ change ∈ changes.items, Hashed change := by
  rcases changes with _ | _ | _ | _ | _ | changes | _
  case arr =>
    show _ ↔ ∀ change ∈ changes, Hashed change
    rw [← scanChanges_ok_iff declared [], diffReasons]
    rcases hs : scanChanges declared [] changes with e | ⟨seen, diff⟩
    · refine iff_of_false ?_ ?_
      · rintro ⟨diff, hr, -⟩
        cases hr
      · rintro ⟨r, hr⟩
        cases hr
    · refine iff_of_true ?_ ⟨_, rfl⟩
      rw [← diff_clean_iff hn hs]
      simp only
      split
      · next hcounts => exact ⟨diff, rfl, (and_iff_left hcounts).symm⟩
      · next hcounts =>
        refine ⟨_, rfl, iff_of_false (by simp) ?_⟩
        rintro ⟨-, hc⟩
        exact hcounts hc
  all_goals
    refine iff_of_true ⟨_, rfl, iff_of_false (by simp) ?_⟩ (fun _ hc => absurd hc List.not_mem_nil)
    rintro ⟨items, order, hitems, -⟩
    cases hitems

/-- Where the actions of the two public permissions become a set, they can be hashed. -/
def ActionsHashed (template : Mapping) : Prop :=
  let declared := (resources template).map Prod.snd
  let permissions := declared.filter fun r => (r.get "Type").isStr "AWS::Lambda::Permission"
  (declared.filter fun r => (r.get "Type").isStr "AWS::Lambda::Url").length = 1 →
    permissions.length = 2 → permissions.all conditioned →
    (permissions.map properties).all fun p => (p.get "Action").hashable

theorem publicSurfaceReasons_ok_iff (template : Mapping) :
    (∃ reasons, publicSurfaceReasons template = .ok reasons) ↔ ActionsHashed template := by
  unfold publicSurfaceReasons ActionsHashed
  simp only
  split
  · next url hurls =>
    rw [hurls]
    split
    · next hcount => exact iff_of_true ⟨_, rfl⟩ fun _ h => absurd h hcount
    split
    · next hconditioned => exact iff_of_true ⟨_, rfl⟩ fun _ _ h => absurd h hconditioned
    · next hcount hconditioned =>
      split
      · next hhash =>
        refine iff_of_false ?_ fun h => hhash (h rfl (not_not.mp hcount) (not_not.mp hconditioned))
        rintro ⟨reasons, hr⟩
        cases hr
      · next hhash =>
        refine iff_of_true ?_ fun _ _ _ => not_not.mp hhash
        split <;> exact ⟨_, rfl⟩
  · next hurls =>
    refine iff_of_true ⟨_, rfl⟩ fun h => ?_
    obtain ⟨url, hurl⟩ := List.length_eq_one_iff.mp h
    exact absurd hurl (hurls url)

/-- Both checks return, and the diff is clean exactly for a complete change list, if and only if the
    replacement of every well-shaped `Add` entry and the actions of the public permissions are
    values that can be hashed. -/
theorem change_set_diff_exact_iff (template : JsonMapping) (changeSet : Json) :
    ((∃ allowlist diff, resourceReasons template.fields (changeSetModel changeSet) =
        .ok (allowlist, diff) ∧ (diff = [] ↔
          Complete (resources template.fields) (changesOf (changeSetModel changeSet)))) ∧
      ∃ reasons, publicSurfaceReasons template.fields = .ok reasons) ↔
    (∀ change ∈ (changesOf (changeSetModel changeSet)).items, Hashed change) ∧
      ActionsHashed template.fields := by
  rw [publicSurfaceReasons_ok_iff, ← diffReasons_iff (resources_nodup template)]
  refine and_congr_left fun _ => ?_
  unfold resourceReasons
  simp only
  rcases diffReasons (resources template.fields) (changesOf (changeSetModel changeSet)) with e | d
  · refine iff_of_false ?_ ?_
    · rintro ⟨allowlist, diff, hr, -⟩
      cases hr
    · rintro ⟨diff, hr, -⟩
      cases hr
  · constructor
    · rintro ⟨allowlist, diff, ⟨rfl⟩, hdiff⟩
      exact ⟨_, rfl, hdiff⟩
    · rintro ⟨diff, ⟨rfl⟩, hdiff⟩
      exact ⟨_, _, rfl, hdiff⟩

end Exactness

/-! ## Values that cannot be hashed -/

section Sample

/-- No float occurs in the samples. -/
local instance : FloatValue := ⟨fun _ => none⟩

def queue : JsonMapping :=
  ⟨[("Resources", .obj [("Queue", .obj [("Type", .str "AWS::SQS::Queue")])])], by decide⟩

def addition (replacement : Json) : Json := .obj [("changes", .arr [.obj [("action", .str "Add"),
  ("logical_resource_id", .str "Queue"), ("replacement", replacement),
  ("resource_type", .str "AWS::SQS::Queue"), ("scope", .arr [])]])]

def permission (action : Json) : Json := .obj [("Type", .str "AWS::Lambda::Permission"),
  ("Condition", .str "PublicIngressEnabledCondition"), ("Properties", .obj [("Action", action)])]

def publicSurface : JsonMapping :=
  let action : Json := .arr [.str "lambda:InvokeFunction"]
  ⟨[("Resources", .obj [("Url", .obj [("Type", .str "AWS::Lambda::Url")]),
    ("First", permission action), ("Second", permission action)])], by decide⟩

example : resourceReasons queue.fields (changeSetModel (addition (.str "False"))) =
    .ok (["UNEXPECTED_RESOURCE_SET"], []) := by rfl

/-- A list where a text is expected is a `TypeError` of either check. -/
theorem list_value_raises :
    resourceReasons queue.fields (changeSetModel (addition (.arr []))) =
        .error (.typeError "unhashable type") ∧
      publicSurfaceReasons publicSurface.fields = .error (.typeError "unhashable type") := by
  constructor <;> rfl

end Sample

end ChangeSetReview

end CloudOpsAgent
