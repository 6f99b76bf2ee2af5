import HyperTrader.Actions.ExchangeClient
import HyperTrader.Orchestrator.Confirm

/-!
# The classification of an exchange response

`classifyExchangeResponse` reads the JSON value that the exchange answers with. The
grammar of the documented responses is written down beside it: a response that is
accepted, rejected or expired is one of the grammar, and no other order of its statuses
is classified in another way, unless a known expiry stands beside a status of no
documented form. The classifier is not told which action it reads the response of.
-/

namespace HyperTrader

open Library

/-! ### The classifier -/

def knownExpiredErrors : List String :=
  ["Order has expired", "Action has expired", "expiresAfter timestamp has passed"]

def malformedResponse : ExchangeSubmissionResult := .unresolved .malformedResponse

def classifyError : Json → ExchangeSubmissionResult
  | .string error =>
    if error = "" ∨ 2048 < (utf16 error).length then malformedResponse
    else if error ∈ knownExpiredErrors then .expired
    else if error = minimumOrderNotionalMessage then .rejected .minimumNotional
    else .rejected .providerRejected
  | _ => malformedResponse

def exactField (value : Json) (keys : List String) (key : String) : Option Json :=
  (plainObject value).bind fun fields =>
    if exactRequestKeys fields keys then value.field key else none

def isProviderOrderId (oid : ℤ) : Prop := isSafeInteger oid ∧ 0 ≤ oid

instance (oid : ℤ) : Decidable (isProviderOrderId oid) :=
  inferInstanceAs (Decidable (_ ∧ _))

def classifyResting (resting : Json) : ExchangeSubmissionResult :=
  match exactField resting ["oid"] "oid" with
  | some (.number oid) =>
    if isProviderOrderId oid then .accepted [oid] else malformedResponse
  | _ => malformedResponse

def classifyFilled (filled : Json) : ExchangeSubmissionResult :=
  match exactField filled ["totalSz", "avgPx", "oid"] "oid", filled.text "totalSz",
      filled.text "avgPx" with
  | some (.number oid), some _, some _ =>
    if isProviderOrderId oid then .accepted [oid] else malformedResponse
  | _, _, _ => malformedResponse

def classifyOrderStatus (status : Json) : ExchangeSubmissionResult :=
  match plainObject status with
  | some [(key, value)] =>
    if key = "error" then classifyError value
    else if key = "resting" then classifyResting value
    else if key = "filled" then classifyFilled value
    else malformedResponse
  | _ => malformedResponse

def exactStatuses (data : Json) : Option (List Json) :=
  match exactField data ["statuses"] "statuses" with
  | some (.array statuses) => some statuses
  | _ => none

def classifyOrderStatuses (data : Json) : ExchangeSubmissionResult :=
  match exactStatuses data with
  | some [status] => classifyOrderStatus status
  | _ => malformedResponse

def classifyCancelError (status : Json) : ExchangeSubmissionResult :=
  ((exactField status ["error"] "error").map classifyError).getD malformedResponse

def classifyCancels (sawError : Bool) : List Json → ExchangeSubmissionResult
  | [] => if sawError then .rejected .providerRejected else .accepted []
  | .string "success" :: statuses => classifyCancels sawError statuses
  | status :: statuses =>
    match classifyCancelError status with
    | .expired => .expired
    | .rejected _ => classifyCancels true statuses
    | _ => malformedResponse

def classifyCancelStatuses (data : Json) : ExchangeSubmissionResult :=
  match exactStatuses data with
  | some statuses =>
    if statuses = [] ∨ maxBulkCancels < statuses.length then malformedResponse
    else classifyCancels false statuses
  | none => malformedResponse

def classifyResponse (response : Json) : ExchangeSubmissionResult :=
  match plainObject response, response.text "type" with
  | some fields, some type =>
    if type = "default" ∧ exactRequestKeys fields ["type"] then .accepted []
    else if ¬exactRequestKeys fields ["type", "data"] then malformedResponse
    else if type = "order" then
      classifyOrderStatuses ((response.field "data").getD .null)
    else if type = "cancel" then
      classifyCancelStatuses ((response.field "data").getD .null)
    else malformedResponse
  | _, _ => malformedResponse

def classifyExchangeResponse (value : Json) : ExchangeSubmissionResult :=
  match plainObject value with
  | some fields =>
    if ¬exactRequestKeys fields ["status", "response"] then malformedResponse
    else if value.text "status" = some "err" then
      classifyError ((value.field "response").getD .null)
    else if value.text "status" = some "ok" then
      classifyResponse ((value.field "response").getD .null)
    else malformedResponse
  | none => malformedResponse

/-! ### The grammar of the documented responses -/

def IsErrorText (message : String) : Prop :=
  message ≠ "" ∧ (utf16 message).length ≤ 2048

instance (message : String) : Decidable (IsErrorText message) :=
  inferInstanceAs (Decidable (_ ∧ _))

theorem isErrorText_of_known : ∀ message ∈ knownExpiredErrors, IsErrorText message := by
  decide

inductive OrderStatus : Json → Prop where
  | error (message : String) (htext : IsErrorText message) :
      OrderStatus (.object [("error", .string message)])
  | resting (oid : ℤ) (hoid : isProviderOrderId oid) :
      OrderStatus (.object [("resting", .object [("oid", .number oid)])])
  | filled (totalSz avgPx : String) (oid : ℤ) (filled : List (String × Json))
      (hoid : isProviderOrderId oid)
      (hfilled : filled.Perm
        [("totalSz", .string totalSz), ("avgPx", .string avgPx), ("oid", .number oid)]) :
      OrderStatus (.object [("filled", .object filled)])

inductive CancelStatus : Json → Prop where
  | success : CancelStatus (.string "success")
  | error (message : String) (htext : IsErrorText message) :
      CancelStatus (.object [("error", .string message)])

inductive ResponseData : String → Json → Prop where
  | order (status : Json) (hstatus : OrderStatus status) :
      ResponseData "order" (.object [("statuses", .array [status])])
  | cancel (statuses : List Json) (hnonempty : statuses ≠ [])
      (hbound : statuses.length ≤ maxBulkCancels)
      (hstatuses : ∀ status ∈ statuses, CancelStatus status) :
      ResponseData "cancel" (.object [("statuses", .array statuses)])

inductive ExchangeResponse : Json → Prop where
  | err (message : String) (root : List (String × Json)) (htext : IsErrorText message)
      (hroot : root.Perm [("status", .string "err"), ("response", .string message)]) :
      ExchangeResponse (.object root)
  | default (root : List (String × Json))
      (hroot : root.Perm [("status", .string "ok"),
        ("response", .object [("type", .string "default")])]) :
      ExchangeResponse (.object root)
  | ok (type : String) (data : Json) (root response : List (String × Json))
      (hdata : ResponseData type data)
      (hresponse : response.Perm [("type", .string type), ("data", data)])
      (hroot : root.Perm [("status", .string "ok"), ("response", .object response)]) :
      ExchangeResponse (.object root)

def ExpiredStatus (status : Json) : Prop :=
  ∃ message ∈ knownExpiredErrors, status = .object [("error", .string message)]

/-! ### Errors and statuses -/

section

variable {value status data : Json} {fields : List (String × Json)} {keys : List String}
  {key : String}

theorem plainObject_eq_some : plainObject value = some fields ↔ value = .object fields := by
  cases value <;> simp [plainObject]

variable {field : Json}

theorem exactField_eq_some :
    exactField value keys key = some field ↔
      ∃ fields, value = .object fields ∧ exactRequestKeys fields keys ∧
        value.field key = some field := by
  unfold exactField
  rw [Option.bind_eq_some_iff]
  constructor
  · rintro ⟨fields, hfields, h⟩
    by_cases hkeys : exactRequestKeys fields keys
    · rw [if_pos hkeys] at h
      exact ⟨fields, plainObject_eq_some.mp hfields, hkeys, h⟩
    · rw [if_neg hkeys] at h
      cases h
  · rintro ⟨fields, rfl, hkeys, h⟩
    exact ⟨fields, rfl, by rw [if_pos hkeys, h]⟩

theorem perm_of_exactRequestKeys (hnodup : keys.Nodup) (h : exactRequestKeys fields keys) :
    fields.Perm (keys.map fun key => (key, ((Json.object fields).field key).getD .null)) := by
  have hfields := Json.eq_object_of_keys (List.Perm.nodup_iff h |>.mpr hnodup)
  exact (List.Perm.of_eq hfields).trans (List.Perm.map _ h)

theorem eq_of_exactRequestKeys (h : exactRequestKeys fields [key]) :
    fields = [(key, ((Json.object fields).field key).getD .null)] :=
  List.perm_singleton.mp (perm_of_exactRequestKeys (List.nodup_singleton key) h)

theorem eq_of_exactField (h : exactField value [key] key = some field) :
    value = .object [(key, field)] := by
  obtain ⟨fields, rfl, hkeys, hfield⟩ := exactField_eq_some.mp h
  rw [eq_of_exactRequestKeys hkeys, hfield, Option.getD_some]

theorem classifyError_cases (value : Json) :
    (∃ message, value = .string message ∧ IsErrorText message ∧
      ((message ∈ knownExpiredErrors ∧ classifyError value = .expired) ∨
        (message ∉ knownExpiredErrors ∧ ∃ reason, classifyError value = .rejected reason))) ∨
    (classifyError value = malformedResponse ∧
      ∀ message, value = .string message → ¬IsErrorText message) := by
  cases value with
  | string message =>
    by_cases hbad : message = "" ∨ 2048 < (utf16 message).length
    · refine .inr ⟨if_pos hbad, ?_⟩
      rintro _ ⟨⟩ ⟨hne, hbound⟩
      exact hbad.elim hne (Nat.not_lt.mpr hbound)
    · have htext : IsErrorText message :=
        ⟨fun h => hbad (.inl h), Nat.not_lt.mp fun h => hbad (.inr h)⟩
      refine .inl ⟨message, rfl, htext, ?_⟩
      rw [show classifyError (.string message) = _ from if_neg hbad]
      by_cases hknown : message ∈ knownExpiredErrors
      · exact .inl ⟨hknown, if_pos hknown⟩
      · rw [if_neg hknown]
        refine .inr ⟨hknown, ?_⟩
        split
        · exact ⟨_, rfl⟩
        · exact ⟨_, rfl⟩
  | null => exact .inr ⟨rfl, fun _ h => by cases h⟩
  | bool _ => exact .inr ⟨rfl, fun _ h => by cases h⟩
  | number _ => exact .inr ⟨rfl, fun _ h => by cases h⟩
  | array _ => exact .inr ⟨rfl, fun _ h => by cases h⟩
  | object _ => exact .inr ⟨rfl, fun _ h => by cases h⟩

theorem errorText_of_classifyError (h : classifyError value ≠ malformedResponse) :
    ∃ message, value = .string message ∧ IsErrorText message := by
  rcases classifyError_cases value with ⟨message, hvalue, htext, -⟩ | ⟨hbad, -⟩
  · exact ⟨message, hvalue, htext⟩
  · exact absurd hbad h

theorem classifyResting_ne (h : classifyResting value ≠ malformedResponse) :
    ∃ oid, isProviderOrderId oid ∧ value = .object [("oid", .number oid)] := by
  unfold classifyResting at h
  split at h
  · rename_i oid hfield
    by_cases hoid : isProviderOrderId oid
    · exact ⟨oid, hoid, eq_of_exactField hfield⟩
    · rw [if_neg hoid] at h
      exact absurd rfl h
  · exact absurd rfl h

theorem classifyFilled_ne (h : classifyFilled value ≠ malformedResponse) :
    ∃ totalSz avgPx oid fields, isProviderOrderId oid ∧ value = .object fields ∧
      fields.Perm
        [("totalSz", .string totalSz), ("avgPx", .string avgPx), ("oid", .number oid)] := by
  unfold classifyFilled at h
  split at h
  · rename_i oid totalSz avgPx hfield htotal haverage
    by_cases hoid : isProviderOrderId oid
    · obtain ⟨fields, rfl, hkeys, hnumber⟩ := exactField_eq_some.mp hfield
      refine ⟨totalSz, avgPx, oid, fields, hoid, rfl, ?_⟩
      have hperm := perm_of_exactRequestKeys (by decide) hkeys
      rw [Json.text_eq_some] at htotal haverage
      simpa only [List.map_cons, List.map_nil, htotal, haverage, hnumber,
        Option.getD_some] using hperm
    · rw [if_neg hoid] at h
      exact absurd rfl h
  · exact absurd rfl h

theorem orderStatus_of_classify (h : classifyOrderStatus status ≠ malformedResponse) :
    OrderStatus status := by
  unfold classifyOrderStatus at h
  split at h
  · rename_i key value hobject
    obtain rfl := plainObject_eq_some.mp hobject
    split at h
    · rename_i hkey
      obtain ⟨message, rfl, htext⟩ := errorText_of_classifyError h
      rw [hkey]
      exact .error message htext
    · split at h
      · rename_i hkey
        obtain ⟨oid, hoid, rfl⟩ := classifyResting_ne h
        rw [hkey]
        exact .resting oid hoid
      · split at h
        · rename_i hkey
          obtain ⟨totalSz, avgPx, oid, filled, hoid, rfl, hfilled⟩ := classifyFilled_ne h
          rw [hkey]
          exact .filled totalSz avgPx oid filled hoid hfilled
        · exact absurd rfl h
  · exact absurd rfl h

theorem cancelStatus_cases (status : Json) :
    status = .string "success" ∨
    (status ≠ .string "success" ∧ CancelStatus status ∧ ExpiredStatus status ∧
      classifyCancelError status = .expired) ∨
    (status ≠ .string "success" ∧ CancelStatus status ∧ ¬ExpiredStatus status ∧
      ∃ reason, classifyCancelError status = .rejected reason) ∨
    (status ≠ .string "success" ∧ ¬CancelStatus status ∧ ¬ExpiredStatus status ∧
      classifyCancelError status = malformedResponse) := by
  by_cases hsuccess : status = .string "success"
  · exact .inl hsuccess
  refine .inr ?_
  have hnone (hnot : ∀ message, IsErrorText message →
        status ≠ .object [("error", .string message)]) :
      ¬CancelStatus status ∧ ¬ExpiredStatus status := by
    constructor
    · rintro (_ | ⟨message, htext⟩)
      · exact hsuccess rfl
      · exact hnot message htext rfl
    · rintro ⟨message, hknown, rfl⟩
      exact hnot message (isErrorText_of_known message hknown) rfl
  unfold classifyCancelError
  cases hfield : exactField status ["error"] "error" with
  | none =>
    refine .inr (.inr ⟨hsuccess, ?_⟩)
    have hnot := hnone fun message _ hstatus => by
      rw [hstatus] at hfield
      cases hfield
    exact ⟨hnot.1, hnot.2, rfl⟩
  | some error =>
    obtain rfl := eq_of_exactField hfield
    rcases classifyError_cases error with ⟨message, rfl, htext, hverdict⟩ | ⟨hbad, hnot⟩
    · rcases hverdict with ⟨hknown, hexpired⟩ | ⟨hunknown, reason, hrejected⟩
      · exact .inl ⟨hsuccess, .error message htext, ⟨message, hknown, rfl⟩, hexpired⟩
      · refine .inr (.inl ⟨hsuccess, .error message htext, ?_, reason, hrejected⟩)
        rintro ⟨other, hother, hsame⟩
        cases hsame
        exact hunknown hother
    · have hnot := hnone fun message htext hstatus => by
        cases hstatus
        exact hnot message rfl htext
      exact .inr (.inr ⟨hsuccess, hnot.1, hnot.2, hbad⟩)

/-! ### The loop over the statuses of a cancellation -/

variable {statuses permuted : List Json} {sawError : Bool}

theorem classifyCancels_cons (hstatus : status ≠ .string "success") :
    classifyCancels sawError (status :: statuses) =
      match classifyCancelError status with
      | .expired => .expired
      | .rejected _ => classifyCancels true statuses
      | _ => malformedResponse := by
  conv_lhs => unfold classifyCancels
  split
  · rename_i h
    cases h
  · rename_i h
    cases h
    exact absurd rfl hstatus
  · rename_i h
    cases h
    rfl

theorem classifyCancels_malformed (hexpired : ∀ status ∈ statuses, ¬ExpiredStatus status)
    (hmalformed : ∃ status ∈ statuses, ¬CancelStatus status) :
    classifyCancels sawError statuses = malformedResponse := by
  induction statuses generalizing sawError with
  | nil =>
    obtain ⟨_, hmem, -⟩ := hmalformed
    cases hmem
  | cons status statuses ih =>
    have hrest := fun status hmem => hexpired status (List.mem_cons_of_mem _ hmem)
    have hlater (hstatus : CancelStatus status) :
        ∃ status ∈ statuses, ¬CancelStatus status := by
      obtain ⟨other, hmem, hother⟩ := hmalformed
      rcases List.mem_cons.mp hmem with rfl | hmem
      · exact absurd hstatus hother
      · exact ⟨other, hmem, hother⟩
    rcases cancelStatus_cases status with rfl | ⟨-, -, hexpires, -⟩ |
      ⟨hne, hstatus, -, reason, hrejected⟩ | ⟨hne, -, -, hbad⟩
    · exact ih hrest (hlater .success)
    · exact absurd hexpires (hexpired status List.mem_cons_self)
    · rw [classifyCancels_cons hne, hrejected]
      exact ih hrest (hlater hstatus)
    · rw [classifyCancels_cons hne, hbad]
      rfl

theorem classifyCancels_expired (hstatuses : ∀ status ∈ statuses, CancelStatus status)
    (hexpired : ∃ status ∈ statuses, ExpiredStatus status) :
    classifyCancels sawError statuses = .expired := by
  induction statuses generalizing sawError with
  | nil =>
    obtain ⟨_, hmem, -⟩ := hexpired
    cases hmem
  | cons status statuses ih =>
    have hrest := fun status hmem => hstatuses status (List.mem_cons_of_mem _ hmem)
    have hlater (hstatus : ¬ExpiredStatus status) :
        ∃ status ∈ statuses, ExpiredStatus status := by
      obtain ⟨other, hmem, hother⟩ := hexpired
      rcases List.mem_cons.mp hmem with rfl | hmem
      · exact absurd hother hstatus
      · exact ⟨other, hmem, hother⟩
    rcases cancelStatus_cases status with rfl | ⟨hne, -, -, hexpires⟩ |
      ⟨hne, -, hstatus, reason, hrejected⟩ | ⟨-, hbad, -, -⟩
    · refine ih hrest (hlater ?_)
      rintro ⟨_, -, h⟩
      cases h
    · rw [classifyCancels_cons hne, hexpires]
    · rw [classifyCancels_cons hne, hrejected]
      exact ih hrest (hlater hstatus)
    · exact absurd (hstatuses status List.mem_cons_self) hbad

theorem classifyCancels_documented (hstatuses : ∀ status ∈ statuses, CancelStatus status)
    (hexpired : ∀ status ∈ statuses, ¬ExpiredStatus status) :
    (sawError = true ∨ (∃ status ∈ statuses, status ≠ .string "success") →
        classifyCancels sawError statuses = .rejected .providerRejected) ∧
      (sawError = false → (∀ status ∈ statuses, status = .string "success") →
        classifyCancels sawError statuses = .accepted []) := by
  induction statuses generalizing sawError with
  | nil =>
    constructor
    · rintro (rfl | ⟨_, hmem, -⟩)
      · rfl
      · cases hmem
    · rintro rfl -
      rfl
  | cons status statuses ih =>
    have hrest := fun status hmem => hstatuses status (List.mem_cons_of_mem _ hmem)
    have hnone := fun status hmem => hexpired status (List.mem_cons_of_mem _ hmem)
    rcases cancelStatus_cases status with rfl | ⟨-, -, hexpires, -⟩ |
      ⟨hne, -, -, reason, hrejected⟩ | ⟨-, hbad, -, -⟩
    · constructor
      · rintro (hsaw | ⟨other, hmem, hother⟩)
        · exact (ih hrest hnone).1 (.inl hsaw)
        · rcases List.mem_cons.mp hmem with rfl | hmem
          · exact absurd rfl hother
          · exact (ih hrest hnone).1 (.inr ⟨other, hmem, hother⟩)
      · intro hsaw hall
        exact (ih hrest hnone).2 hsaw fun other hmem =>
          hall other (List.mem_cons_of_mem _ hmem)
    · exact absurd hexpires (hexpired status List.mem_cons_self)
    · rw [classifyCancels_cons hne, hrejected]
      refine ⟨fun _ => (ih hrest hnone).1 (.inl rfl), fun _ hall => ?_⟩
      exact absurd (hall status List.mem_cons_self) hne
    · exact absurd (hstatuses status List.mem_cons_self) hbad

def ExpiredBesideUnknown (statuses : List Json) : Prop :=
  (∃ status ∈ statuses, ExpiredStatus status) ∧ ∃ status ∈ statuses, ¬CancelStatus status

theorem classifyCancels_perm (hperm : statuses.Perm permuted)
    (hbeside : ¬ExpiredBesideUnknown statuses) :
    classifyCancels sawError statuses = classifyCancels sawError permuted := by
  by_cases hmalformed : ∃ status ∈ statuses, ¬CancelStatus status
  · have hexpired : ∀ status ∈ statuses, ¬ExpiredStatus status :=
      fun status hmem hexpires => hbeside ⟨⟨status, hmem, hexpires⟩, hmalformed⟩
    obtain ⟨status, hmem, hstatus⟩ := hmalformed
    rw [classifyCancels_malformed hexpired ⟨status, hmem, hstatus⟩,
      classifyCancels_malformed (fun other hother => hexpired other (hperm.mem_iff.mpr hother))
        ⟨status, hperm.mem_iff.mp hmem, hstatus⟩]
  · have hstatuses : ∀ status ∈ statuses, CancelStatus status := by
      simpa using hmalformed
    have hpermuted : ∀ status ∈ permuted, CancelStatus status :=
      fun status hmem => hstatuses status (hperm.mem_iff.mpr hmem)
    by_cases hexpired : ∃ status ∈ statuses, ExpiredStatus status
    · obtain ⟨status, hmem, hstatus⟩ := hexpired
      rw [classifyCancels_expired hstatuses ⟨status, hmem, hstatus⟩,
        classifyCancels_expired hpermuted ⟨status, hperm.mem_iff.mp hmem, hstatus⟩]
    · have hnone : ∀ status ∈ statuses, ¬ExpiredStatus status := by
        simpa using hexpired
      have hnone' : ∀ status ∈ permuted, ¬ExpiredStatus status :=
        fun status hmem => hnone status (hperm.mem_iff.mpr hmem)
      have hhere := @classifyCancels_documented statuses sawError hstatuses hnone
      have hthere := @classifyCancels_documented permuted sawError hpermuted hnone'
      by_cases herror : sawError = true ∨ ∃ status ∈ statuses, status ≠ .string "success"
      · rw [hhere.1 herror, hthere.1 (herror.imp_right ?_)]
        rintro ⟨status, hmem, hne⟩
        exact ⟨status, hperm.mem_iff.mp hmem, hne⟩
      · obtain ⟨hsaw, hall⟩ := not_or.mp herror
        have hall : ∀ status ∈ statuses, status = .string "success" := by
          simpa using hall
        rw [hhere.2 (by simpa using hsaw) hall, hthere.2 (by simpa using hsaw)]
        exact fun status hmem => hall status (hperm.mem_iff.mpr hmem)

theorem cancelStatus_of_classify (hbeside : ¬ExpiredBesideUnknown statuses)
    (h : classifyCancels sawError statuses ≠ malformedResponse) :
    ∀ status ∈ statuses, CancelStatus status := by
  intro status hmem
  by_contra hstatus
  apply h
  refine classifyCancels_malformed (fun other hother hexpires => ?_) ⟨status, hmem, hstatus⟩
  exact hbeside ⟨⟨other, hother, hexpires⟩, status, hmem, hstatus⟩

end

/-! ### Whole responses -/

def mapField (key : String) (change : Json → Json) : Json → Json
  | .object fields => .object (fields.map fun entry =>
    if entry.1 = key then (entry.1, change entry.2) else entry)
  | value => value

def statusesOf (value : Json) : Option (List Json) :=
  match ((value.field "response").bind (Json.field "data")).bind (Json.field "statuses") with
  | some (.array statuses) => some statuses
  | _ => none

def withStatuses (statuses : List Json) : Json → Json :=
  mapField "response" (mapField "data" (mapField "statuses" fun _ => .array statuses))

def DocumentedStatus (value status : Json) : Prop :=
  match (value.field "response").bind (Json.text "type") with
  | some "order" => OrderStatus status
  | some "cancel" => CancelStatus status
  | _ => False

/-- A cancellation whose statuses hold a known expiry beside one of no documented
form. -/
def ExpiresBesideUnknown (value : Json) : Prop :=
  (value.field "response").bind (Json.text "type") = some "cancel" ∧
    ∃ statuses ∈ statusesOf value, ExpiredBesideUnknown statuses

structure ClassifiedStrictly (value : Json) : Prop where
  /-- A value that is resolved is a documented response, as a whole. -/
  documented : classifyExchangeResponse value ≠ malformedResponse → ExchangeResponse value
  /-- An unknown status anywhere leaves it unresolved. -/
  unknown : ∀ statuses ∈ statusesOf value,
    (∃ status ∈ statuses, ¬DocumentedStatus value status) →
      classifyExchangeResponse value = malformedResponse
  /-- The order of the statuses does not matter. -/
  permuted : ∀ statuses ∈ statusesOf value, ∀ permuted, statuses.Perm permuted →
    classifyExchangeResponse (withStatuses permuted value) = classifyExchangeResponse value

section

variable {value data : Json} {key other : String} {change : Json → Json}

@[simp] theorem plainObject_mapField : plainObject (mapField key change value) =
    (plainObject value).map fun fields => fields.map fun entry =>
      if entry.1 = key then (entry.1, change entry.2) else entry := by
  cases value <;> rfl

theorem keys_mapField (fields : List (String × Json)) :
    (fields.map fun entry => if entry.1 = key then (entry.1, change entry.2) else entry).map
      Prod.fst = fields.map Prod.fst := by
  rw [List.map_map]
  apply List.map_congr_left
  intro entry _
  rw [Function.comp_apply]
  split
  · rfl
  · rfl

@[simp] theorem exactRequestKeys_mapField {fields : List (String × Json)} {keys : List String} :
    exactRequestKeys (fields.map fun entry =>
      if entry.1 = key then (entry.1, change entry.2) else entry) keys ↔
      exactRequestKeys fields keys := by
  unfold exactRequestKeys
  rw [keys_mapField]

theorem field_mapField_self :
    (mapField key change value).field key = (value.field key).map change := by
  cases value with
  | object fields =>
    change ((fields.map fun entry => if entry.1 = key then (entry.1, change entry.2)
      else entry).find? fun entry => entry.1 == key).map Prod.snd =
        ((fields.find? fun entry => entry.1 == key).map Prod.snd).map change
    induction fields with
    | nil => rfl
    | cons entry fields ih =>
      by_cases hkey : entry.1 = key
      · simp [hkey]
      · simp only [List.map_cons, if_neg hkey]
        rw [List.find?_cons_of_neg (by simpa using hkey),
          List.find?_cons_of_neg (by simpa using hkey), ih]
  | null => rfl
  | bool _ => rfl
  | number _ => rfl
  | string _ => rfl
  | array _ => rfl

theorem field_mapField_of_ne (h : other ≠ key) :
    (mapField key change value).field other = value.field other := by
  cases value with
  | object fields =>
    change ((fields.map fun entry => if entry.1 = key then (entry.1, change entry.2)
      else entry).find? fun entry => entry.1 == other).map Prod.snd =
        (fields.find? fun entry => entry.1 == other).map Prod.snd
    induction fields with
    | nil => rfl
    | cons entry fields ih =>
      by_cases hother : entry.1 = other
      · have hkey : ¬entry.1 = key := fun hkey => h (hother.symm.trans hkey)
        simp [hother, h]
      · by_cases hkey : entry.1 = key
        · simp only [List.map_cons, if_pos hkey]
          rw [List.find?_cons_of_neg (by simpa using hother),
            List.find?_cons_of_neg (by simpa using hother), ih]
        · simp only [List.map_cons, if_neg hkey]
          rw [List.find?_cons_of_neg (by simpa using hother),
            List.find?_cons_of_neg (by simpa using hother), ih]
  | null => rfl
  | bool _ => rfl
  | number _ => rfl
  | string _ => rfl
  | array _ => rfl

theorem text_mapField_of_ne (h : other ≠ key) :
    (mapField key change value).text other = value.text other := by
  unfold Json.text
  rw [field_mapField_of_ne h]

theorem exactField_mapField {keys : List String} :
    exactField (mapField key change value) keys key = (exactField value keys key).map change := by
  unfold exactField
  rw [plainObject_mapField]
  cases plainObject value with
  | none => rfl
  | some fields =>
    simp only [Option.map_some, Option.bind_some, exactRequestKeys_mapField, field_mapField_self]
    split
    · rfl
    · rfl

theorem exactStatuses_eq_some {statuses : List Json} (h : exactStatuses data = some statuses) :
    data = .object [("statuses", .array statuses)] := by
  unfold exactStatuses at h
  split at h
  · rename_i found hfield
    cases h
    exact eq_of_exactField hfield
  · cases h

theorem exactStatuses_withStatuses {statuses : List Json} :
    exactStatuses (mapField "statuses" (fun _ => .array statuses) data) =
      ((exactField data ["statuses"] "statuses").map fun _ => statuses) := by
  unfold exactStatuses
  rw [exactField_mapField]
  cases exactField data ["statuses"] "statuses" with
  | none => rfl
  | some _ => rfl

variable {type : String} {response : Json}

theorem responseData_of_classify (hbeside : type = "cancel" →
      ∀ statuses, exactStatuses data = some statuses → ¬ExpiredBesideUnknown statuses)
    (h : (type = "order" ∧ classifyOrderStatuses data ≠ malformedResponse) ∨
      (type = "cancel" ∧ classifyCancelStatuses data ≠ malformedResponse)) :
    ResponseData type data := by
  rcases h with ⟨rfl, h⟩ | ⟨rfl, h⟩
  · unfold classifyOrderStatuses at h
    split at h
    · rename_i status hstatuses
      rw [exactStatuses_eq_some hstatuses]
      exact .order status (orderStatus_of_classify h)
    · exact absurd rfl h
  · unfold classifyCancelStatuses at h
    split at h
    · rename_i statuses hstatuses
      by_cases hsize : statuses = [] ∨ maxBulkCancels < statuses.length
      · rw [if_pos hsize] at h
        exact absurd rfl h
      · rw [if_neg hsize] at h
        obtain ⟨hnonempty, hbound⟩ := not_or.mp hsize
        have hcancels := cancelStatus_of_classify (hbeside rfl statuses hstatuses) h
        rw [exactStatuses_eq_some hstatuses]
        exact .cancel statuses hnonempty (Nat.not_lt.mp hbound) hcancels
    · exact absurd rfl h

theorem classifyResponse_eq {fields : List (String × Json)}
    (htype : (Json.object fields).text "type" = some type) :
    classifyResponse (.object fields) =
      if type = "default" ∧ exactRequestKeys fields ["type"] then .accepted []
      else if ¬exactRequestKeys fields ["type", "data"] then malformedResponse
      else if type = "order" then
        classifyOrderStatuses (((Json.object fields).field "data").getD .null)
      else if type = "cancel" then
        classifyCancelStatuses (((Json.object fields).field "data").getD .null)
      else malformedResponse := by
  unfold classifyResponse
  rw [htype]
  rfl

theorem classifyResponse_ne
    (hbeside : response.text "type" = some "cancel" → ∀ data ∈ response.field "data",
      ∀ statuses, exactStatuses data = some statuses → ¬ExpiredBesideUnknown statuses)
    (h : classifyResponse response ≠ malformedResponse) :
    response = .object [("type", .string "default")] ∨
      ∃ type data fields, response = .object fields ∧ ResponseData type data ∧
        fields.Perm [("type", .string type), ("data", data)] := by
  cases hobject : plainObject response with
  | none =>
    unfold classifyResponse at h
    rw [hobject] at h
    exact absurd rfl h
  | some fields =>
    obtain rfl := plainObject_eq_some.mp hobject
    cases htype : (Json.object fields).text "type" with
    | none =>
      unfold classifyResponse at h
      rw [htype] at h
      exact absurd rfl h
    | some type =>
      rw [classifyResponse_eq htype] at h
      rw [htype] at hbeside
      have hfield := Json.text_eq_some.mp htype
      by_cases hdefault : type = "default" ∧ exactRequestKeys fields ["type"]
      · obtain ⟨rfl, hkeys⟩ := hdefault
        left
        rw [eq_of_exactRequestKeys hkeys, hfield, Option.getD_some]
      · rw [if_neg hdefault] at h
        by_cases hkeys : exactRequestKeys fields ["type", "data"]
        · rw [if_neg (not_not.mpr hkeys)] at h
          have hperm := perm_of_exactRequestKeys (by decide) hkeys
          simp only [List.map_cons, List.map_nil, hfield, Option.getD_some] at hperm
          right
          refine ⟨type, ((Json.object fields).field "data").getD .null, fields, rfl, ?_, hperm⟩
          apply responseData_of_classify
          · rintro rfl statuses hstatuses
            cases hdata : (Json.object fields).field "data" with
            | none =>
              rw [hdata] at hstatuses
              cases hstatuses
            | some data =>
              rw [hdata, Option.getD_some] at hstatuses
              exact hbeside rfl data hdata statuses hstatuses
          · by_cases horder : type = "order"
            · rw [if_pos horder] at h
              exact .inl ⟨horder, h⟩
            · rw [if_neg horder] at h
              by_cases hcancel : type = "cancel"
              · rw [if_pos hcancel] at h
                exact .inr ⟨hcancel, h⟩
              · rw [if_neg hcancel] at h
                exact absurd rfl h
        · rw [if_pos hkeys] at h
          exact absurd rfl h

theorem statusesOf_eq_some {response statuses} (hresponse : value.field "response" = some response)
    (hdata : response.field "data" = some data)
    (hstatuses : exactStatuses data = some statuses) : statusesOf value = some statuses := by
  rw [exactStatuses_eq_some hstatuses] at hdata
  unfold statusesOf
  rw [hresponse, Option.bind_some, hdata]
  rfl

theorem exchangeResponse_of_classify (hbeside : ¬ExpiresBesideUnknown value)
    (h : classifyExchangeResponse value ≠ malformedResponse) : ExchangeResponse value := by
  unfold classifyExchangeResponse at h
  split at h
  · rename_i root hroot
    obtain rfl := plainObject_eq_some.mp hroot
    by_cases hkeys : exactRequestKeys root ["status", "response"]
    · rw [if_neg (not_not.mpr hkeys)] at h
      have hperm := perm_of_exactRequestKeys (by decide) hkeys
      by_cases herr : (Json.object root).text "status" = some "err"
      · rw [if_pos herr] at h
        obtain ⟨message, hmessage, htext⟩ := errorText_of_classifyError h
        simp only [List.map_cons, List.map_nil, Json.text_eq_some.mp herr, Option.getD_some,
          hmessage] at hperm
        exact .err message root htext hperm
      · rw [if_neg herr] at h
        by_cases hok : (Json.object root).text "status" = some "ok"
        · rw [if_pos hok] at h
          simp only [List.map_cons, List.map_nil, Json.text_eq_some.mp hok,
            Option.getD_some] at hperm
          cases hresponse : (Json.object root).field "response" with
          | none =>
            rw [hresponse] at h
            exact absurd rfl h
          | some response =>
            rw [hresponse, Option.getD_some] at h hperm
            have halone : response.text "type" = some "cancel" →
                ∀ data ∈ response.field "data", ∀ statuses,
                  exactStatuses data = some statuses → ¬ExpiredBesideUnknown statuses := by
              intro htype data hdata statuses hstatuses hboth
              exact hbeside ⟨by rw [hresponse, Option.bind_some, htype], statuses,
                statusesOf_eq_some hresponse hdata hstatuses, hboth⟩
            rcases classifyResponse_ne halone h with
              rfl | ⟨type, data, fields, rfl, hdata, hfields⟩
            · exact .default root hperm
            · exact .ok type data root fields hdata hfields hperm
        · rw [if_neg hok] at h
          exact absurd rfl h
    · rw [if_pos hkeys] at h
      exact absurd rfl h
  · exact absurd rfl h

theorem field_eq_some_iff {fields : List (String × Json)} (hnodup : (fields.map Prod.fst).Nodup)
    {field : Json} : (Json.object fields).field key = some field ↔ (key, field) ∈ fields := by
  induction fields with
  | nil => simp [Json.field]
  | cons entry fields ih =>
    obtain ⟨first, found⟩ := entry
    rw [List.map_cons, List.nodup_cons] at hnodup
    by_cases hkey : first = key
    · subst hkey
      have habsent : (first, field) ∉ fields :=
        fun hmem => hnodup.1 (List.mem_map.mpr ⟨_, hmem, rfl⟩)
      simp [Json.field, habsent, eq_comm]
    · rw [Json.field_cons_of_ne hkey, ih hnodup.2]
      simp [Ne.symm hkey]

theorem field_of_perm {fields expected : List (String × Json)} (hperm : fields.Perm expected)
    (hnodup : (expected.map Prod.fst).Nodup) :
    (Json.object fields).field key = (Json.object expected).field key := by
  have hfields := (hperm.map Prod.fst).nodup_iff.mpr hnodup
  ext field
  rw [field_eq_some_iff hfields, field_eq_some_iff hnodup]
  exact hperm.mem_iff

theorem ExchangeResponse.documentedStatus (h : ExchangeResponse value) {statuses : List Json}
    (hstatuses : statusesOf value = some statuses) :
    ∀ status ∈ statuses, DocumentedStatus value status := by
  unfold statusesOf at hstatuses
  unfold DocumentedStatus
  cases h with
  | err message root htext hroot =>
    rw [field_of_perm hroot (by simp)] at hstatuses
    cases hstatuses
  | default root hroot =>
    rw [field_of_perm hroot (by simp)] at hstatuses
    cases hstatuses
  | ok type data root response hdata hresponse hroot =>
    have htype : (Json.object response).text "type" = some type := by
      rw [Json.text_eq_some, field_of_perm hresponse (by simp)]
      rfl
    have hfield : (Json.object root).field "response" = some (.object response) := by
      rw [field_of_perm hroot (by simp)]
      rfl
    have hfound : (Json.object response).field "data" = some data := by
      rw [field_of_perm hresponse (by simp)]
      rfl
    rw [hfield, Option.bind_some, hfound, Option.bind_some] at hstatuses
    rw [hfield, Option.bind_some, htype]
    cases hdata with
    | order status hstatus =>
      cases hstatuses
      simpa using hstatus
    | cancel statuses hnonempty hbound hcancels =>
      cases hstatuses
      exact hcancels

theorem classifyStatuses_perm {statuses permuted : List Json} (hperm : statuses.Perm permuted)
    (hstatuses : data.field "statuses" = some (.array statuses)) :
    classifyOrderStatuses (mapField "statuses" (fun _ => .array permuted) data) =
        classifyOrderStatuses data ∧
      (¬ExpiredBesideUnknown statuses →
        classifyCancelStatuses (mapField "statuses" (fun _ => .array permuted) data) =
          classifyCancelStatuses data) := by
  unfold classifyOrderStatuses classifyCancelStatuses
  rw [exactStatuses_withStatuses]
  unfold exactStatuses
  cases hexact : exactField data ["statuses"] "statuses" with
  | none => exact ⟨rfl, fun _ => rfl⟩
  | some found =>
    obtain ⟨-, -, -, hfield⟩ := exactField_eq_some.mp hexact
    cases hstatuses.symm.trans hfield
    simp only [Option.map_some]
    constructor
    · cases statuses with
      | nil => rw [List.nil_perm.mp hperm]
      | cons status rest =>
        cases rest with
        | nil => rw [List.singleton_perm.mp hperm]
        | cons next rest =>
          cases permuted with
          | nil => cases hperm.length_eq
          | cons first later =>
            cases later with
            | nil => cases hperm.length_eq
            | cons second later => rfl
    · intro hbeside
      rw [classifyCancels_perm hperm hbeside]
      simp only [hperm.length_eq, ← List.length_eq_zero_iff]

theorem classifyResponse_withStatuses {statuses permuted : List Json}
    (hperm : statuses.Perm permuted)
    (hstatuses : (response.field "data").bind (Json.field "statuses") = some (.array statuses))
    (hbeside : response.text "type" = some "cancel" → ¬ExpiredBesideUnknown statuses) :
    classifyResponse (mapField "data" (mapField "statuses" fun _ => .array permuted) response) =
      classifyResponse response := by
  obtain ⟨data, hdata, hfield⟩ := Option.bind_eq_some_iff.mp hstatuses
  obtain ⟨horder, hcancel⟩ := classifyStatuses_perm hperm hfield
  unfold classifyResponse
  rw [text_mapField_of_ne (by decide), plainObject_mapField, field_mapField_self, hdata]
  cases plainObject response with
  | none => rfl
  | some fields =>
    cases htype : response.text "type" with
    | none => rfl
    | some type =>
      simp only [Option.map_some, Option.getD_some, exactRequestKeys_mapField, horder]
      by_cases hcancels : type = "cancel"
      · rw [hcancel (hbeside (hcancels ▸ htype))]
      · simp only [if_neg hcancels]

theorem classifyExchangeResponse_withStatuses {statuses permuted : List Json}
    (hbeside : ¬ExpiresBesideUnknown value) (hstatuses : statusesOf value = some statuses)
    (hperm : statuses.Perm permuted) :
    classifyExchangeResponse (withStatuses permuted value) = classifyExchangeResponse value := by
  have hfield : ((value.field "response").bind (Json.field "data")).bind
      (Json.field "statuses") = some (.array statuses) := by
    unfold statusesOf at hstatuses
    split at hstatuses
    · rename_i hfield
      cases hstatuses
      exact hfield
    · cases hstatuses
  rw [Option.bind_assoc] at hfield
  obtain ⟨response, hresponse, hdata⟩ := Option.bind_eq_some_iff.mp hfield
  have hok := classifyResponse_withStatuses hperm hdata fun htype hboth =>
    hbeside ⟨by rw [hresponse, Option.bind_some, htype], statuses, hstatuses, hboth⟩
  have herr : classifyError (mapField "data"
      (mapField "statuses" fun _ => .array permuted) response) = classifyError response := by
    cases response with
    | string _ => cases hdata
    | _ => rfl
  unfold classifyExchangeResponse withStatuses
  rw [text_mapField_of_ne (by decide), plainObject_mapField, field_mapField_self, hresponse]
  cases plainObject value with
  | none => rfl
  | some fields =>
    simp only [Option.map_some, Option.getD_some, exactRequestKeys_mapField, hok, herr]

end

/-- **A resolved response is a documented one**, an unknown status leaves it unresolved
and the order of its statuses does not matter, where no cancellation's known expiry
stands beside a status of no documented form. -/
theorem classification_strict {value : Json} (hbeside : ¬ExpiresBesideUnknown value) :
    ClassifiedStrictly value where
  documented := exchangeResponse_of_classify hbeside
  unknown statuses hstatuses := by
    rintro ⟨status, hmem, hstatus⟩
    by_contra h
    have hdocumented := exchangeResponse_of_classify hbeside h
    exact hstatus (hdocumented.documentedStatus hstatuses status hmem)
  permuted _ hstatuses _ hperm :=
    classifyExchangeResponse_withStatuses hbeside hstatuses hperm

def okResponse (response : List (String × Json)) : Json :=
  .object [("status", .string "ok"), ("response", .object response)]

def cancelResponse (statuses : List Json) : Json :=
  okResponse [("type", .string "cancel"), ("data", .object [("statuses", .array statuses)])]

/-- The second of two cancellations failed, and the third status is none at all. -/
theorem classification_strict_canceled :
    let failed := Json.object [("error", .string "Order was never placed")]
    ClassifiedStrictly (cancelResponse [.string "success", failed, .null]) ∧
      classifyExchangeResponse (cancelResponse [.string "success", failed]) =
        .rejected .providerRejected := by
  refine ⟨classification_strict ?_, by decide⟩
  rintro ⟨-, statuses, hstatuses, ⟨status, hmem, message, hknown, hstatus⟩, -⟩
  obtain rfl : [_, _, _] = statuses := Json.array.inj (Option.some.inj
    (congrArg (Option.map Json.array) hstatuses))
  rw [hstatus] at hmem
  simp only [List.mem_cons, List.not_mem_nil, reduceCtorEq, false_or, or_false,
    Json.object.injEq, List.cons.injEq, Prod.mk.injEq, Json.string.injEq, true_and,
    and_true] at hmem
  subst hmem
  revert hknown
  decide

/-- The type of the documented response to an action, and the number of its statuses. -/
def expectedStatuses : ExchangeAction → Option (String × ℕ)
  | .order orders _ => some ("order", orders.length)
  | .cancel cancels => some ("cancel", cancels.length)
  | .cancelByCloid cancels => some ("cancel", cancels.length)
  | .modify _ _ => none
  | .updateLeverage _ _ _ => none

def AnswersAction (action : ExchangeAction) (value : Json) : Prop :=
  ExchangeResponse value ∧
    (value.text "status" = some "ok" → ∀ expected ∈ expectedStatuses action,
      (value.field "response").bind (Json.text "type") = some expected.1 ∧
        (statusesOf value).map List.length = some expected.2)

/-- A cancellation is accepted on the response of no cancellation, and an expiry hides
what stands behind it. -/
theorem classification_not_strict :
    let expiry := Json.object [("error", .string "Order has expired")]
    classifyExchangeResponse (okResponse [("type", .string "default")]) = .accepted [] ∧
      classifyExchangeResponse (cancelResponse [expiry, .null]) = .expired ∧
      classifyExchangeResponse (cancelResponse [.null, expiry]) = malformedResponse ∧
      ¬ ∀ (action : ExchangeAction) (value : Json), ClassifiedStrictly value ∧
        (classifyExchangeResponse value ≠ malformedResponse → AnswersAction action value) := by
  refine ⟨by decide, by decide, by decide, fun h => ?_⟩
  obtain ⟨-, hanswers⟩ := h (.cancel [⟨3, 77⟩]) (okResponse [("type", .string "default")])
  have hcancel := (hanswers (by decide)).2 (by decide) ("cancel", 1) rfl
  revert hcancel
  decide

end HyperTrader
