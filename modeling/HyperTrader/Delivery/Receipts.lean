import HyperTrader.Delivery.Dispatch
import HyperTrader.Library.Json
import HyperTrader.Library.Machine
import Mathlib.Data.List.Sort

/-!
# Receipts

The receipt worker claims a batch of tickets and asks the provider for all of their
receipts at once. The receipts of an answer are parsed in one loop before any result is
stored, so a receipt that is not well formed defers the whole batch: what is stored of a
ticket depends on whether the receipts of the others are well formed
(`receipt_isolated_iff`), and on nothing else of them.
-/

namespace HyperTrader

open Library

namespace Delivery

/-! ### The provider's answer -/

def isRecord : Json → Bool
  | .object _ => true
  | _ => false

def exactRecord (value : Json) (required optional : List String) : Bool :=
  match value with
  | .object fields =>
    (required.all fun key => fields.any fun entry => entry.1 == key) &&
      fields.all fun entry => (required ++ optional).contains entry.1
  | _ => false

def individualError (details : Option Json) : RejectionCode :=
  let error := details.bind (·.text "error")
  if error == some "DeviceNotRegistered" then .deviceNotRegistered
  else if error == some "MessageTooBig" then .messageTooBig
  else if error == some "MessageRateExceeded" then .messageRateExceeded
  else if error == some "MismatchSenderId" then .mismatchSenderId
  else if error == some "InvalidCredentials" then .invalidCredentials
  else .providerProtocolError

/-- `parseReceipt`, which is none where it throws; only a record has a status. -/
def parseReceipt (value : Json) : Option ReceiptResult :=
  if value.text "status" == some "ok" then
    if exactRecord value ["status"] [] then some .delivered else none
  else if value.text "status" == some "error" then
    if exactRecord value ["status"] ["message", "details"] then
      some (.failed (individualError (value.field "details")))
    else none
  else none

/-- What every object has without it being written; none of it is a receipt. -/
def objectPrototypeKeys : List String :=
  ["__proto__", "__defineGetter__", "__defineSetter__", "__lookupGetter__",
    "__lookupSetter__", "constructor", "hasOwnProperty", "isPrototypeOf",
    "propertyIsEnumerable", "toLocaleString", "toString", "valueOf"]

/-- The result for a ticket: `some none` where it is pending, and none where the receipt
is not well formed. -/
def readReceipt (data : Json) (ticketId : String) : Option (Option ReceiptResult) :=
  match data.field ticketId with
  | some receipt => (parseReceipt receipt).map some
  | none => if ticketId ∈ objectPrototypeKeys then none else some none

/-- A response of the provider; `body` is what its bytes denote, where they are JSON in
UTF-8. -/
structure ProviderResponse where
  ok : Bool
  byteLength : ℕ
  body : Option Json

def ProviderResponse.data (response : ProviderResponse) : Option Json :=
  if response.ok && decide (response.byteLength ≤ 64 * 1024) then
    response.body.bind fun body =>
      if exactRecord body ["data"] ["errors"] then (body.field "data").filter isRecord
      else none
  else none

def readReceipts (data : Json) : List String → Option (List (String × Option ReceiptResult))
  | [] => some []
  | ticketId :: ticketIds =>
    match readReceipt data ticketId with
    | none => none
    | some result => (readReceipts data ticketIds).map fun results =>
      (ticketId, result) :: results

/-- `getReceipts`, which is none where it throws; a request that fails has no response. -/
def getReceipts (ticketIds : List String) (response : Option ProviderResponse) :
    Option (List (String × Option ReceiptResult)) :=
  if decide (ticketIds.length < 1) || decide (expoReceiptBatchSize < ticketIds.length) ||
      (ticketIds.any fun ticketId => !ticketIdPattern.test ticketId) ||
      !decide ticketIds.Nodup then none
  else (response.bind ProviderResponse.data).bind fun data => readReceipts data ticketIds

/-! ### The tables -/

structure ReceiptRow where
  providerTicketId : String
  status : ReceiptState

/-- The tickets and their receipts, with `PRIMARY KEY (provider_ticket_id)` and the check
that `recordProviderAccepted` makes of a ticket. -/
structure ReceiptTables where
  delivery : DeliveryStore
  receipts : List ReceiptRow
  ids : (delivery.tickets.map (·.providerTicketId)).Nodup
  patterns : ∀ ticketId ∈ delivery.tickets.map (·.providerTicketId),
    ticketIdPattern.test ticketId = true

namespace DeliveryStore

variable (store : DeliveryStore)

theorem ticketIds_setTickets {f : ℕ → TicketRow → TicketRow}
    (hf : ∀ i ticket, (f i ticket).providerTicketId = ticket.providerTicketId) :
    (store.setTickets f).tickets.map (·.providerTicketId) =
      store.tickets.map (·.providerTicketId) := by
  apply List.ext_getElem?
  intro i
  rw [List.getElem?_map, List.getElem?_map]
  change ((store.tickets.mapIdx f)[i]?).map _ = _
  rw [List.getElem?_mapIdx, Option.map_map]
  congr 1
  funext ticket
  exact hf i ticket

theorem ticketIds_recoverExpiredReceiptLeases (now : ℤ) (rows : List ℕ) :
    (store.recoverExpiredReceiptLeases now rows).tickets.map (·.providerTicketId) =
      store.tickets.map (·.providerTicketId) := by
  refine store.ticketIds_setTickets fun i ticket => ?_
  split <;> rfl

theorem ticketIds_claimDueReceipts (workerId : String) (now : ℤ) (rows : List ℕ) :
    (store.claimDueReceipts workerId now rows).tickets.map (·.providerTicketId) =
      store.tickets.map (·.providerTicketId) := by
  refine store.ticketIds_setTickets fun i ticket => ?_
  split <;> rfl

theorem tickets_completeReceipt {ticketId workerId : String} {now : ℤ} {ticket : TicketRow}
    (hleased : store.leasedTicket ticketId workerId now = some ticket) (result : ReceiptResult) :
    (store.completeReceipt ticketId workerId now result).tickets = (store.setTickets fun _ ticket =>
        if leasedTo ticketId workerId now ticket then
          { ticket with receiptState := status result, receiptLease := none }
        else ticket).tickets := by
  unfold completeReceipt
  rw [hleased]
  dsimp only
  split <;> rfl

theorem ticketIds_completeReceipt (ticketId workerId : String) (now : ℤ) (result : ReceiptResult) :
    (store.completeReceipt ticketId workerId now result).tickets.map (·.providerTicketId) =
      store.tickets.map (·.providerTicketId) := by
  cases hleased : store.leasedTicket ticketId workerId now with
  | none =>
    unfold completeReceipt
    rw [hleased]
  | some ticket =>
    rw [store.tickets_completeReceipt hleased]
    refine store.ticketIds_setTickets fun i ticket => ?_
    split <;> rfl

theorem ticketIds_deferReceipt (ticketId workerId : String) (now : ℤ) :
    (store.deferReceipt ticketId workerId now).tickets.map (·.providerTicketId) =
      store.tickets.map (·.providerTicketId) := by
  refine store.ticketIds_setTickets fun i ticket => ?_
  split
  · split <;> rfl
  · rfl

end DeliveryStore

namespace ReceiptTables

variable (tables : ReceiptTables)

def commit (delivery : DeliveryStore) (receipts : List ReceiptRow)
    (h : delivery.tickets.map (·.providerTicketId) =
      tables.delivery.tickets.map (·.providerTicketId)) : ReceiptTables where
  delivery := delivery
  receipts := receipts
  ids := h ▸ tables.ids
  patterns := h ▸ tables.patterns

def completeReceipt (ticketId workerId : String) (now : ℤ) (result : ReceiptResult) :
    ReceiptTables :=
  match tables.delivery.leasedTicket ticketId workerId now with
  | none => tables
  | some _ =>
    tables.commit (tables.delivery.completeReceipt ticketId workerId now result)
      (tables.receipts ++ [⟨ticketId, DeliveryStore.status result⟩])
      (tables.delivery.ticketIds_completeReceipt ticketId workerId now result)

def deferReceipt (ticketId workerId : String) (now : ℤ) : ReceiptTables :=
  match tables.delivery.leasedTicket ticketId workerId now with
  | none => tables
  | some ticket =>
    tables.commit (tables.delivery.deferReceipt ticketId workerId now)
      (if maxReceiptAttempts ≤ ticket.receiptAttempts + 1 then
        tables.receipts ++ [⟨ticketId, .unknown⟩] else tables.receipts)
      (tables.delivery.ticketIds_deferReceipt ticketId workerId now)

/-! ### The worker -/

def dueTicket (now : ℤ) (ticket : TicketRow) : Bool :=
  ticket.receiptState == .pending && decide (ticket.receiptAttempts < maxReceiptAttempts) &&
    decide (ticket.nextReceiptAt ≤ now) && ticket.receiptLease == none

def dueRows (now : ℤ) (rows : List ℕ) (limit : ℕ) : List ℕ :=
  (rows.filter fun j => (tables.delivery.tickets[j]?).any (dueTicket now)).take limit

def ticketsIn (rows : List ℕ) : List String :=
  rows.filterMap fun j => (tables.delivery.tickets[j]?).map (·.providerTicketId)

end ReceiptTables

structure ReceiptWorker where
  workerId : String
  batchSize : ℕ
  least : 1 ≤ batchSize
  most : batchSize ≤ expoReceiptBatchSize

/-- What a run meets: the rows that no one has locked, in their order, and the time at which
the transaction of each ticket reads the clock. -/
structure ReceiptRun where
  recoverableRows : List ℕ
  now : ℤ
  rows : List ℕ
  distinct : rows.Nodup
  clock : String → ℤ

namespace ReceiptWorker

variable (worker : ReceiptWorker) (tables : ReceiptTables) (run : ReceiptRun)

def recovered : ReceiptTables :=
  tables.commit (tables.delivery.recoverExpiredReceiptLeases run.now run.recoverableRows)
    tables.receipts
    (tables.delivery.ticketIds_recoverExpiredReceiptLeases run.now run.recoverableRows)

def claimedRows : List ℕ :=
  (recovered tables run).dueRows run.now run.rows worker.batchSize

def claimed : ReceiptTables :=
  (recovered tables run).commit
    ((recovered tables run).delivery.claimDueReceipts worker.workerId run.now
      (worker.claimedRows tables run))
    tables.receipts
    ((recovered tables run).delivery.ticketIds_claimDueReceipts worker.workerId run.now
      (worker.claimedRows tables run))

def claimedTickets : List String :=
  (recovered tables run).ticketsIn (worker.claimedRows tables run)

def settle (results : Option (List (String × Option ReceiptResult))) (clock : String → ℤ)
    (tables : ReceiptTables) (ticketId : String) : ReceiptTables :=
  match results.bind fun results => results.find? fun entry => entry.1 == ticketId with
  | some (_, some result) =>
    tables.completeReceipt ticketId worker.workerId (clock ticketId) result
  | _ => tables.deferReceipt ticketId worker.workerId (clock ticketId)

def settled (place : String → ℕ) : List String :=
  (worker.claimedTickets tables run).insertionSort fun first second =>
    place first ≤ place second

def runOnce (place : String → ℕ) (response : Option ProviderResponse) : ReceiptTables :=
  Library.run
    (worker.settle (getReceipts (worker.claimedTickets tables run) response) run.clock)
    (worker.claimed tables run) (worker.settled tables run place)

end ReceiptWorker

/-! ### What is stored of one ticket -/

def ReceiptTables.stored (tables : ReceiptTables) (ticketId : String) :
    Option TicketRow × List ReceiptState :=
  (tables.delivery.tickets.find? fun ticket => ticket.providerTicketId == ticketId,
    (tables.receipts.filter fun row => row.providerTicketId == ticketId).map (·.status))

def completedStored (ticketId workerId : String) (now : ℤ) (result : ReceiptResult) :
    Option TicketRow × List ReceiptState → Option TicketRow × List ReceiptState
  | (none, statuses) => (none, statuses)
  | (some ticket, statuses) =>
    if DeliveryStore.leasedTo ticketId workerId now ticket then
      (some { ticket with receiptState := DeliveryStore.status result, receiptLease := none },
        statuses ++ [DeliveryStore.status result])
    else (some ticket, statuses)

def deferredStored (ticketId workerId : String) (now : ℤ) :
    Option TicketRow × List ReceiptState → Option TicketRow × List ReceiptState
  | (none, statuses) => (none, statuses)
  | (some ticket, statuses) =>
    if DeliveryStore.leasedTo ticketId workerId now ticket then
      if maxReceiptAttempts ≤ ticket.receiptAttempts + 1 then
        (some { ticket with
            receiptState := .unknown, receiptAttempts := maxReceiptAttempts,
            receiptLease := none }, statuses ++ [.unknown])
      else
        (some { ticket with
            receiptAttempts := ticket.receiptAttempts + 1,
            nextReceiptAt := now + receiptInterval * 2 ^ (ticket.receiptAttempts + 1),
            receiptLease := none }, statuses)
    else (some ticket, statuses)

variable {f : TicketRow → TicketRow} {ticketIds : List String}

theorem find?_setTickets (hf : ∀ ticket, (f ticket).providerTicketId = ticket.providerTicketId)
    (store : DeliveryStore) (ticketId : String) :
    ((store.setTickets fun _ => f).tickets.find? fun ticket =>
        ticket.providerTicketId == ticketId) =
      (store.tickets.find? fun ticket => ticket.providerTicketId == ticketId).map f := by
  have hmap : (store.setTickets fun _ => f).tickets = store.tickets.map f := by
    apply List.ext_getElem?
    intro i
    change (store.tickets.mapIdx fun _ => f)[i]? = _
    rw [List.getElem?_mapIdx, List.getElem?_map]
  rw [hmap, List.find?_map]
  congr 2
  funext ticket
  exact congrArg (· == ticketId) (hf ticket)

theorem leasedTicket_eq (tables : ReceiptTables) (ticketId workerId : String) (now : ℤ) :
    tables.delivery.leasedTicket ticketId workerId now =
      (tables.stored ticketId).1.filter (DeliveryStore.leasedTo ticketId workerId now) := by
  have hkey : ∀ ticket : TicketRow, DeliveryStore.leasedTo ticketId workerId now ticket = true →
      ticket.providerTicketId = ticketId := by
    intro ticket h
    unfold DeliveryStore.leasedTo at h
    rw [Bool.and_eq_true, Bool.and_eq_true, beq_iff_eq] at h
    exact h.1.1
  have hids := tables.ids
  unfold DeliveryStore.leasedTicket ReceiptTables.stored
  dsimp only
  generalize tables.delivery.tickets = tickets at hids ⊢
  induction tickets with
  | nil => rfl
  | cons ticket tickets ih =>
    rw [List.map_cons, List.nodup_cons] at hids
    rw [List.find?_cons, List.find?_cons]
    by_cases hticket : ticket.providerTicketId = ticketId
    · rw [beq_iff_eq.mpr hticket]
      cases hleased : DeliveryStore.leasedTo ticketId workerId now ticket with
      | true =>
        rw [Option.filter_some, if_pos hleased]
      | false =>
        rw [Option.filter_some, hleased, if_neg Bool.false_ne_true]
        refine List.find?_eq_none.mpr fun other hother hotherLeased => ?_
        refine hids.1 (List.mem_map.mpr ⟨other, hother, ?_⟩)
        rw [hkey other hotherLeased, hticket]
    · have hnot : DeliveryStore.leasedTo ticketId workerId now ticket = false := by
        rw [← Bool.not_eq_true]
        exact fun h => hticket (hkey ticket h)
      rw [hnot, beq_eq_false_iff_ne.mpr hticket]
      exact ih hids.2

theorem leasedTo_of_ne {ticketId other workerId : String} {now : ℤ} {ticket : TicketRow}
    (hne : other ≠ ticketId) (hticket : ticket.providerTicketId = ticketId) :
    DeliveryStore.leasedTo other workerId now ticket = false := by
  unfold DeliveryStore.leasedTo
  have hkey : (ticket.providerTicketId == other) = false :=
    beq_eq_false_iff_ne.mpr fun h => hne (h.symm.trans hticket)
  rw [hkey, Bool.false_and, Bool.false_and]

theorem find?_setTickets_of_ne {ticketId other workerId : String} {now : ℤ} (hne : other ≠ ticketId)
    (hf : ∀ ticket, (f ticket).providerTicketId = ticket.providerTicketId) (store : DeliveryStore) :
    ((store.setTickets fun _ ticket =>
        if DeliveryStore.leasedTo other workerId now ticket then f ticket
        else ticket).tickets.find? fun ticket => ticket.providerTicketId == ticketId) =
      store.tickets.find? fun ticket => ticket.providerTicketId == ticketId := by
  rw [find?_setTickets]
  · cases hfind : store.tickets.find? fun ticket => ticket.providerTicketId == ticketId with
    | none => rfl
    | some ticket =>
      have hticket := eq_of_beq
        (List.find?_some (p := fun ticket : TicketRow => ticket.providerTicketId == ticketId) hfind)
      rw [Option.map_some, leasedTo_of_ne hne hticket]
      rfl
  · intro ticket
    split
    · exact hf ticket
    · rfl

theorem statuses_append_of_ne {ticketId other : String} (hne : other ≠ ticketId)
    (receipts : List ReceiptRow) (status : ReceiptState) :
    ((receipts ++ [(⟨other, status⟩ : ReceiptRow)]).filter fun row =>
        row.providerTicketId == ticketId) =
      receipts.filter fun row => row.providerTicketId == ticketId := by
  rw [List.filter_append, List.filter_cons_of_neg (by simpa using hne), List.filter_nil,
    List.append_nil]

theorem statuses_append_self (ticketId : String) (receipts : List ReceiptRow)
    (status : ReceiptState) :
    (((receipts ++ [(⟨ticketId, status⟩ : ReceiptRow)]).filter fun row =>
        row.providerTicketId == ticketId).map (·.status)) =
      ((receipts.filter fun row => row.providerTicketId == ticketId).map (·.status)) ++
        [status] := by
  rw [List.filter_append, List.filter_cons_of_pos (by simp), List.filter_nil, List.map_append]
  rfl

namespace ReceiptTables

variable (tables : ReceiptTables) {ticketId other : String} (workerId : String) (now : ℤ)

theorem stored_completeReceipt_of_ne (hne : other ≠ ticketId) (result : ReceiptResult) :
    (tables.completeReceipt other workerId now result).stored ticketId =
      tables.stored ticketId := by
  unfold completeReceipt
  cases hleased : tables.delivery.leasedTicket other workerId now with
  | none => rfl
  | some ticket =>
    apply Prod.ext
    · change (tables.delivery.completeReceipt other workerId now result).tickets.find? _ = _
      rw [tables.delivery.tickets_completeReceipt hleased]
      exact find?_setTickets_of_ne hne (f := fun ticket =>
        { ticket with
          receiptState := DeliveryStore.status result, receiptLease := none })
        (fun _ => rfl) _
    · change List.map _ (List.filter _ (tables.receipts ++ [_])) = _
      rw [statuses_append_of_ne hne]
      rfl

theorem stored_deferReceipt_of_ne (hne : other ≠ ticketId) :
    (tables.deferReceipt other workerId now).stored ticketId = tables.stored ticketId := by
  unfold deferReceipt
  cases hleased : tables.delivery.leasedTicket other workerId now with
  | none => rfl
  | some ticket =>
    apply Prod.ext
    · refine find?_setTickets_of_ne hne (f := fun ticket =>
        if maxReceiptAttempts ≤ ticket.receiptAttempts + 1 then
          { ticket with
            receiptState := .unknown, receiptAttempts := maxReceiptAttempts,
            receiptLease := none } else
          { ticket with
            receiptAttempts := ticket.receiptAttempts + 1,
            nextReceiptAt := now + receiptInterval * 2 ^ (ticket.receiptAttempts + 1),
            receiptLease := none }) (fun ticket => ?_) _
      split <;> rfl
    · change List.map _ (List.filter _ (if _ then tables.receipts ++ [_] else _)) = _
      split
      · rw [statuses_append_of_ne hne]
        rfl
      · rfl

theorem stored_completeReceipt (ticketId : String) (result : ReceiptResult) :
    (tables.completeReceipt ticketId workerId now result).stored ticketId =
      completedStored ticketId workerId now result (tables.stored ticketId) := by
  have hleased := leasedTicket_eq tables ticketId workerId now
  unfold completeReceipt completedStored
  cases hrow : tables.stored ticketId with
  | mk row statuses =>
    rw [hrow] at hleased
    have hfind := congrArg Prod.fst hrow
    have hstatuses := congrArg Prod.snd hrow
    unfold stored at hfind hstatuses
    dsimp only at hfind hstatuses
    cases row with
    | none =>
      rw [hleased]
      exact hrow
    | some ticket =>
      dsimp only at hleased ⊢
      by_cases hto : DeliveryStore.leasedTo ticketId workerId now ticket = true
      · rw [Option.filter_some, if_pos hto] at hleased
        rw [hleased, if_pos hto]
        apply Prod.ext
        · change (tables.delivery.completeReceipt ticketId workerId now result).tickets.find? _ = _
          rw [tables.delivery.tickets_completeReceipt hleased, find?_setTickets, hfind,
            Option.map_some, if_pos hto]
          intro ticket
          split <;> rfl
        · change List.map _ (List.filter _ (tables.receipts ++ [_])) = _
          rw [statuses_append_self, hstatuses]
      · rw [Option.filter_some, if_neg hto] at hleased
        rw [hleased, if_neg hto]
        exact hrow

theorem stored_deferReceipt (ticketId : String) :
    (tables.deferReceipt ticketId workerId now).stored ticketId =
      deferredStored ticketId workerId now (tables.stored ticketId) := by
  have hleased := leasedTicket_eq tables ticketId workerId now
  unfold deferReceipt deferredStored
  cases hrow : tables.stored ticketId with
  | mk row statuses =>
    rw [hrow] at hleased
    have hfind := congrArg Prod.fst hrow
    have hstatuses := congrArg Prod.snd hrow
    unfold stored at hfind hstatuses
    dsimp only at hfind hstatuses
    cases row with
    | none =>
      rw [hleased]
      exact hrow
    | some ticket =>
      dsimp only at hleased ⊢
      by_cases hto : DeliveryStore.leasedTo ticketId workerId now ticket = true
      · rw [Option.filter_some, if_pos hto] at hleased
        rw [hleased, if_pos hto]
        have hticket : ((tables.delivery.deferReceipt ticketId workerId
            now).tickets.find? fun ticket => ticket.providerTicketId == ticketId) =
            some (if maxReceiptAttempts ≤ ticket.receiptAttempts + 1 then
              { ticket with
                receiptState := .unknown, receiptAttempts := maxReceiptAttempts,
                receiptLease := none } else
              { ticket with
                receiptAttempts := ticket.receiptAttempts + 1,
                nextReceiptAt := now + receiptInterval * 2 ^ (ticket.receiptAttempts + 1),
                receiptLease := none }) := by
          unfold DeliveryStore.deferReceipt
          rw [find?_setTickets, hfind, Option.map_some, if_pos hto]
          intro ticket
          split
          · split <;> rfl
          · rfl
        dsimp only
        split <;> rename_i hattempts
        · rw [if_pos hattempts] at hticket
          apply Prod.ext
          · exact hticket
          · change List.map _ (List.filter _ (tables.receipts ++ [_])) = _
            rw [statuses_append_self, hstatuses]
        · rw [if_neg hattempts] at hticket
          apply Prod.ext
          · exact hticket
          · exact hstatuses
      · rw [Option.filter_some, if_neg hto] at hleased
        rw [hleased, if_neg hto]
        exact hrow

end ReceiptTables

/-! ### What the worker reads -/

theorem readReceipts_isSome {data : Json} :
    (readReceipts data ticketIds).isSome ↔
      ∀ ticketId ∈ ticketIds, (readReceipt data ticketId).isSome := by
  induction ticketIds with
  | nil => simp [readReceipts]
  | cons ticketId ticketIds ih =>
    rw [List.forall_mem_cons, ← ih, readReceipts]
    cases readReceipt data ticketId with
    | none => simp
    | some result => simp

theorem find?_readReceipts {data : Json} {results : List (String × Option ReceiptResult)}
    (h : readReceipts data ticketIds = some results) {ticketId : String}
    (hmem : ticketId ∈ ticketIds) :
    ∃ result, readReceipt data ticketId = some result ∧
      (results.find? fun entry => entry.1 == ticketId) = some (ticketId, result) := by
  induction ticketIds generalizing results with
  | nil => cases hmem
  | cons other ticketIds ih =>
    rw [readReceipts] at h
    cases hread : readReceipt data other with
    | none =>
      rw [hread] at h
      cases h
    | some result =>
      rw [hread] at h
      obtain ⟨rest, hrest, rfl⟩ := Option.map_eq_some_iff.mp h
      rw [List.find?_cons]
      by_cases hother : other = ticketId
      · subst hother
        rw [beq_self_eq_true]
        exact ⟨result, hread, rfl⟩
      · rw [beq_eq_false_iff_ne.mpr hother]
        have hrestMem := (List.mem_cons.mp hmem).resolve_left (Ne.symm hother)
        exact ih hrest hrestMem

namespace ReceiptWorker

variable {worker : ReceiptWorker} {tables : ReceiptTables} {run : ReceiptRun}
  {ticketId : String}

theorem exists_claimed (h : ticketId ∈ worker.claimedTickets tables run) :
    ∃ j ticket, j ∈ worker.claimedRows tables run ∧
      (recovered tables run).delivery.tickets[j]? = some ticket ∧
      ReceiptTables.dueTicket run.now ticket = true ∧ ticket.providerTicketId = ticketId := by
  obtain ⟨j, hj, hticket⟩ := List.mem_filterMap.mp h
  obtain ⟨ticket, hrow, hid⟩ := Option.map_eq_some_iff.mp hticket
  have hdue := (List.mem_filter.mp (List.mem_of_mem_take hj)).2
  rw [hrow, Option.any_some] at hdue
  exact ⟨j, ticket, hj, hrow, hdue, hid⟩

theorem claimedTickets_nodup : (worker.claimedTickets tables run).Nodup := by
  refine List.Nodup.filterMap ?_ ((run.distinct.filter _).sublist (List.take_sublist _ _))
  intro j k id hj hk
  rw [Option.mem_def, ← List.getElem?_map] at hj hk
  have hlt := (List.getElem?_eq_some_iff.mp hj).1
  exact (List.getElem?_inj hlt (recovered tables run).ids).mp (hj.trans hk.symm)

theorem getReceipts_claimedTickets (h : ticketId ∈ worker.claimedTickets tables run)
    (response : Option ProviderResponse) :
    getReceipts (worker.claimedTickets tables run) response =
      (response.bind ProviderResponse.data).bind fun data =>
        readReceipts data (worker.claimedTickets tables run) := by
  have hleast : 1 ≤ (worker.claimedTickets tables run).length := List.length_pos_of_mem h
  have hmost : (worker.claimedTickets tables run).length ≤ expoReceiptBatchSize := by
    have hrows : (worker.claimedRows tables run).length ≤ worker.batchSize :=
      List.length_take_le _ _
    exact ((List.length_filterMap_le _ _).trans hrows).trans worker.most
  have hpatterns : ((worker.claimedTickets tables run).any fun ticketId =>
      !ticketIdPattern.test ticketId) = false := by
    rw [List.any_eq_false]
    intro id hid
    obtain ⟨j, ticket, -, hrow, -, rfl⟩ := exists_claimed hid
    have hpattern := (recovered tables run).patterns _
      (List.mem_map_of_mem (List.mem_of_getElem? hrow))
    rw [hpattern]
    exact Bool.false_ne_true
  unfold getReceipts
  rw [hpatterns, decide_eq_false (Nat.not_lt.mpr hleast),
    decide_eq_false (Nat.not_lt.mpr hmost), decide_eq_true claimedTickets_nodup]
  rfl

theorem find?_of_getElem? {tables : ReceiptTables} {j : ℕ} {ticket : TicketRow}
    (h : tables.delivery.tickets[j]? = some ticket) :
    (tables.delivery.tickets.find? fun other =>
      other.providerTicketId == ticket.providerTicketId) = some ticket := by
  have hmem := List.mem_of_getElem? h
  cases hfind : tables.delivery.tickets.find? fun other =>
      other.providerTicketId == ticket.providerTicketId with
  | none =>
    have hnone := List.find?_eq_none.mp hfind ticket hmem
    exact absurd (beq_self_eq_true _) hnone
  | some found =>
    have hkey := eq_of_beq (List.find?_some (p := fun other : TicketRow =>
      other.providerTicketId == ticket.providerTicketId) hfind)
    exact congrArg some (List.inj_on_of_nodup_map tables.ids
      (List.mem_of_find?_eq_some hfind) hmem hkey)

theorem stored_claimed (h : ticketId ∈ worker.claimedTickets tables run) :
    ∃ (ticket : TicketRow) (statuses : List ReceiptState),
      (worker.claimed tables run).stored ticketId =
        (some { ticket with
          receiptLease := some (worker.workerId, run.now + receiptLeaseInterval) }, statuses) ∧
      ticket.providerTicketId = ticketId ∧ ticket.receiptState = .pending := by
  obtain ⟨j, ticket, hj, hrow, hdue, rfl⟩ := exists_claimed h
  unfold ReceiptTables.dueTicket at hdue
  simp only [Bool.and_eq_true, beq_iff_eq, decide_eq_true_iff] at hdue
  obtain ⟨⟨⟨hpending, hattempts⟩, hnext⟩, hlease⟩ := hdue
  have hclaimed : (worker.claimed tables run).delivery.tickets[j]? =
      some { ticket with
        receiptLease := some (worker.workerId, run.now + receiptLeaseInterval) } := by
    change (List.mapIdx _ (recovered tables run).delivery.tickets)[j]? = _
    rw [List.getElem?_mapIdx, hrow, Option.map_some, if_pos ⟨hj, hpending, hattempts, hnext,
      hlease⟩]
  exact ⟨ticket, _, Prod.ext (find?_of_getElem? hclaimed) rfl, rfl, hpending⟩

def settledStored (workerId ticketId : String) (now : ℤ) :
    Option ReceiptResult →
      Option TicketRow × List ReceiptState → Option TicketRow × List ReceiptState
  | some result => completedStored ticketId workerId now result
  | none => deferredStored ticketId workerId now

def resultOf (results : Option (List (String × Option ReceiptResult))) (ticketId : String) :
    Option ReceiptResult :=
  (results.bind fun results => results.find? fun entry => entry.1 == ticketId).bind Prod.snd

theorem stored_settle (results : Option (List (String × Option ReceiptResult)))
    (clock : String → ℤ) (tables : ReceiptTables) :
    (worker.settle results clock tables ticketId).stored ticketId =
      settledStored worker.workerId ticketId (clock ticketId) (resultOf results ticketId)
        (tables.stored ticketId) := by
  unfold settle resultOf
  cases results.bind fun results => results.find? fun entry => entry.1 == ticketId with
  | none => exact tables.stored_deferReceipt _ _ _
  | some entry =>
    obtain ⟨id, result⟩ := entry
    cases result with
    | none => exact tables.stored_deferReceipt _ _ _
    | some result => exact tables.stored_completeReceipt _ _ _ _

theorem stored_settle_of_ne (results : Option (List (String × Option ReceiptResult)))
    (clock : String → ℤ) (tables : ReceiptTables) {other : String} (hne : other ≠ ticketId) :
    (worker.settle results clock tables other).stored ticketId = tables.stored ticketId := by
  unfold settle
  cases results.bind fun results => results.find? fun entry => entry.1 == other with
  | none => exact tables.stored_deferReceipt_of_ne _ _ hne
  | some entry =>
    obtain ⟨id, result⟩ := entry
    cases result with
    | none => exact tables.stored_deferReceipt_of_ne _ _ hne
    | some result => exact tables.stored_completeReceipt_of_ne _ _ hne _

theorem stored_runOnce (h : ticketId ∈ worker.claimedTickets tables run) (place : String → ℕ)
    (response : Option ProviderResponse) :
    (worker.runOnce tables run place response).stored ticketId =
      settledStored worker.workerId ticketId (run.clock ticketId)
        (resultOf (getReceipts (worker.claimedTickets tables run) response) ticketId)
        ((worker.claimed tables run).stored ticketId) := by
  have hperm := List.perm_insertionSort (fun first second => place first ≤ place second)
    (worker.claimedTickets tables run)
  have hrun := @view_run_of_isolated ReceiptTables String _
    (worker.settle (getReceipts (worker.claimedTickets tables run) response) run.clock)
    (fun id tables => tables.stored id)
    (fun tables id other hne => stored_settle_of_ne _ _ tables hne)
    (fun first second id hsame => by rw [stored_settle, stored_settle, hsame])
    (worker.claimed tables run) ticketId (worker.settled tables run place)
    (hperm.nodup_iff.mpr claimedTickets_nodup) (hperm.mem_iff.mpr h)
  exact hrun.trans (stored_settle _ _ _)

/-! ### Isolation -/

def outcomeOf (stored : Option TicketRow × List ReceiptState) :
    Option (ReceiptState × ℕ) × List ReceiptState :=
  (stored.1.map fun ticket => (ticket.receiptState, ticket.receiptAttempts), stored.2)

def WellFormed (worker : ReceiptWorker) (tables : ReceiptTables) (run : ReceiptRun)
    (data : Json) : Prop :=
  ∀ ticketId ∈ worker.claimedTickets tables run, (readReceipt data ticketId).isSome

variable {response : ProviderResponse}

theorem resultOf_getReceipts (h : ticketId ∈ worker.claimedTickets tables run)
    {data : Json} (hdata : response.data = some data) (hread : WellFormed worker tables run data) :
    ∃ result, readReceipt data ticketId = some result ∧
      resultOf (getReceipts (worker.claimedTickets tables run) (some response)) ticketId =
        result := by
  obtain ⟨results, hresults⟩ := Option.isSome_iff_exists.mp (readReceipts_isSome.mpr hread)
  obtain ⟨result, hresult, hfind⟩ := find?_readReceipts hresults h
  refine ⟨result, hresult, ?_⟩
  rw [getReceipts_claimedTickets h]
  unfold resultOf
  rw [Option.bind_some, hdata, Option.bind_some, hresults, Option.bind_some, hfind,
    Option.bind_some]

theorem resultOf_getReceipts_of_not (h : ticketId ∈ worker.claimedTickets tables run)
    {data : Json} (hdata : response.data = some data)
    (hread : ¬ WellFormed worker tables run data) :
    resultOf (getReceipts (worker.claimedTickets tables run) (some response)) ticketId = none := by
  have hnone : readReceipts data (worker.claimedTickets tables run) = none := by
    rw [← Option.not_isSome_iff_eq_none, readReceipts_isSome]
    exact hread
  rw [getReceipts_claimedTickets h]
  unfold resultOf
  rw [Option.bind_some, hdata, Option.bind_some, hnone]
  rfl

theorem outcomeOf_completed_eq_deferred_iff (h : ticketId ∈ worker.claimedTickets tables run)
    (now : ℤ) (result : ReceiptResult) :
    outcomeOf (settledStored worker.workerId ticketId now (some result)
        ((worker.claimed tables run).stored ticketId)) =
      outcomeOf (settledStored worker.workerId ticketId now none
        ((worker.claimed tables run).stored ticketId)) ↔
      run.now + receiptLeaseInterval ≤ now := by
  obtain ⟨ticket, statuses, hstored, hid, hpending⟩ := stored_claimed h
  rw [hstored]
  unfold settledStored completedStored deferredStored
  dsimp only
  have hleased : DeliveryStore.leasedTo ticketId worker.workerId now
      { ticket with
        receiptLease := some (worker.workerId, run.now + receiptLeaseInterval) } =
        decide (now < run.now + receiptLeaseInterval) := by
    unfold DeliveryStore.leasedTo
    dsimp only
    rw [hid, hpending, Option.any_some, beq_self_eq_true, beq_self_eq_true, beq_self_eq_true]
    rfl
  rw [hleased]
  by_cases hlease : now < run.now + receiptLeaseInterval
  · rw [if_pos (decide_eq_true hlease), if_pos (decide_eq_true hlease)]
    constructor
    · intro heq
      -- The status of a result is neither `unknown` nor `pending`.
      have hstate := congrArg (fun outcome => outcome.1.map Prod.fst) heq
      split at hstate <;> cases result <;> simp [outcomeOf, DeliveryStore.status, hpending]
        at hstate
    · intro hover
      exact absurd hlease (Int.not_lt.mpr hover)
  · rw [if_neg (by simpa using hlease), if_neg (by simpa using hlease)]
    exact iff_of_true rfl (Int.not_lt.mp hlease)

/-- Two successful answers that agree on a ticket leave the same of it exactly if they agree
on whether the whole batch is well formed, unless its receipt is absent or its lease over. -/
theorem receipt_isolated_iff (worker : ReceiptWorker) (tables : ReceiptTables)
    (run : ReceiptRun) (firstPlace secondPlace : String → ℕ)
    (first second : ProviderResponse) (firstData secondData : Json) (ticketId : String)
    (hclaimed : ticketId ∈ worker.claimedTickets tables run)
    (hfirst : first.data = some firstData) (hsecond : second.data = some secondData)
    (hagree : firstData.field ticketId = secondData.field ticketId) :
    outcomeOf ((worker.runOnce tables run firstPlace (some first)).stored ticketId) =
        outcomeOf ((worker.runOnce tables run secondPlace (some second)).stored ticketId) ↔
      ∀ result, readReceipt firstData ticketId = some (some result) →
        run.clock ticketId < run.now + receiptLeaseInterval →
          (WellFormed worker tables run firstData ↔ WellFormed worker tables run secondData) := by
  have hsame : readReceipt secondData ticketId = readReceipt firstData ticketId := by
    unfold readReceipt
    rw [hagree]
  rw [stored_runOnce hclaimed, stored_runOnce hclaimed]
  by_cases hwell : WellFormed worker tables run firstData
  · obtain ⟨result, hresult, hsettled⟩ := resultOf_getReceipts hclaimed hfirst hwell
    rw [hsettled, hresult]
    by_cases hwell' : WellFormed worker tables run secondData
    · obtain ⟨result', hresult', hsettled'⟩ := resultOf_getReceipts hclaimed hsecond hwell'
      obtain rfl := Option.some.inj (hresult'.symm.trans (hsame.trans hresult))
      rw [hsettled']
      exact iff_of_true rfl fun _ _ _ => iff_of_true hwell hwell'
    · rw [resultOf_getReceipts_of_not hclaimed hsecond hwell']
      cases result with
      | none => exact iff_of_true rfl fun _ h => by cases h
      | some result =>
        rw [outcomeOf_completed_eq_deferred_iff hclaimed]
        constructor
        · intro hover other _ hlease
          exact absurd hlease (Int.not_lt.mpr hover)
        · intro h
          by_contra hover
          exact hwell' ((h result rfl (Int.not_le.mp hover)).mp hwell)
  · rw [resultOf_getReceipts_of_not hclaimed hfirst hwell]
    by_cases hwell' : WellFormed worker tables run secondData
    · obtain ⟨result, hresult, hsettled⟩ := resultOf_getReceipts hclaimed hsecond hwell'
      rw [hsettled, ← hsame, hresult]
      cases result with
      | none => exact iff_of_true rfl fun _ h => by cases h
      | some result =>
        rw [eq_comm, outcomeOf_completed_eq_deferred_iff hclaimed]
        constructor
        · intro hover other _ hlease
          exact absurd hlease (Int.not_lt.mpr hover)
        · intro h
          by_contra hover
          exact hwell ((h result rfl (Int.not_le.mp hover)).mpr hwell')
    · rw [resultOf_getReceipts_of_not hclaimed hsecond hwell']
      exact iff_of_true rfl fun _ _ _ => iff_of_false hwell hwell'

def okReceipt : Json := .object [("status", .string "ok")]

def errorReceipt : Json :=
  .object [("status", .string "error"),
    ("details", .object [("error", .string "DeviceNotRegistered")])]

def receiptAnswer (first second : Json) : ProviderResponse :=
  ⟨true, 100, some (.object [("data", .object [("a", first), ("b", second)])])⟩

def twoDue : List TicketRow :=
  [⟨"a", 0, "token", .pending, 0, 0, none⟩, ⟨"b", 1, "token", .pending, 0, 0, none⟩]

theorem nodup_twoDue : (twoDue.map (·.providerTicketId)).Nodup := by decide

theorem patterns_twoDue : ∀ ticketId ∈ twoDue.map (·.providerTicketId),
    ticketIdPattern.test ticketId = true := by decide

def dueTables : ReceiptTables where
  delivery := ⟨⟨[], List.nodup_nil, List.nodup_nil⟩, [], [], twoDue⟩
  receipts := []
  ids := nodup_twoDue
  patterns := patterns_twoDue

def pairWorker : ReceiptWorker :=
  ⟨"worker", 2, Nat.le_succ 1, Nat.le_of_ble_eq_true rfl⟩

theorem nodup_pair : [0, 1].Nodup := by decide

def pairRun : ReceiptRun where
  recoverableRows := []
  now := 0
  rows := [0, 1]
  distinct := nodup_pair
  clock _ := 0

theorem receipt_isolated_errorReceipt :
    outcomeOf ((pairWorker.runOnce dueTables pairRun (fun _ => 0)
        (some (receiptAnswer okReceipt okReceipt))).stored "a") =
      outcomeOf ((pairWorker.runOnce dueTables pairRun (fun _ => 0)
        (some (receiptAnswer okReceipt errorReceipt))).stored "a") := by
  have hfirst : ∀ ticketId ∈ pairWorker.claimedTickets dueTables pairRun, (readReceipt
      (.object [("a", okReceipt), ("b", okReceipt)]) ticketId).isSome := by decide
  have hsecond : ∀ ticketId ∈ pairWorker.claimedTickets dueTables pairRun, (readReceipt
      (.object [("a", okReceipt), ("b", errorReceipt)]) ticketId).isSome := by decide
  exact (receipt_isolated_iff pairWorker dueTables pairRun (fun _ => 0) (fun _ => 0)
    (receiptAnswer okReceipt okReceipt) (receiptAnswer okReceipt errorReceipt)
    (.object [("a", okReceipt), ("b", okReceipt)])
    (.object [("a", okReceipt), ("b", errorReceipt)]) "a" (by decide) rfl rfl rfl).mpr
    fun _ _ _ => iff_of_true hfirst hsecond

/-- The second receipt is `null`, and the first ticket, which is delivered, is deferred. -/
theorem receipt_not_isolated : ¬ ∀ (worker : ReceiptWorker) (tables : ReceiptTables)
    (run : ReceiptRun) (firstPlace secondPlace : String → ℕ)
    (first second : ProviderResponse) (firstData secondData : Json) (ticketId : String),
    ticketId ∈ worker.claimedTickets tables run →
      first.data = some firstData → second.data = some secondData →
        firstData.field ticketId = secondData.field ticketId →
          outcomeOf ((worker.runOnce tables run firstPlace (some first)).stored ticketId) =
            outcomeOf ((worker.runOnce tables run secondPlace (some second)).stored ticketId) := by
  intro h
  have hequal := h pairWorker dueTables pairRun (fun _ => 0) (fun _ => 0)
    (receiptAnswer okReceipt okReceipt) (receiptAnswer okReceipt .null)
    (.object [("a", okReceipt), ("b", okReceipt)]) (.object [("a", okReceipt), ("b", .null)])
    "a" (by decide) rfl rfl rfl
  exact absurd hequal (by decide)

end ReceiptWorker

end Delivery

end HyperTrader
