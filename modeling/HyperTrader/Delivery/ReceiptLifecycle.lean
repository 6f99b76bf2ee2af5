import HyperTrader.Delivery.Receipts

/-!
# The life of a receipt

A ticket waits for its receipt until a worker that holds its lease completes it, or gives it
up at the fifth deferral. In whatever order the transactions of the workers come, and
whoever takes over a lease that has run out, a ticket is finalized once, and its one receipt
says how.
-/

namespace HyperTrader

open Library

namespace Delivery

/-- A transaction that writes tickets or receipts. A worker that crashes commits no more. -/
inductive ReceiptEvent where
  | recordProviderAccepted (ticketId : String) (dispatch : ℕ) (tokenId : String) (now : ℤ)
  | recoverExpiredReceiptLeases (now : ℤ) (rows : List ℕ)
  | claimDueReceipts (workerId : String) (now : ℤ) (rows : List ℕ)
  | completeReceipt (ticketId workerId : String) (now : ℤ) (result : ReceiptResult)
  | deferReceipt (ticketId workerId : String) (now : ℤ)

namespace ReceiptTables

variable (tables : ReceiptTables)

def acceptedTicket (ticketId : String) (dispatch : ℕ) (tokenId : String) (now : ℤ) : TicketRow :=
  ⟨ticketId, dispatch, tokenId, .pending, 0, now + receiptInterval, none⟩

theorem ids_accepted {tickets : List TicketRow} {ticket : TicketRow}
    (hids : (tickets.map (·.providerTicketId)).Nodup)
    (hnew : ticket.providerTicketId ∉ tickets.map (·.providerTicketId)) :
    ((tickets ++ [ticket]).map (·.providerTicketId)).Nodup := by
  rw [List.map_append]
  refine List.nodup_append.mpr ⟨hids, List.nodup_singleton _, ?_⟩
  intro id hid other hother hsame
  rw [hsame, List.mem_singleton.mp hother] at hid
  exact hnew hid

theorem patterns_accepted {tickets : List TicketRow} {ticket : TicketRow}
    (hpatterns : ∀ ticketId ∈ tickets.map (·.providerTicketId),
      ticketIdPattern.test ticketId = true)
    (hticket : ticketIdPattern.test ticket.providerTicketId = true) :
    ∀ ticketId ∈ (tickets ++ [ticket]).map (·.providerTicketId),
      ticketIdPattern.test ticketId = true := by
  rw [List.map_append]
  exact List.forall_mem_append.mpr ⟨hpatterns, List.forall_mem_singleton.mpr hticket⟩

/-- The `INSERT INTO notification_provider_tickets` of `recordProviderAccepted`. -/
def recordProviderAccepted (ticketId : String) (dispatch : ℕ) (tokenId : String) (now : ℤ) :
    ReceiptTables :=
  if h : ticketIdPattern.test ticketId = true ∧
      ticketId ∉ tables.delivery.tickets.map (·.providerTicketId) then
    { delivery := { tables.delivery with
        tickets := tables.delivery.tickets ++ [acceptedTicket ticketId dispatch tokenId now] }
      receipts := tables.receipts
      ids := ids_accepted tables.ids h.2
      patterns := patterns_accepted tables.patterns h.1 }
  else tables

def step (tables : ReceiptTables) : ReceiptEvent → ReceiptTables
  | .recordProviderAccepted ticketId dispatch tokenId now =>
    tables.recordProviderAccepted ticketId dispatch tokenId now
  | .recoverExpiredReceiptLeases now rows =>
    tables.commit (tables.delivery.recoverExpiredReceiptLeases now rows) tables.receipts
      (tables.delivery.ticketIds_recoverExpiredReceiptLeases now rows)
  | .claimDueReceipts workerId now rows =>
    tables.commit (tables.delivery.claimDueReceipts workerId now rows) tables.receipts
      (tables.delivery.ticketIds_claimDueReceipts workerId now rows)
  | .completeReceipt ticketId workerId now result =>
    tables.completeReceipt ticketId workerId now result
  | .deferReceipt ticketId workerId now => tables.deferReceipt ticketId workerId now

def withoutTickets (delivery : DeliveryStore) : ReceiptTables where
  delivery := { delivery with tickets := [] }
  receipts := []
  ids := List.nodup_nil
  patterns := List.forall_mem_nil _

def defers (ticketId : String) (tables : ReceiptTables) : ReceiptEvent → Bool
  | .deferReceipt other workerId now =>
    other == ticketId && (tables.delivery.leasedTicket other workerId now).isSome
  | _ => false

end ReceiptTables

def isFinal (stored : Option TicketRow × List ReceiptState) : Bool :=
  stored.1.any fun ticket => ticket.receiptState != .pending

def attempts (stored : Option TicketRow × List ReceiptState) : ℕ :=
  (stored.1.map (·.receiptAttempts)).getD 0

def ReceiptTables.finalizes (ticketId : String) (tables : ReceiptTables)
    (event : ReceiptEvent) : Bool :=
  !isFinal (tables.stored ticketId) && isFinal ((tables.step event).stored ticketId)

/-- How what is stored of a ticket goes on; the flag says that the ticket is deferred. -/
inductive Advance : Bool → Option TicketRow × List ReceiptState →
    Option TicketRow × List ReceiptState → Prop
  | stays (stored : Option TicketRow × List ReceiptState) : Advance false stored stored
  | accepted {ticket : TicketRow} {statuses : List ReceiptState}
      (hpending : ticket.receiptState = .pending) (hattempts : ticket.receiptAttempts = 0) :
      Advance false (none, statuses) (some ticket, statuses)
  | leased {ticket : TicketRow} {statuses : List ReceiptState}
      (hpending : ticket.receiptState = .pending) (lease : Option (String × ℤ)) :
      Advance false (some ticket, statuses)
        (some { ticket with receiptLease := lease }, statuses)
  | completed {ticket : TicketRow} {statuses : List ReceiptState}
      (hpending : ticket.receiptState = .pending) (result : ReceiptResult) :
      Advance false (some ticket, statuses)
        (some { ticket with
          receiptState := DeliveryStore.status result, receiptLease := none },
        statuses ++ [DeliveryStore.status result])
  | deferred {ticket : TicketRow} {statuses : List ReceiptState}
      (hpending : ticket.receiptState = .pending)
      (hattempts : ticket.receiptAttempts + 1 < maxReceiptAttempts) (next : ℤ) :
      Advance true (some ticket, statuses)
        (some { ticket with
          receiptAttempts := ticket.receiptAttempts + 1, nextReceiptAt := next,
          receiptLease := none }, statuses)
  | givenUp {ticket : TicketRow} {statuses : List ReceiptState}
      (hpending : ticket.receiptState = .pending)
      (hattempts : maxReceiptAttempts ≤ ticket.receiptAttempts + 1) :
      Advance true (some ticket, statuses)
        (some { ticket with
          receiptState := .unknown, receiptAttempts := maxReceiptAttempts,
          receiptLease := none }, statuses ++ [.unknown])

theorem pending_of_leasedTo {ticketId workerId : String} {now : ℤ} {ticket : TicketRow}
    (h : DeliveryStore.leasedTo ticketId workerId now ticket = true) :
    ticket.receiptState = .pending := by
  unfold DeliveryStore.leasedTo at h
  rw [Bool.and_eq_true, Bool.and_eq_true, beq_iff_eq (a := ticket.receiptState)] at h
  exact h.1.2

namespace ReceiptTables

variable {tables : ReceiptTables}

theorem advance_of_leases {next : ReceiptTables} {f : ℕ → TicketRow → TicketRow}
    (htickets : next.delivery.tickets = tables.delivery.tickets.mapIdx f)
    (hreceipts : next.receipts = tables.receipts)
    (hf : ∀ i ticket, f i ticket = ticket ∨ ticket.receiptState = .pending ∧
      ∃ lease, f i ticket = { ticket with receiptLease := lease }) (ticketId : String) :
    Advance false (tables.stored ticketId) (next.stored ticketId) := by
  have hkeeps : ∀ i ticket, ((f i ticket).providerTicketId == ticketId) =
      (ticket.providerTicketId == ticketId) := by
    intro i ticket
    rcases hf i ticket with hsame | ⟨-, lease, hlease⟩
    · rw [hsame]
    · rw [hlease]
  unfold stored
  rw [htickets, hreceipts]
  rcases find?_mapIdx (p := fun ticket : TicketRow => ticket.providerTicketId == ticketId)
    hkeeps tables.delivery.tickets with ⟨hnone, hafter⟩ | ⟨i, ticket, hfound, hafter⟩
  · rw [hnone, hafter]
    exact .stays _
  · rw [hfound, hafter]
    rcases hf i ticket with hsame | ⟨hpending, lease, hlease⟩
    · rw [hsame]
      exact .stays _
    · rw [hlease]
      exact .leased hpending lease

/-- An event moves the receipt of every ticket along its lifecycle or not at all. -/
theorem advance_step (tables : ReceiptTables) (event : ReceiptEvent) (ticketId : String) :
    Advance (tables.defers ticketId event) (tables.stored ticketId)
      ((tables.step event).stored ticketId) := by
  cases event with
  | recordProviderAccepted accepted dispatch tokenId now =>
    change Advance false _ ((tables.recordProviderAccepted accepted dispatch tokenId
      now).stored ticketId)
    unfold recordProviderAccepted
    split
    · unfold stored
      dsimp only
      rw [List.find?_append]
      cases hrow : tables.delivery.tickets.find? fun ticket =>
          ticket.providerTicketId == ticketId with
      | some ticket => exact .stays _
      | none =>
        rw [Option.none_or, List.find?_singleton]
        split
        · exact .accepted rfl rfl
        · exact .stays _
    · exact .stays _
  | recoverExpiredReceiptLeases now rows =>
    have htickets : (tables.step (.recoverExpiredReceiptLeases now rows)).delivery.tickets =
      tables.delivery.tickets.mapIdx _ := rfl
    refine advance_of_leases htickets rfl (fun i ticket => ?_) ticketId
    split
    · rename_i h
      exact .inr ⟨h.2.1, none, rfl⟩
    · exact .inl rfl
  | claimDueReceipts workerId now rows =>
    have htickets : (tables.step (.claimDueReceipts workerId now rows)).delivery.tickets =
      tables.delivery.tickets.mapIdx _ := rfl
    refine advance_of_leases htickets rfl (fun i ticket => ?_) ticketId
    split
    · rename_i h
      exact .inr ⟨h.2.1, _, rfl⟩
    · exact .inl rfl
  | completeReceipt other workerId now result =>
    change Advance false _ ((tables.completeReceipt other workerId now result).stored ticketId)
    by_cases hother : other = ticketId
    · rw [hother, stored_completeReceipt]
      cases tables.stored ticketId with
      | mk row statuses =>
        cases row with
        | none => exact .stays _
        | some ticket =>
          unfold completedStored
          dsimp only
          split
          · rename_i hleased
            exact .completed (pending_of_leasedTo hleased) result
          · exact .stays _
    · rw [stored_completeReceipt_of_ne tables workerId now hother]
      exact .stays _
  | deferReceipt other workerId now =>
    change Advance (other == ticketId && _) _
      ((tables.deferReceipt other workerId now).stored ticketId)
    by_cases hother : other = ticketId
    · rw [hother, stored_deferReceipt, leasedTicket_eq, beq_self_eq_true, Bool.true_and]
      cases tables.stored ticketId with
      | mk row statuses =>
        cases row with
        | none => exact .stays _
        | some ticket =>
          unfold deferredStored
          dsimp only
          rw [Option.filter_some]
          split
          · rename_i hleased
            have hpending := pending_of_leasedTo hleased
            split
            · rename_i hattempts
              exact .givenUp hpending hattempts
            · rename_i hattempts
              exact .deferred hpending (Nat.not_le.mp hattempts) _
          · exact .stays _
    · rw [stored_deferReceipt_of_ne tables workerId now hother, beq_eq_false_iff_ne.mpr hother]
      exact .stays _

end ReceiptTables

/-- A ticket that waits has no receipt, and one that does not has the one of its state; it is
unknown after the fifth deferral, and not before. -/
structure OrderlyTicket (ticket : TicketRow) (statuses : List ReceiptState) : Prop where
  waiting : ticket.receiptState = .pending →
    statuses = [] ∧ ticket.receiptAttempts < maxReceiptAttempts
  final : ticket.receiptState ≠ .pending → statuses = [ticket.receiptState]
  unknown : ticket.receiptState = .unknown ↔ ticket.receiptAttempts = maxReceiptAttempts
  most : ticket.receiptAttempts ≤ maxReceiptAttempts

def Orderly : Option TicketRow × List ReceiptState → Prop
  | (none, statuses) => statuses = []
  | (some ticket, statuses) => OrderlyTicket ticket statuses

theorem status_ne (result : ReceiptResult) :
    DeliveryStore.status result ≠ .pending ∧ DeliveryStore.status result ≠ .unknown := by
  cases result <;> simp [DeliveryStore.status]

theorem Orderly.advance {deferred : Bool} {stored next : Option TicketRow × List ReceiptState}
    (h : Orderly stored) (hadvance : Advance deferred stored next) :
    Orderly next ∧ attempts next = attempts stored + deferred.toNat := by
  cases hadvance with
  | stays => exact ⟨h, rfl⟩
  | @accepted ticket statuses hpending hattempts =>
    have hunknown : ticket.receiptState ≠ .unknown := by
      rw [hpending]
      decide
    have hbelow : ticket.receiptAttempts < maxReceiptAttempts := by
      rw [hattempts]
      exact Nat.succ_pos 4
    exact ⟨⟨fun _ => ⟨h, hbelow⟩, fun hnot => absurd hpending hnot,
      iff_of_false hunknown hbelow.ne, hbelow.le⟩, hattempts⟩
  | leased => exact ⟨⟨h.waiting, h.final, h.unknown, h.most⟩, rfl⟩
  | @completed ticket statuses hpending result =>
    obtain ⟨hstatuses, hattempts⟩ := h.waiting hpending
    obtain ⟨hnotPending, hnotUnknown⟩ := status_ne result
    refine ⟨⟨fun hwaits => absurd hwaits hnotPending, fun _ => ?_,
      iff_of_false hnotUnknown hattempts.ne, h.most⟩, rfl⟩
    rw [hstatuses, List.nil_append]
  | @deferred ticket statuses hpending hattempts next =>
    have hunknown : ticket.receiptState ≠ .unknown := by
      rw [hpending]
      decide
    exact ⟨⟨fun _ => ⟨(h.waiting hpending).1, hattempts⟩, fun hnot => absurd hpending hnot,
      iff_of_false hunknown hattempts.ne, hattempts.le⟩, rfl⟩
  | @givenUp ticket statuses hpending hattempts =>
    obtain ⟨hstatuses, hbelow⟩ := h.waiting hpending
    refine ⟨⟨(fun hwaits => by cases hwaits), fun _ => ?_, iff_of_true rfl rfl,
      le_refl maxReceiptAttempts⟩, ?_⟩
    · rw [hstatuses, List.nil_append]
    · exact le_antisymm hattempts hbelow

theorem Advance.eq_of_isFinal {deferred : Bool}
    {stored next : Option TicketRow × List ReceiptState} (h : Advance deferred stored next)
    (hfinal : isFinal stored = true) : next = stored := by
  unfold isFinal at hfinal
  cases h with
  | stays => rfl
  | accepted => cases hfinal
  | leased hpending => simp [hpending] at hfinal
  | completed hpending => simp [hpending] at hfinal
  | deferred hpending => simp [hpending] at hfinal
  | givenUp hpending => simp [hpending] at hfinal

theorem isFinal_next {deferred : Bool} {stored next : Option TicketRow × List ReceiptState}
    (h : Advance deferred stored next) :
    (isFinal next).toNat = (isFinal stored).toNat + (!isFinal stored && isFinal next).toNat := by
  cases hfinal : isFinal stored with
  | true =>
    rw [h.eq_of_isFinal hfinal, hfinal]
    rfl
  | false => rw [Bool.not_false, Bool.true_and, Bool.toNat_false, Nat.zero_add]

namespace ReceiptTables

variable (delivery : DeliveryStore) (ticketId : String)

theorem orderly_step (tables : ReceiptTables) (event : ReceiptEvent)
    (h : Orderly (tables.stored ticketId)) : Orderly ((tables.step event).stored ticketId) :=
  (h.advance (tables.advance_step event ticketId)).1

theorem orderly_withoutTickets : Orderly ((withoutTickets delivery).stored ticketId) := by
  change ([] : List ReceiptState) = []
  rfl

/-- In every run of the workers, a ticket that waits has no receipt and one that does not
has exactly one, which names its state; it has been finalized once, and stays as it is; and
it has been deferred at most four times, or is unknown since the fifth. -/
theorem receipt_lifecycle (delivery : DeliveryStore) (before after : List ReceiptEvent)
    (ticketId : String) :
    Orderly ((run step (withoutTickets delivery) before).stored ticketId) ∧
    countSteps step (finalizes ticketId) (withoutTickets delivery) before =
      (isFinal ((run step (withoutTickets delivery) before).stored ticketId)).toNat ∧
    countSteps step (defers ticketId) (withoutTickets delivery) before =
      attempts ((run step (withoutTickets delivery) before).stored ticketId) ∧
    (isFinal ((run step (withoutTickets delivery) before).stored ticketId) = true →
      (run step (withoutTickets delivery) (before ++ after)).stored ticketId =
        (run step (withoutTickets delivery) before).stored ticketId) := by
  have hstart := orderly_withoutTickets delivery ticketId
  have hkept := orderly_step ticketId
  have hfinalized := @measure_run _ _ step _ _ (finalizes ticketId)
    (fun tables => (isFinal (tables.stored ticketId)).toNat) hkept
    (fun tables event _ => isFinal_next (tables.advance_step event ticketId)) hstart before
  have hdeferred := @measure_run _ _ step _ _ (defers ticketId)
    (fun tables => attempts (tables.stored ticketId)) hkept
    (fun tables event h => (h.advance (tables.advance_step event ticketId)).2) hstart before
  refine ⟨run_invariant hkept hstart before, ?_, ?_, fun hfinal => ?_⟩
  · rw [hfinalized]
    exact (Nat.zero_add _).symm
  · rw [hdeferred]
    exact (Nat.zero_add _).symm
  · rw [run_append]
    have hsame : ∀ (tables : ReceiptTables) (event : ReceiptEvent),
        tables.stored ticketId = (run step (withoutTickets delivery) before).stored ticketId →
        (tables.step event).stored ticketId =
          (run step (withoutTickets delivery) before).stored ticketId := by
      intro tables event h
      rw [(tables.advance_step event ticketId).eq_of_isFinal (by rw [h, hfinal]), h]
    exact run_invariant hsame rfl after

end ReceiptTables

end Delivery

end HyperTrader
