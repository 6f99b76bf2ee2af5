import HyperTrader.Delivery.Dispatch
import HyperTrader.Library.Machine
import HyperTrader.Library.Processes
import Mathlib.Data.List.Nodup

/-!
# A verdict is about the token it was asked for

The provider's verdict that a device is not registered marks the row of the
installation, whatever token the row holds by then. It hits the token of its
request exactly where the installation has not been bound to another token since
the request's token was read.
-/

namespace HyperTrader

open Library

namespace Delivery

/-! ### Rows of the tokens -/

namespace TokenTable

variable {table : TokenTable} {condition : TokenRow → Bool} {pushToken : TokenRow → String}
  {deliveryState : TokenState} {row row' : TokenRow} {installationId : String}

theorem eq_of_tokenId (h : row ∈ table.rows) (h' : row' ∈ table.rows)
    (hid : row.tokenId = row'.tokenId) : row = row' :=
  List.inj_on_of_nodup_map table.ids h h' hid

theorem eq_of_installationId (h : row ∈ table.rows)
    (h' : row' ∈ table.rows) (hid : row.installationId = row'.installationId) : row = row' :=
  List.inj_on_of_nodup_map table.installations h h' hid

theorem mem_update :
    row' ∈ (table.update condition pushToken deliveryState).rows ↔
      ∃ row ∈ table.rows, updateRow condition pushToken deliveryState row = row' :=
  List.mem_map

theorem eq_updateRow (h : row ∈ table.rows)
    (h' : row' ∈ (table.update condition pushToken deliveryState).rows)
    (hid : row'.tokenId = row.tokenId) :
    row' = updateRow condition pushToken deliveryState row := by
  obtain ⟨old, hold, rfl⟩ := mem_update.mp h'
  rw [tokenId_updateRow] at hid
  rw [eq_of_tokenId hold h hid]

theorem updateRow_of_not (h : condition row = false) :
    updateRow condition pushToken deliveryState row = row := by
  rw [updateRow, h]
  rfl

theorem updateRow_of (h : condition row = true) :
    updateRow condition pushToken deliveryState row =
      { row with pushToken := pushToken row, deliveryState := deliveryState } := by
  rw [updateRow, h]
  rfl

theorem updateRow_congr {condition' : TokenRow → Bool} (h : condition row = condition' row) :
    updateRow condition pushToken deliveryState row =
      updateRow condition' pushToken deliveryState row := by
  cases htest : condition' row with
  | false => rw [updateRow_of_not (h.trans htest), updateRow_of_not htest]
  | true => rw [updateRow_of (h.trans htest), updateRow_of htest]

theorem activeRow_isSome_iff :
    (table.activeRow installationId).isSome = true ↔
      ∃ row ∈ table.rows, row.installationId = installationId ∧ row.deliveryState = .active := by
  unfold activeRow
  rw [List.find?_isSome]
  simp only [Bool.and_eq_true, beq_iff_eq]

theorem of_activeRow (h : table.activeRow installationId = some row) :
    row ∈ table.rows ∧ row.installationId = installationId ∧ row.deliveryState = .active := by
  have htest := List.find?_some h
  rw [Bool.and_eq_true, beq_iff_eq, beq_iff_eq] at htest
  exact ⟨List.mem_of_find?_eq_some h, htest⟩

end TokenTable

/-! ### Requests and their tokens -/

def Outcome.ofRequest : Outcome → Bool
  | .accepted _ | .rejected .deviceNotRegistered => true
  | _ => false

def RunStage.hasRead : RunStage → Bool
  | .tokenRead | .sending => true
  | .recording outcome instead => outcome.ofRequest || instead.any Outcome.ofRequest
  | _ => false

namespace DeliveryStore

def unregistered (store : DeliveryStore) : DeliveryEvent → Option Dispatch
  | .record i _ => (store.dispatches[i]?).filter fun dispatch =>
    store.inFlight dispatch &&
      match dispatch.stage with
      | .recording (.rejected .deviceNotRegistered) _ => true
      | _ => false
  | .completeReceipt ticketId workerId now (.failed .deviceNotRegistered) =>
    (store.leasedTicket ticketId workerId now).bind fun ticket =>
      store.dispatches[ticket.dispatch]?
  | _ => none

structure HitsOwnToken (store : DeliveryStore) (event : DeliveryEvent) : Prop where
  /-- A token is marked invalid only by the verdict on a request that was sent to it. -/
  marked : ∀ row ∈ store.tokens.rows, row.deliveryState = .active →
    ∀ row' ∈ (store.step event).tokens.rows, row'.tokenId = row.tokenId →
      row'.deliveryState = .invalid →
      ∃ request ∈ store.unregistered event, request.pushToken = some row.pushToken
  /-- Another token stays active under the verdict. -/
  kept : ∀ request ∈ store.unregistered event, ∀ row ∈ store.tokens.rows,
    row.deliveryState = .active → request.pushToken ≠ some row.pushToken →
    row ∈ (store.step event).tokens.rows
  /-- The alerts of an installation with another token can still be claimed. -/
  claimable : ∀ request ∈ store.unregistered event, ∀ entry : OutboxRow,
    (∀ row ∈ store.tokens.rows, row.installationId = entry.installationId →
      request.pushToken ≠ some row.pushToken) →
    store.claimable entry = true → (store.step event).claimable entry = true

/-- Where the verdict finds the token of the installation active, the installation
has not been bound since to another token than the request's. -/
def Steady (store : DeliveryStore) (event : DeliveryEvent) : Prop :=
  ∀ request ∈ store.unregistered event, store.deliverable request.installationId = true →
    ∀ pushToken ∈ request.rebound, request.pushToken = some pushToken

instance (store : DeliveryStore) (event : DeliveryEvent) : Decidable (store.Steady event) :=
  inferInstanceAs (Decidable (∀ request ∈ store.unregistered event,
    store.deliverable request.installationId = true →
      ∀ pushToken ∈ request.rebound, request.pushToken = some pushToken))

/-- The request with the index was sent to the row's token or one it replaces. -/
def Sourced (store : DeliveryStore) (i : ℕ) (tokenId : String) : Prop :=
  ∃ dispatch, store.dispatches[i]? = some dispatch ∧ dispatch.pushToken.isSome = true ∧
    ∃ row ∈ store.tokens.rows, row.installationId = dispatch.installationId ∧
      row.tokenId = tokenId

structure Known (store : DeliveryStore) : Prop where
  bound : ∀ (i : ℕ) (dispatch : Dispatch), store.dispatches[i]? = some dispatch →
    ∀ pushToken ∈ dispatch.pushToken, ∃ row ∈ store.tokens.rows,
      row.installationId = dispatch.installationId ∧
        row.pushToken = dispatch.rebound.getD pushToken
  read : ∀ (i : ℕ) (dispatch : Dispatch), store.dispatches[i]? = some dispatch →
    dispatch.stage.hasRead = true → dispatch.pushToken.isSome = true
  tickets : ∀ ticket ∈ store.tickets, store.Sourced ticket.dispatch ticket.tokenId

variable {store after : DeliveryStore}

def Follows (dispatch next : Dispatch) : Prop :=
  next.installationId = dispatch.installationId ∧ next.pushToken = dispatch.pushToken ∧
    next.rebound = dispatch.rebound ∧
    (next.stage.hasRead = true → dispatch.stage.hasRead = true)

def KeepsTokens (store after : DeliveryStore) : Prop :=
  ∀ row ∈ store.tokens.rows, ∃ row' ∈ after.tokens.rows, row'.tokenId = row.tokenId ∧
    row'.installationId = row.installationId ∧ row'.pushToken = row.pushToken

theorem keepsTokens_of_eq (h : after.tokens = store.tokens) : KeepsTokens store after :=
  fun row hrow => ⟨row, by rw [h]; exact hrow, rfl, rfl, rfl⟩

theorem keepsTokens_invalidate (store : DeliveryStore) (condition : TokenRow → Bool) :
    KeepsTokens store (store.invalidate condition) := by
  intro row hrow
  refine ⟨_, TokenTable.mem_update.mpr ⟨row, hrow, rfl⟩, TokenTable.tokenId_updateRow _ _ _ row,
    TokenTable.installationId_updateRow _ _ _ row, ?_⟩
  unfold TokenTable.updateRow
  split <;> rfl

theorem Known.next (h : Known store) (htokens : KeepsTokens store after)
    (hdispatches : ∀ (i : ℕ) (next : Dispatch), after.dispatches[i]? = some next →
      next.pushToken = none ∧ next.stage.hasRead = false ∨
        ∃ dispatch, store.dispatches[i]? = some dispatch ∧ Follows dispatch next)
    (hkeeps : ∀ (i : ℕ) (dispatch : Dispatch), store.dispatches[i]? = some dispatch →
      ∃ next, after.dispatches[i]? = some next ∧ Follows dispatch next)
    (htickets : ∀ ticket ∈ after.tickets, store.Sourced ticket.dispatch ticket.tokenId) :
    Known after where
  bound i next hnext pushToken hpushToken := by
    rcases hdispatches i next hnext with ⟨hnone, -⟩ | ⟨dispatch, hdispatch, hfollows⟩
    · rw [hnone] at hpushToken
      cases hpushToken
    · obtain ⟨hinstallation, hsame, hrebound, -⟩ := hfollows
      rw [hsame] at hpushToken
      obtain ⟨row, hrow, hrow_installation, htoken⟩ :=
        h.bound i dispatch hdispatch pushToken hpushToken
      obtain ⟨row', hrow', -, hkept, hkept_token⟩ := htokens row hrow
      refine ⟨row', hrow', (hkept.trans hrow_installation).trans hinstallation.symm, ?_⟩
      rw [hkept_token, htoken, hrebound]
  read i next hnext hread := by
    rcases hdispatches i next hnext with ⟨-, hnot⟩ | ⟨dispatch, hdispatch, hfollows⟩
    · rw [hnot] at hread
      cases hread
    · rw [hfollows.2.1]
      exact h.read i dispatch hdispatch (hfollows.2.2.2 hread)
  tickets ticket hticket := by
    obtain ⟨dispatch, hdispatch, hsome, row, hrow, hinstallation, hid⟩ := htickets ticket hticket
    obtain ⟨next, hnext, hfollows⟩ := hkeeps _ dispatch hdispatch
    obtain ⟨row', hrow', hkept_id, hkept, -⟩ := htokens row hrow
    exact ⟨next, hnext, by rw [hfollows.2.1]; exact hsome, row', hrow',
      (hkept.trans hinstallation).trans hfollows.1.symm, hkept_id.trans hid⟩

theorem Follows.refl (dispatch : Dispatch) : Follows dispatch dispatch :=
  ⟨rfl, rfl, rfl, id⟩

theorem Known.of_eq (h : Known store) (htokens : KeepsTokens store after)
    (hdispatches : after.dispatches = store.dispatches)
    (htickets : ∀ ticket ∈ after.tickets, store.Sourced ticket.dispatch ticket.tokenId) :
    Known after := by
  refine h.next htokens (fun i next hnext => ?_) (fun i dispatch hdispatch => ?_) htickets
  · rw [hdispatches] at hnext
    exact .inr ⟨next, hnext, .refl next⟩
  · rw [hdispatches]
    exact ⟨dispatch, hdispatch, .refl dispatch⟩

variable {i : ℕ} {dispatch request : Dispatch} {ticketId : String} {now : ℤ} {outcome : Outcome}
  {instead : Option Outcome} {row : TokenRow} {event : DeliveryEvent}

theorem Known.setDispatch (h : Known store)
    (hdispatch : store.dispatches[i]? = some dispatch) {permit : PermitState} {stage : RunStage}
    (hread : stage.hasRead = true → dispatch.stage.hasRead = true)
    (htokens : KeepsTokens store after) (hdispatches : after.dispatches = store.dispatches)
    (htickets : ∀ ticket ∈ after.tickets, store.Sourced ticket.dispatch ticket.tokenId) :
    Known (after.setDispatch i permit stage) := by
  have hkept : (after.setDispatch i permit stage).dispatches =
      store.dispatches.modify i fun dispatch =>
        { dispatch with permit := permit, stage := stage } := by
    rw [← hdispatches]
    rfl
  refine h.next htokens (fun j next hnext => .inr ?_) (fun j old hold => ?_) htickets
  · rw [hkept] at hnext
    rcases getElem?_modify_cases hnext with ⟨old, hold, rfl, rfl⟩ | ⟨-, hold⟩
    · rw [hdispatch] at hold
      cases hold
      exact ⟨dispatch, hdispatch, rfl, rfl, rfl, hread⟩
    · exact ⟨next, hold, .refl next⟩
  · rw [hkept]
    by_cases hj : i = j
    · subst hj
      rw [hdispatch] at hold
      cases hold
      rw [List.getElem?_modify_eq, hdispatch]
      exact ⟨_, rfl, rfl, rfl, rfl, hread⟩
    · rw [List.getElem?_modify_ne _ _ hj]
      exact ⟨old, hold, .refl old⟩

/-! ### Rebinds -/

theorem known_bindToken (h : Known store) (installationId pushToken : String) :
    Known (store.bindToken installationId pushToken) := by
  have hlookup : ∀ {i : ℕ} {next : Dispatch},
      (store.bindToken installationId pushToken).dispatches[i]? = some next →
      ∃ dispatch, store.dispatches[i]? = some dispatch ∧
        next.installationId = dispatch.installationId ∧
        next.pushToken = dispatch.pushToken ∧ next.stage = dispatch.stage ∧
        next.rebound = if dispatch.installationId = installationId ∧
          dispatch.pushToken.isSome = true then some pushToken else dispatch.rebound := by
    intro i next hnext
    change (List.map _ _)[i]? = _ at hnext
    rw [List.getElem?_map, Option.map_eq_some_iff] at hnext
    obtain ⟨dispatch, hdispatch, rfl⟩ := hnext
    refine ⟨dispatch, hdispatch, ?_⟩
    split
    · exact ⟨rfl, rfl, rfl, rfl⟩
    · exact ⟨rfl, rfl, rfl, rfl⟩
  constructor
  · intro i next hnext token htoken
    obtain ⟨dispatch, hdispatch, hinstallation, hsame, -, hrebound⟩ := hlookup hnext
    rw [hsame] at htoken
    obtain ⟨row, hrow, hrow_installation, hrow_token⟩ := h.bound i dispatch hdispatch token htoken
    refine ⟨_, TokenTable.mem_update.mpr ⟨row, hrow, rfl⟩,
      (TokenTable.installationId_updateRow _ _ _ row).trans
        (hrow_installation.trans hinstallation.symm), ?_⟩
    have hsome : dispatch.pushToken.isSome = true := Option.isSome_iff_exists.mpr ⟨token, htoken⟩
    rw [hrebound]
    by_cases hours : dispatch.installationId = installationId
    · rw [if_pos ⟨hours, hsome⟩, TokenTable.updateRow_of]
      · rfl
      · rw [beq_iff_eq]
        exact hrow_installation.trans hours
    · rw [if_neg fun hboth => hours hboth.1, TokenTable.updateRow_of_not]
      · exact hrow_token
      · rw [beq_eq_false_iff_ne]
        exact fun heq => hours (hrow_installation.symm.trans heq)
  · intro i next hnext hread
    obtain ⟨dispatch, hdispatch, -, hsame, hstage, -⟩ := hlookup hnext
    rw [hsame]
    exact h.read i dispatch hdispatch (hstage ▸ hread)
  · intro ticket hticket
    obtain ⟨dispatch, hdispatch, hsome, row, hrow, hinstallation, hid⟩ := h.tickets ticket hticket
    have hfound : ((store.bindToken installationId pushToken).dispatches[
        ticket.dispatch]?).isSome = true := by
      change ((List.map _ _)[ticket.dispatch]?).isSome = true
      rw [List.getElem?_map, hdispatch]
      rfl
    obtain ⟨next, hnext⟩ := Option.isSome_iff_exists.mp hfound
    obtain ⟨old, hold, hnext_installation, hsame, -⟩ := hlookup hnext
    rw [hdispatch] at hold
    cases hold
    exact ⟨next, hnext, by rw [hsame]; exact hsome, _,
      TokenTable.mem_update.mpr ⟨row, hrow, rfl⟩,
      (TokenTable.installationId_updateRow _ _ _ row).trans
        (hinstallation.trans hnext_installation.symm),
      (TokenTable.tokenId_updateRow _ _ _ row).trans hid⟩

theorem known_rebind (h : Known store) (installationId pushToken : String) :
    Known (store.rebind installationId pushToken) := by
  unfold DeliveryStore.rebind
  split
  · exact h
  · exact known_bindToken h installationId pushToken

/-! ### Runs -/

theorem known_recordProviderAccepted (h : Known store)
    (hdispatch : store.dispatches[i]? = some dispatch) (hsome : dispatch.pushToken.isSome = true)
    (hafter : store.recordProviderAccepted i dispatch ticketId now = some after) : Known after := by
  unfold recordProviderAccepted at hafter
  split at hafter
  · split at hafter
    · cases hafter
    · rename_i row hrow
      split at hafter
      · cases hafter
      · cases hafter
        refine h.setDispatch hdispatch (fun h => by cases h) (keepsTokens_of_eq rfl) rfl ?_
        intro ticket hticket
        rcases List.mem_append.mp hticket with hold | hnew
        · exact h.tickets ticket hold
        · rw [List.mem_singleton.mp hnew]
          exact ⟨dispatch, hdispatch, hsome, row, List.mem_of_find?_eq_some hrow,
            by simpa using List.find?_some hrow, rfl⟩
  · cases hafter

theorem known_recordProviderRejected (h : Known store)
    (hdispatch : store.dispatches[i]? = some dispatch) {errorCode : RejectionCode}
    (hafter : store.recordProviderRejected i dispatch errorCode = some after) : Known after := by
  unfold recordProviderRejected at hafter
  split at hafter
  · cases hafter
    by_cases hcode : errorCode = .deviceNotRegistered
    · rw [if_pos hcode]
      exact h.setDispatch hdispatch (fun h => by cases h)
        (keepsTokens_invalidate store _) rfl h.tickets
    · rw [if_neg hcode]
      exact h.setDispatch hdispatch (fun h => by cases h) (keepsTokens_of_eq rfl) rfl h.tickets
  · cases hafter

theorem known_record (h : Known store) (hdispatch : store.dispatches[i]? = some dispatch)
    (hstage : dispatch.stage = .recording outcome instead) (now : ℤ) :
    Known (store.record i dispatch outcome instead now) := by
  unfold DeliveryStore.record
  cases hafter : store.recordOutcome i dispatch now outcome with
  | none =>
    refine h.setDispatch hdispatch ?_ (keepsTokens_of_eq rfl) rfl h.tickets
    rw [hstage]
    cases instead with
    | none => exact fun h => by cases h
    | some other =>
      intro hread
      change (other.ofRequest || false) = true at hread
      rw [Bool.or_false] at hread
      exact (Bool.or_eq_true _ _).mpr (.inr hread)
  | some after =>
    cases outcome with
    | accepted ticketId =>
      refine known_recordProviderAccepted h hdispatch (h.read i dispatch hdispatch ?_) hafter
      rw [hstage]
      rfl
    | rejected errorCode => exact known_recordProviderRejected h hdispatch hafter
    | unknown =>
      change store.recordProviderOutcomeUnknown i dispatch = some after at hafter
      unfold recordProviderOutcomeUnknown at hafter
      split at hafter
      · cases hafter
        exact h.setDispatch hdispatch (fun h => by cases h) (keepsTokens_of_eq rfl) rfl
          h.tickets
      · cases hafter

theorem known_read (h : Known store) (hdispatch : store.dispatches[i]? = some dispatch)
    (hrow : row ∈ store.tokens.rows)
    (hinstallation : row.installationId = dispatch.installationId) :
    Known { store with
      dispatches := store.dispatches.modify i fun dispatch =>
        { dispatch with
          stage := .tokenRead, pushToken := some row.pushToken, rebound := none } } where
  bound j next hnext pushToken hpushToken := by
    rcases getElem?_modify_cases hnext with ⟨old, hold, rfl, rfl⟩ | ⟨-, hold⟩
    · rw [hdispatch] at hold
      cases hold
      cases hpushToken
      exact ⟨row, hrow, hinstallation, rfl⟩
    · exact h.bound j next hold pushToken hpushToken
  read j next hnext hread := by
    rcases getElem?_modify_cases hnext with ⟨old, -, -, rfl⟩ | ⟨-, hold⟩
    · rfl
    · exact h.read j next hold hread
  tickets ticket hticket := by
    obtain ⟨old, hold, hsome, hsourced⟩ := h.tickets ticket hticket
    unfold Sourced
    dsimp only
    by_cases hi : i = ticket.dispatch
    · rw [← hi, hdispatch] at hold
      cases hold
      rw [← hi, List.getElem?_modify_eq, hdispatch]
      exact ⟨_, rfl, rfl, hsourced⟩
    · rw [List.getElem?_modify_ne _ _ hi]
      exact ⟨old, hold, hsome, hsourced⟩

theorem known_readDecryptedPushToken (h : Known store)
    (hdispatch : store.dispatches[i]? = some dispatch) (now : ℤ) (authorized decrypts : Bool) :
    Known (store.readDecryptedPushToken i dispatch now authorized decrypts) := by
  unfold DeliveryStore.readDecryptedPushToken
  split
  · exact h.setDispatch hdispatch (fun h => by cases h) (keepsTokens_of_eq rfl) rfl h.tickets
  · rename_i row hrow
    split
    · unfold authorizedProviderRow at hrow
      split at hrow
      · obtain ⟨hmem, hinstallation, -⟩ := TokenTable.of_activeRow hrow
        exact known_read h hdispatch hmem hinstallation
      · cases hrow
    · exact h.setDispatch hdispatch (fun h => by cases h) (keepsTokens_of_eq rfl) rfl h.tickets

theorem known_stepRun (h : Known store)
    (hdispatch : store.dispatches[i]? = some dispatch) (event : DeliveryEvent) :
    Known (store.stepRun i dispatch dispatch.stage event) := by
  have hends : ∀ {base : DeliveryStore} {permit : PermitState} {stage : RunStage},
      stage.hasRead = false → base.tokens = store.tokens →
      base.dispatches = store.dispatches → base.tickets = store.tickets →
      Known (base.setDispatch i permit stage) := by
    intro base permit stage hstage htokens hdispatches htickets
    refine h.setDispatch hdispatch (fun hread => ?_) (keepsTokens_of_eq htokens) hdispatches ?_
    · rw [hstage] at hread
      cases hread
    · rw [htickets]
      exact h.tickets
  unfold stepRun
  split
  · unfold DeliveryStore.markProviderSubmissionStarted abandonUnstartedDispatch
    split
    · exact hends rfl rfl rfl rfl
    · split
      · exact hends rfl rfl rfl rfl
      · exact hends rfl rfl rfl rfl
  · exact known_readDecryptedPushToken h hdispatch _ _ _
  · rename_i hstage
    unfold DeliveryStore.authorizeProviderFetch
    split
    · exact hends rfl rfl rfl rfl
    · split
      · exact hends rfl rfl rfl rfl
      · refine h.setDispatch hdispatch (fun _ => ?_) (keepsTokens_of_eq rfl) rfl h.tickets
        rw [hstage]
        rfl
  · rename_i hstage
    refine h.setDispatch hdispatch (fun _ => ?_) (keepsTokens_of_eq rfl) rfl h.tickets
    rw [hstage]
    rfl
  · rename_i hstage
    exact known_record h hdispatch hstage _
  · exact h

/-! ### The other events -/

theorem known_claimNextDispatch (h : Known store) (now : ℤ) (rows : List ℕ) :
    Known (store.claimNextDispatch now rows) := by
  unfold DeliveryStore.claimNextDispatch
  split
  · exact h
  · split
    · exact h
    · refine h.next (keepsTokens_of_eq rfl) (fun i next hnext => ?_)
        (fun i dispatch hdispatch => ⟨dispatch, getElem?_append_of_some hdispatch _,
          .refl dispatch⟩) h.tickets
      rcases getElem?_append_cases hnext with hold | ⟨-, rfl⟩
      · exact .inr ⟨next, hold, .refl next⟩
      · exact .inl ⟨rfl, rfl⟩

theorem known_recoverExpiredDispatches (h : Known store) (now : ℤ) (rows : List ℕ) :
    Known (store.recoverExpiredDispatches now rows) := by
  have hfollows : ∀ (i : ℕ) (dispatch : Dispatch),
      Follows dispatch { dispatch with permit := expiredPermit now rows i dispatch } :=
    fun _ _ => ⟨rfl, rfl, rfl, id⟩
  refine h.next (keepsTokens_of_eq rfl) (fun i next hnext => .inr ?_)
    (fun i dispatch hdispatch => ?_) h.tickets
  · change (List.mapIdx _ _)[i]? = _ at hnext
    rw [List.getElem?_mapIdx, Option.map_eq_some_iff] at hnext
    obtain ⟨dispatch, hdispatch, rfl⟩ := hnext
    exact ⟨dispatch, hdispatch, hfollows i dispatch⟩
  · change ∃ next, (List.mapIdx _ _)[i]? = some next ∧ _
    rw [List.getElem?_mapIdx, hdispatch]
    exact ⟨_, rfl, hfollows i dispatch⟩

theorem known_setTickets (h : Known store) {f : ℕ → TicketRow → TicketRow}
    (hf : ∀ i ticket, (f i ticket).dispatch = ticket.dispatch ∧
      (f i ticket).tokenId = ticket.tokenId) (htokens : KeepsTokens store after)
    (hdispatches : after.dispatches = store.dispatches)
    (htickets : after.tickets = store.tickets.mapIdx f) : Known after := by
  refine h.of_eq htokens hdispatches fun ticket hticket => ?_
  rw [htickets, List.mem_mapIdx] at hticket
  obtain ⟨i, hi, rfl⟩ := hticket
  rw [(hf _ _).1, (hf _ _).2]
  exact h.tickets _ (List.getElem_mem hi)

theorem known_completeReceipt (h : Known store) (ticketId workerId : String) (now : ℤ)
    (result : ReceiptResult) : Known (store.completeReceipt ticketId workerId now result) := by
  unfold DeliveryStore.completeReceipt
  split
  · exact h
  · dsimp only
    split
    · refine known_setTickets h (fun i ticket => ?_) (keepsTokens_invalidate store _) rfl rfl
      split <;> exact ⟨rfl, rfl⟩
    · refine known_setTickets h (fun i ticket => ?_) (keepsTokens_of_eq rfl) rfl rfl
      split <;> exact ⟨rfl, rfl⟩

theorem step_of_runOf {event : DeliveryEvent} {i : ℕ} (hrun : runOf event = some i) :
    store.step event = ((store.dispatches[i]?).map fun dispatch =>
        store.stepRun i dispatch dispatch.stage event).getD store := by
  cases event with
  | markProviderSubmissionStarted | readDecryptedPushToken | authorizeProviderFetch | sent
  | record =>
    cases hrun
    unfold DeliveryStore.step
    cases hdispatch : store.dispatches[i]? <;> simp [runOf, hdispatch]
  | _ => cases hrun

theorem step_known (event : DeliveryEvent) (h : Known store) : Known (store.step event) := by
  cases hrun : runOf event with
  | some i =>
    rw [step_of_runOf hrun]
    cases hdispatch : store.dispatches[i]? with
    | none => exact h
    | some dispatch => exact known_stepRun h hdispatch event
  | none =>
    cases event with
    | rebindPushToken installationId pushToken authorized =>
      change Known (store.rebindPushToken installationId pushToken authorized)
      unfold DeliveryStore.rebindPushToken
      split
      · exact known_rebind h installationId pushToken
      · exact h
    | rebindPriceOnlyPushToken installationId pushToken authorized accountAuthority =>
      change Known (store.rebindPriceOnlyPushToken installationId pushToken authorized
        accountAuthority)
      unfold DeliveryStore.rebindPriceOnlyPushToken
      split
      · exact known_rebind h installationId pushToken
      · exact h
    | createAlertForRuleMatch installationId authorized =>
      change Known (store.createAlertForRuleMatch installationId authorized)
      unfold DeliveryStore.createAlertForRuleMatch
      split
      · exact h.of_eq (keepsTokens_of_eq rfl) rfl h.tickets
      · exact h
    | claimNextDispatch now rows => exact known_claimNextDispatch h now rows
    | recoverExpiredDispatches now rows => exact known_recoverExpiredDispatches h now rows
    | recoverExpiredReceiptLeases now rows =>
      refine known_setTickets h (fun i ticket => ?_) (keepsTokens_of_eq rfl) rfl rfl
      split <;> exact ⟨rfl, rfl⟩
    | claimDueReceipts workerId now rows =>
      refine known_setTickets h (fun i ticket => ?_) (keepsTokens_of_eq rfl) rfl rfl
      split <;> exact ⟨rfl, rfl⟩
    | completeReceipt ticketId workerId now result =>
      exact known_completeReceipt h ticketId workerId now result
    | deferReceipt ticketId workerId now =>
      refine known_setTickets h (fun i ticket => ?_) (keepsTokens_of_eq rfl) rfl rfl
      split
      · split <;> exact ⟨rfl, rfl⟩
      · exact ⟨rfl, rfl⟩
    | _ => cases hrun

/-! ### What an event does to the tokens -/

/-- The condition of a verdict's `UPDATE`, over the rows of the store. -/
def marking (request : Dispatch) (row : TokenRow) : Bool :=
  row.installationId == request.installationId && row.deliveryState == .active

inductive TokensMove (store : DeliveryStore) (event : DeliveryEvent) : Prop where
  | left (hnone : store.unregistered event = none)
      (hrows : (store.step event).tokens.rows = store.tokens.rows)
  | bound (hnone : store.unregistered event = none) (installationId pushToken : String)
      (hrows : (store.step event).tokens.rows = store.tokens.rows.map
        (TokenTable.updateRow (·.installationId == installationId) (fun _ => pushToken) .active))
  | marked (request : Dispatch) (hsome : store.unregistered event = some request)
      (hsent : request.pushToken.isSome = true)
      (hbound : ∀ pushToken ∈ request.pushToken, ∃ row ∈ store.tokens.rows,
        row.installationId = request.installationId ∧
          row.pushToken = request.rebound.getD pushToken)
      (hrows : (store.step event).tokens.rows = store.tokens.rows.map
        (TokenTable.updateRow (marking request) (·.pushToken) .invalid))

theorem unregistered_record (hdispatch : store.dispatches[i]? = some dispatch)
    (hstage : dispatch.stage = .recording outcome instead) (now : ℤ) :
    store.unregistered (.record i now) =
      if store.inFlight dispatch = true ∧ outcome = .rejected .deviceNotRegistered then
        some dispatch else none := by
  simp only [unregistered, hdispatch, Option.filter_some, hstage]
  by_cases hflight : store.inFlight dispatch = true
  · rw [hflight]
    cases outcome with
    | rejected errorCode => cases errorCode <;> simp
    | _ => simp
  · rw [Bool.not_eq_true] at hflight
    rw [hflight]
    simp

theorem tokens_recordOutcome (hafter : store.recordOutcome i dispatch now outcome = some after) :
    store.inFlight dispatch = true ∧ outcome = .rejected .deviceNotRegistered ∧
        after.tokens.rows = store.tokens.rows.map
          (TokenTable.updateRow (marking dispatch) (·.pushToken) .invalid) ∨
      outcome ≠ .rejected .deviceNotRegistered ∧ after.tokens = store.tokens := by
  cases outcome with
  | accepted ticketId =>
    refine .inr ⟨(fun h => by cases h), ?_⟩
    change store.recordProviderAccepted i dispatch ticketId now = some after at hafter
    unfold recordProviderAccepted at hafter
    split at hafter
    · split at hafter
      · cases hafter
      · split at hafter
        · cases hafter
        · cases hafter
          rfl
    · cases hafter
  | rejected errorCode =>
    change store.recordProviderRejected i dispatch errorCode = some after at hafter
    unfold recordProviderRejected at hafter
    split at hafter
    · rename_i hflight
      cases hafter
      by_cases hcode : errorCode = .deviceNotRegistered
      · rw [if_pos hcode, hcode]
        exact .inl ⟨hflight, rfl, rfl⟩
      · rw [if_neg hcode]
        refine .inr ⟨fun heq => ?_, rfl⟩
        cases heq
        exact hcode rfl
    · cases hafter
  | unknown =>
    refine .inr ⟨(fun h => by cases h), ?_⟩
    change store.recordProviderOutcomeUnknown i dispatch = some after at hafter
    unfold recordProviderOutcomeUnknown at hafter
    split at hafter
    · cases hafter
      rfl
    · cases hafter

theorem tokensMove_record (h : Known store) (i : ℕ) (now : ℤ) :
    TokensMove store (.record i now) := by
  have hrun : runOf (.record i now) = some i := rfl
  have hstep := @step_of_runOf store _ i hrun
  cases hdispatch : store.dispatches[i]? with
  | none =>
    refine .left ?_ ?_
    · simp only [unregistered, hdispatch, Option.filter_none]
    · rw [hstep, hdispatch]
      rfl
  | some dispatch =>
    rw [hdispatch] at hstep
    change _ = store.stepRun i dispatch dispatch.stage (.record i now) at hstep
    cases hstage : dispatch.stage with
    | recording outcome instead =>
      rw [hstage] at hstep
      change _ = store.record i dispatch outcome instead now at hstep
      unfold DeliveryStore.record at hstep
      cases hafter : store.recordOutcome i dispatch now outcome with
      | none =>
        rw [hafter] at hstep
        refine .left ?_ ?_
        · rw [unregistered_record hdispatch hstage, if_neg]
          rintro ⟨hflight, rfl⟩
          change store.recordProviderRejected i dispatch .deviceNotRegistered = none at hafter
          rw [recordProviderRejected, if_pos hflight] at hafter
          cases hafter
        · rw [hstep]
          rfl
      | some after =>
        rw [hafter] at hstep
        change _ = after at hstep
        rcases tokens_recordOutcome hafter with ⟨hflight, hcode, hrows⟩ | ⟨hcode, htokens⟩
        · refine .marked dispatch ?_ ?_ (h.bound i dispatch hdispatch) (hstep ▸ hrows)
          · rw [unregistered_record hdispatch hstage, if_pos ⟨hflight, hcode⟩]
          · refine h.read i dispatch hdispatch ?_
            rw [hstage, hcode]
            rfl
        · refine .left ?_ ?_
          · rw [unregistered_record hdispatch hstage, if_neg fun hboth => hcode hboth.2]
          · rw [hstep, htokens]
    | _ =>
      refine .left ?_ ?_
      · simp [unregistered, hdispatch, hstage]
      · rw [hstep, hstage]
        rfl

theorem leasedTicket_sourced (h : Known store) {workerId : String}
    {ticket : TicketRow} (hticket : store.leasedTicket ticketId workerId now = some ticket) :
    store.Sourced ticket.dispatch ticket.tokenId :=
  h.tickets ticket (List.mem_of_find?_eq_some hticket)

theorem marking_of_tokenId {tokenId : String}
    (hrow : row ∈ store.tokens.rows) (hinstallation : row.installationId = request.installationId)
    (hid : row.tokenId = tokenId) {other : TokenRow} (hother : other ∈ store.tokens.rows) :
    (other.tokenId == tokenId && other.deliveryState == .active) = marking request other := by
  unfold marking
  by_cases heq : other = row
  · subst heq
    rw [hid, hinstallation, beq_self_eq_true, beq_self_eq_true]
  · have hne_id : other.tokenId ≠ tokenId := fun hsame =>
      heq (TokenTable.eq_of_tokenId hother hrow (hsame.trans hid.symm))
    have hne_installation : other.installationId ≠ request.installationId := fun hsame =>
      heq (TokenTable.eq_of_installationId hother hrow (hsame.trans hinstallation.symm))
    rw [beq_eq_false_iff_ne.mpr hne_id, beq_eq_false_iff_ne.mpr hne_installation]

theorem tokensMove_completeReceipt (h : Known store) (ticketId workerId : String) (now : ℤ)
    (result : ReceiptResult) :
    TokensMove store (.completeReceipt ticketId workerId now result) := by
  have hstep : store.step (.completeReceipt ticketId workerId now result) =
    store.completeReceipt ticketId workerId now result := rfl
  unfold DeliveryStore.completeReceipt at hstep
  cases hticket : store.leasedTicket ticketId workerId now with
  | none =>
    rw [hticket] at hstep
    refine .left ?_ (by rw [hstep])
    cases result with
    | delivered => rfl
    | failed errorCode => cases errorCode <;> simp [unregistered, hticket]
  | some ticket =>
    rw [hticket] at hstep
    dsimp only at hstep
    by_cases hresult : result = .failed .deviceNotRegistered
    · rw [if_pos hresult] at hstep
      subst hresult
      obtain ⟨request, hrequest, hsent, row, hrow, hinstallation, hid⟩ :=
        leasedTicket_sourced h hticket
      refine .marked request ?_ hsent (h.bound _ request hrequest) ?_
      · simp [unregistered, hticket, hrequest]
      · rw [hstep]
        refine List.map_congr_left fun other hother => ?_
        exact TokenTable.updateRow_congr (marking_of_tokenId hrow hinstallation hid hother)
    · rw [if_neg hresult] at hstep
      refine .left ?_ (by rw [hstep]; rfl)
      cases result with
      | delivered => rfl
      | failed errorCode =>
        cases errorCode with
        | deviceNotRegistered => exact absurd rfl hresult
        | _ => rfl

theorem tokensMove_rebind (installationId pushToken : String)
    (hnone : store.unregistered event = none) (hstep : store.step event = store ∨
      store.step event = store.rebind installationId pushToken) : TokensMove store event := by
  rcases hstep with hsame | hrebind
  · exact .left hnone (by rw [hsame])
  · unfold DeliveryStore.rebind at hrebind
    split at hrebind
    · exact .left hnone (by rw [hrebind])
    · exact .bound hnone installationId pushToken (by rw [hrebind]; rfl)

theorem tokens_stepRun (hevent : ∀ i now, event ≠ .record i now) :
    (store.stepRun i dispatch dispatch.stage event).tokens = store.tokens := by
  unfold stepRun
  split
  · unfold DeliveryStore.markProviderSubmissionStarted abandonUnstartedDispatch
    split
    · rfl
    · split <;> rfl
  · unfold DeliveryStore.readDecryptedPushToken
    split
    · rfl
    · split <;> rfl
  · unfold DeliveryStore.authorizeProviderFetch
    split
    · rfl
    · split <;> rfl
  · rfl
  · exact absurd rfl (hevent _ _)
  · rfl

theorem tokensMove_run (hrun : runOf event = some i)
    (hnone : store.unregistered event = none) (hevent : ∀ i now, event ≠ .record i now) :
    TokensMove store event := by
  refine .left hnone ?_
  rw [step_of_runOf hrun]
  cases hdispatch : store.dispatches[i]? with
  | none => rfl
  | some dispatch => exact congrArg (·.rows) (tokens_stepRun hevent)

theorem tokensMove (h : Known store) (event : DeliveryEvent) : TokensMove store event := by
  cases event with
  | rebindPushToken installationId pushToken authorized =>
    refine tokensMove_rebind installationId pushToken rfl ?_
    cases authorized with
    | false => exact .inl rfl
    | true => exact .inr rfl
  | rebindPriceOnlyPushToken installationId pushToken authorized accountAuthority =>
    refine tokensMove_rebind installationId pushToken rfl ?_
    change store.rebindPriceOnlyPushToken _ _ _ _ = _ ∨
      store.rebindPriceOnlyPushToken _ _ _ _ = _
    unfold DeliveryStore.rebindPriceOnlyPushToken
    split
    · exact .inr rfl
    · exact .inl rfl
  | createAlertForRuleMatch installationId authorized =>
    refine .left rfl ?_
    change (store.createAlertForRuleMatch installationId authorized).tokens.rows = _
    unfold DeliveryStore.createAlertForRuleMatch
    split <;> rfl
  | claimNextDispatch now rows =>
    refine .left rfl ?_
    change (store.claimNextDispatch now rows).tokens.rows = _
    unfold DeliveryStore.claimNextDispatch
    split
    · rfl
    · split <;> rfl
  | markProviderSubmissionStarted | readDecryptedPushToken | authorizeProviderFetch | sent =>
    exact tokensMove_run rfl rfl fun _ _ h => by cases h
  | record i now => exact tokensMove_record h i now
  | completeReceipt ticketId workerId now result =>
    exact tokensMove_completeReceipt h ticketId workerId now result
  | recoverExpiredDispatches | recoverExpiredReceiptLeases | claimDueReceipts | deferReceipt =>
    exact .left rfl rfl

/-! ### Verdicts -/

theorem pushToken_of_steady
    (hrow : row ∈ store.tokens.rows) (hinstallation : row.installationId = request.installationId)
    (hsent : request.pushToken.isSome = true)
    (hbound : ∀ pushToken ∈ request.pushToken, ∃ row ∈ store.tokens.rows,
      row.installationId = request.installationId ∧ row.pushToken = request.rebound.getD pushToken)
    (hsteady : ∀ pushToken ∈ request.rebound, request.pushToken = some pushToken) :
    request.pushToken = some row.pushToken := by
  obtain ⟨pushToken, hpushToken⟩ := Option.isSome_iff_exists.mp hsent
  obtain ⟨found, hfound, hfound_installation, htoken⟩ := hbound pushToken hpushToken
  have heq : found = row := TokenTable.eq_of_installationId hfound hrow
    (hfound_installation.trans hinstallation.symm)
  subst heq
  rw [htoken]
  cases hrebound : request.rebound with
  | none => exact hpushToken
  | some rebound => exact hsteady rebound hrebound

theorem marking_iff :
    marking request row = true ↔
      row.installationId = request.installationId ∧ row.deliveryState = .active := by
  unfold marking
  rw [Bool.and_eq_true, beq_iff_eq, beq_iff_eq]

theorem steady_of_hitsOwnToken (h : Known store)
    (hhits : store.HitsOwnToken event) : store.Steady event := by
  intro request hrequest hdeliverable rebound hrebound
  obtain ⟨row, hrow, hinstallation, hactive⟩ := TokenTable.activeRow_isSome_iff.mp hdeliverable
  rcases tokensMove h event with ⟨hnone, -⟩ | ⟨hnone, -⟩ | ⟨found, hfound, hsent, hbound, hrows⟩
  · rw [hnone] at hrequest
    cases hrequest
  · rw [hnone] at hrequest
    cases hrequest
  · rw [hfound] at hrequest
    cases hrequest
    have hmarked : TokenTable.updateRow (marking request) (·.pushToken) .invalid row =
        { row with pushToken := row.pushToken, deliveryState := .invalid } :=
      TokenTable.updateRow_of (marking_iff.mpr ⟨hinstallation, hactive⟩)
    obtain ⟨answered, hanswered, htoken⟩ := hhits.marked row hrow hactive
      (TokenTable.updateRow (marking request) (·.pushToken) .invalid row)
      (by rw [hrows]; exact List.mem_map_of_mem hrow)
      (TokenTable.tokenId_updateRow _ _ _ row) (by rw [hmarked])
    rw [hfound] at hanswered
    cases hanswered
    obtain ⟨bound, hbound_mem, hbound_installation, hbound_token⟩ := hbound _ htoken
    rw [TokenTable.eq_of_installationId hbound_mem hrow
      (hbound_installation.trans hinstallation.symm), hrebound] at hbound_token
    rw [htoken, hbound_token]
    rfl

theorem marked_of_steady (h : Known store) (hsteady : store.Steady event)
    (hrequest : store.unregistered event = some request) :
    (store.step event).tokens.rows = store.tokens.rows.map
        (TokenTable.updateRow (marking request) (·.pushToken) .invalid) ∧
      ∀ row ∈ store.tokens.rows, marking request row = true →
        request.pushToken = some row.pushToken := by
  rcases tokensMove h event with ⟨hnone, -⟩ | ⟨hnone, -⟩ | ⟨found, hfound, hsent, hbound, hrows⟩
  · rw [hnone] at hrequest
    cases hrequest
  · rw [hnone] at hrequest
    cases hrequest
  · rw [hfound] at hrequest
    cases hrequest
    refine ⟨hrows, fun row hrow hmarking => ?_⟩
    obtain ⟨hinstallation, hactive⟩ := marking_iff.mp hmarking
    exact pushToken_of_steady hrow hinstallation hsent hbound
      (hsteady request hfound (TokenTable.activeRow_isSome_iff.mpr
        ⟨row, hrow, hinstallation, hactive⟩))

theorem kept_of_steady (h : Known store) (hsteady : store.Steady event)
    (hrequest : store.unregistered event = some request)
    (hrow : row ∈ store.tokens.rows) (hother : request.pushToken ≠ some row.pushToken) :
    row ∈ (store.step event).tokens.rows := by
  obtain ⟨hrows, hmarked⟩ := marked_of_steady h hsteady hrequest
  have hnot : marking request row = false :=
    Bool.eq_false_iff.mpr fun hmarking => hother (hmarked row hrow hmarking)
  rw [hrows]
  exact List.mem_map.mpr ⟨row, hrow, TokenTable.updateRow_of_not hnot⟩

theorem hitsOwnToken_of_steady (h : Known store)
    (hsteady : store.Steady event) : store.HitsOwnToken event where
  marked row hrow hactive row' hrow' hid hinvalid := by
    rcases tokensMove h event with ⟨-, hrows⟩ | ⟨-, installationId, pushToken, hrows⟩ |
      ⟨request, hrequest, -, -, hrows⟩
    · rw [hrows] at hrow'
      rw [TokenTable.eq_of_tokenId hrow' hrow hid, hactive] at hinvalid
      cases hinvalid
    · rw [hrows] at hrow'
      rw [TokenTable.eq_updateRow hrow hrow' hid] at hinvalid
      unfold TokenTable.updateRow at hinvalid
      split at hinvalid
      · cases hinvalid
      · rw [hactive] at hinvalid
        cases hinvalid
    · rw [hrows] at hrow'
      refine ⟨request, hrequest, (marked_of_steady h hsteady hrequest).2 row hrow ?_⟩
      by_contra hnot
      rw [TokenTable.eq_updateRow hrow hrow' hid,
        TokenTable.updateRow_of_not (Bool.eq_false_iff.mpr hnot), hactive] at hinvalid
      cases hinvalid
  kept request hrequest row hrow _ hother := kept_of_steady h hsteady hrequest hrow hother
  claimable request hrequest entry hothers hclaimable := by
    unfold claimable at hclaimable ⊢
    rw [Bool.and_eq_true] at hclaimable ⊢
    obtain ⟨row, hrow, hinstallation, hactive⟩ :=
      TokenTable.activeRow_isSome_iff.mp hclaimable.2
    refine ⟨hclaimable.1, TokenTable.activeRow_isSome_iff.mpr ⟨row, ?_, hinstallation, hactive⟩⟩
    exact kept_of_steady h hsteady hrequest hrow (hothers row hrow hinstallation)

theorem hitsOwnToken_iff (h : Known store) (event : DeliveryEvent) :
    store.HitsOwnToken event ↔ store.Steady event :=
  ⟨steady_of_hitsOwnToken h, hitsOwnToken_of_steady h⟩

/-! ### Runs -/

def initial (tokens : TokenTable) : DeliveryStore := ⟨tokens, [], [], []⟩

theorem known_initial (tokens : TokenTable) : Known (initial tokens) where
  bound _ _ h := by cases h
  read _ _ h := by cases h
  tickets _ h := by cases h

theorem along_hitsOwnToken_iff (h : Known store) (events : List DeliveryEvent) :
    Along DeliveryStore.step HitsOwnToken store events ↔
      Along DeliveryStore.step Steady store events :=
  @along_iff_of_invariant _ _ DeliveryStore.step HitsOwnToken Steady Known
    (fun _ event h => step_known event h) (fun _ event h => hitsOwnToken_iff h event) store h
    events

end DeliveryStore

/-- **Every verdict of a run hits the token its request was sent to** exactly where
no installation has been bound to another token between the reading of the token
for a request and the verdict on it. -/
theorem verdicts_hit_own_token_iff (tokens : TokenTable) (events : List DeliveryEvent) :
    Along DeliveryStore.step DeliveryStore.HitsOwnToken (DeliveryStore.initial tokens) events ↔
      Along DeliveryStore.step DeliveryStore.Steady (DeliveryStore.initial tokens) events :=
  DeliveryStore.along_hitsOwnToken_iff (DeliveryStore.known_initial tokens) events

def firstBinding : TokenTable where
  rows := [⟨"token", "installation", "ExponentPushToken[first]", .active⟩]
  ids := by decide
  installations := by decide

/-- The installation is bound to its second token while its first is refused. -/
def reboundInFlight : List DeliveryEvent :=
  [.createAlertForRuleMatch "installation" true, .claimNextDispatch 0 [0],
    .markProviderSubmissionStarted 0 1 true, .readDecryptedPushToken 0 2 true true,
    .authorizeProviderFetch 0 3 true 3,
    .rebindPriceOnlyPushToken "installation" "ExponentPushToken[second]" true false,
    .sent 0 (.rejected .deviceNotRegistered), .record 0 4]

/-- The verdict on the first token marks the second. -/
theorem verdict_hits_other_token :
    ¬ ∀ (tokens : TokenTable) (events : List DeliveryEvent),
      Along DeliveryStore.step DeliveryStore.HitsOwnToken (DeliveryStore.initial tokens)
        events := by
  intro hall
  have hsteady := (DeliveryStore.along_hitsOwnToken_iff
    (DeliveryStore.known_initial firstBinding) reboundInFlight).mp
      (hall firstBinding reboundInFlight)
  revert hsteady
  decide

end Delivery

end HyperTrader
