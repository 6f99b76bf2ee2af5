import HyperTrader.Library.Machine
import HyperTrader.Notifications.Requests

/-!
# Rules that are put again

A rule is inserted under its id, or takes the place of the installation's rule of that id
and scope. An alert refers to the rule that it was made for by its id, its installation and
its network, so as long as an alert of a rule is kept, the network of the rule cannot be
changed: the put fails with the violation of the alert's reference.
-/

namespace HyperTrader

open Library

namespace Notifications

def RuleScope.text : RuleScope → String
  | .price => "price"
  | .account => "account"

namespace NotificationEventType

def text : NotificationEventType → String
  | .fill => "fill"
  | .cancellation => "cancellation"
  | .rejection => "rejection"
  | .marginRisk => "margin_risk"
  | .liquidationRisk => "liquidation_risk"
  | .priceAbove => "price_above"
  | .priceBelow => "price_below"
  | .fundingAbove => "funding_above"
  | .fundingBelow => "funding_below"

/-- `eventType.startsWith("price_")` -/
def isPrice (eventType : NotificationEventType) : Bool :=
  eventType = .priceAbove || eventType = .priceBelow

end NotificationEventType

structure CreateRuleRequest where
  ruleId : String
  scope : RuleScope
  network : NotificationNetwork
  marketId : String
  eventType : NotificationEventType
  threshold : String
  accountLinkId : Option String

namespace CreateRuleRequest

variable (primitives : StorePrimitives) (rule : CreateRuleRequest)

def ruleIdentityDigest : String :=
  primitives.operationDigest "rule-identity/v1" (.object [
    ("accountLinkId", (rule.accountLinkId.map Json.string).getD .null),
    ("eventType", .string rule.eventType.text), ("marketId", .string rule.marketId),
    ("network", .string (networkText rule.network)), ("scope", .string rule.scope.text),
    ("threshold", .string rule.threshold)])

def accountRuleDigest : String :=
  primitives.operationDigest "account-rule/v1" (.object (
    (rule.accountLinkId.map fun id => ("accountLinkId", Json.string id)).toList ++ [
    ("eventType", .string rule.eventType.text), ("marketId", .string rule.marketId),
    ("network", .string (networkText rule.network)), ("ruleId", .string rule.ruleId),
    ("scope", .string rule.scope.text), ("threshold", .string rule.threshold)]))

def row (installationId : String) : RuleRow where
  ruleId := rule.ruleId
  installationId := installationId
  accountLinkId :=
    match rule.scope with
    | .price => none
    | .account => rule.accountLinkId
  scope := rule.scope
  network := rule.network
  marketId := rule.marketId
  eventType := rule.eventType
  threshold := rule.threshold
  identityDigest := rule.ruleIdentityDigest primitives
  active := true

end CreateRuleRequest

def checkViolation : StoreFailure := .database "23514"

/-- The `CHECK` on the scope of a rule. -/
def RuleRow.checked (row : RuleRow) : Bool :=
  match row.scope with
  | .price => row.accountLinkId.isNone && row.eventType.isPrice
  | .account => row.accountLinkId.isSome && !row.eventType.isPrice

def RuleRow.set (row old : RuleRow) : RuleRow :=
  { old with
    accountLinkId :=
      match row.scope with
      | .price => old.accountLinkId
      | .account => row.accountLinkId
    network := row.network
    marketId := row.marketId
    eventType := row.eventType
    threshold := row.threshold
    identityDigest := row.identityDigest
    active := true }

theorem RuleRow.ruleId_set (row old : RuleRow) : (row.set old).ruleId = old.ruleId := rfl

namespace Tables

variable (tables : Tables) (row : RuleRow)

def ruleForeign : Bool := (tables.rules.find? row.ruleId).any fun old =>
  old.installationId ≠ row.installationId || old.scope ≠ row.scope

/-- `UNIQUE (installation_id, identity_digest)` -/
def ruleIdentityTaken : Bool := tables.rules.rows.any fun other =>
  other.ruleId ≠ row.ruleId && other.installationId = row.installationId &&
    other.identityDigest = row.identityDigest

/-- What the rule refers to is missing: its installation, or its link on its network. -/
def ruleDangling : Bool :=
  (tables.installations.find? row.installationId).isNone ||
    row.accountLinkId.any fun accountLinkId =>
      !tables.accountLinks.rows.any fun link => link.accountLinkId = accountLinkId &&
        link.installationId = row.installationId && link.network = row.network

def ruleReferred : Bool := (tables.rules.find? row.ruleId).any fun old =>
  old.network ≠ row.network && tables.alerts.rows.any fun alert =>
    alert.ruleId = some old.ruleId && alert.installationId = old.installationId &&
      alert.network = old.network

end Tables

/-- The rules after `INSERT … ON CONFLICT (rule_id) DO UPDATE`. -/
def upsertedRules (rules : Keyed RuleRow.ruleId) (row : RuleRow) : Keyed RuleRow.ruleId :=
  match rules.insert? row with
  | some rules => rules
  | none => rules.update (fun other => other.ruleId = row.ruleId) row.set row.ruleId_set

/-- `INSERT INTO notification_rules … ON CONFLICT (rule_id) DO UPDATE`, with the message
when no row is returned. -/
def upsertRule (row : RuleRow) (message : String) : Statement Unit :=
  Transaction.write fun tables =>
    if row.checked = false then .error checkViolation
    else if tables.ruleForeign row then .error (.conflict message)
    else if tables.ruleIdentityTaken row then .error .uniqueViolation
    else if tables.ruleDangling row || tables.ruleReferred row then .error .foreignKeyViolation
    else .ok { tables with rules := upsertedRules tables.rules row }

def maxActiveRules : ℕ := 100

def otherActiveRules (tables : Tables) (installationId ruleId : String) : ℕ :=
  tables.rules.rows.countP fun rule =>
    rule.installationId = installationId && rule.active && rule.ruleId ≠ ruleId

def assertRuleQuota (installationId ruleId : String) : Statement Unit := do
  let tables ← Transaction.read
  Transaction.ensure (otherActiveRules tables installationId ruleId < maxActiveRules)
    (.conflict "active rule quota exhausted")

/-- The put of a rule, with the proof that an account rule needs; `limited` and `fault` are
the limit that is exceeded and the error of the database, if any. -/
structure RulePut where
  rule : CreateRuleRequest
  installationId : String
  credential : String
  proof : Option AccountProof
  limited : Option String
  fault : Option String
  now : ℤ

namespace RulePut

variable (primitives : StorePrimitives) (put : RulePut)

def row : RuleRow := put.rule.row primitives put.installationId

def putPriceRule : Statement Unit := do
  Transaction.ensure (put.rule.scope = .price)
    (.unauthorized "price rule authority is required")
  assertMutable
  let _ ← lockAuthenticatedInstallation put.installationId
    (primitives.hashInstallationCredential put.credential)
  admitMutationInTransaction put.limited
  assertRuleQuota put.installationId put.rule.ruleId
  upsertRule (put.row primitives) "rule belongs to another scope"

/-- The link is the installation's, is active, and is the one that the challenge was issued
for. -/
def bound (record : ChallengeRow) (link : AccountLinkRow) : Bool :=
  link.installationId = put.installationId && link.state = .active &&
    link.network = put.rule.network && link.network = record.network &&
    link.masterAccount = record.masterAccount && link.targetAccount = record.targetAccount

/-- The transaction of `putAccountRule`; the proof has been verified before, in the same way. -/
def accountRuleStatement (proof : AccountProof) : Statement Unit := do
  let credentialHash := primitives.hashInstallationCredential put.credential
  let challengeHash := primitives.sha256 proof.challenge
  Transaction.ensure (put.rule.scope = .account ∧ put.rule.accountLinkId.isSome = true)
    (.unauthorized "account rule authority is required")
  assertMutable
  let _ ← lockAuthenticatedInstallation put.installationId credentialHash
  admitMutationInTransaction put.limited
  let record ← loadChallenge challengeHash put.installationId credentialHash
  Transaction.ensure (record.purpose = .accountRuleMutation)
    (.unauthorized "challenge purpose is invalid")
  Transaction.ensure (record.operationDigest = put.rule.accountRuleDigest primitives)
    (.unauthorized "account-rule operation digest is invalid")
  let tables ← Transaction.read
  Transaction.ensure (((put.rule.accountLinkId.bind tables.accountLinks.find?).any
      (put.bound record)) = true)
    (.unauthorized "account-rule link binding is invalid")
  Transaction.check fun _ => verifyAccountProof primitives record proof (milliseconds put.now)
  assertRuleQuota put.installationId put.rule.ruleId
  consumeChallenge challengeHash put.now
  upsertRule (put.row primitives) "rule belongs to another authority scope"

def statement : Statement Unit :=
  match put.proof with
  | none => put.putPriceRule primitives
  | some proof => conflictOnUnique (put.accountRuleStatement primitives proof)

end RulePut

structure RuleMatch where
  ruleId : String
  identityDigest : String
  eventKey : String
  category : AlertCategory
  routeHint : AlertRoute

/-- The active rule of a match, with the generations of its installation and of its link. -/
def matchedRule (tables : Tables) (input : RuleMatch) : Option (RuleRow × ℕ × Option ℕ) := do
  let rule ← (tables.rules.find? input.ruleId).filter fun rule =>
    rule.identityDigest = input.identityDigest && rule.active &&
      tables.pushTokens.rows.any fun token =>
        token.installationId = rule.installationId && token.deliverable
  let installation ← (tables.installations.find? rule.installationId).filter fun row =>
    row.state = .active
  match rule.accountLinkId with
  | none => some (rule, installation.revocationGeneration, none)
  | some accountLinkId =>
    let link ← (tables.accountLinks.find? accountLinkId).filter fun link =>
      link.installationId = rule.installationId && link.state = .active
    some (rule, installation.revocationGeneration, some link.revocationGeneration)

/-- `INSERT INTO notification_alerts` and `INSERT INTO notification_outbox` -/
def insertAlert (input : RuleMatch) (rule : RuleRow) (installationGeneration : ℕ)
    (linkGeneration : Option ℕ) (alertId outboxId : String) (now : ℤ) : Statement Unit :=
  Transaction.write fun tables =>
    match tables.alerts.insert? {
        alertId := alertId
        installationId := rule.installationId
        accountLinkId := rule.accountLinkId
        accountLinkScopeId := rule.accountLinkId
        deletionId := none
        ruleId := some input.ruleId
        category := input.category
        network := rule.network
        routeHint := input.routeHint
        createdAt := now },
      tables.outbox.insert? {
        outboxId := outboxId
        alertId := alertId
        installationId := rule.installationId
        accountLinkId := rule.accountLinkId
        accountLinkScopeId := rule.accountLinkId
        accountLinkGeneration := linkGeneration
        deletionId := none
        network := rule.network
        revocationGeneration := installationGeneration
        state := .pending
        leaseOwner := none
        leaseExpiresAt := none
        claimAttempts := 0
        providerErrorCode := none } with
    | some alerts, some outbox => .ok { tables with
        alerts := alerts, outbox := outbox, dedupeKeys := input.eventKey :: tables.dedupeKeys }
    | _, _ => .error .uniqueViolation

def createAlertForRuleMatch (input : RuleMatch) (alertId outboxId : String) (now : ℤ) :
    Statement Unit := do
  Transaction.ensure (installationIdPattern.test input.ruleId = true ∧
      digestPattern.test input.identityDigest = true ∧ digestPattern.test input.eventKey = true)
    (.conflict "notification alert input is invalid")
  Transaction.check fun tables => tables.service.assertMonitorsEnabled
  let tables ← Transaction.read
  match matchedRule tables input with
  | none => Transaction.fail (.unauthorized "notification rule is not active")
  | some (rule, installationGeneration, linkGeneration) =>
    if input.eventKey ∈ tables.dedupeKeys then pure ()
    else insertAlert input rule installationGeneration linkGeneration alertId outboxId now

/-- What the schema says of rules and alerts: a rule passes its check, and the rule that an
alert refers to is there, of its installation and network. -/
structure Referential (tables : Tables) : Prop where
  checked : ∀ rule ∈ tables.rules.rows, rule.checked = true
  references : ∀ alert ∈ tables.alerts.rows, ∀ ruleId, alert.ruleId = some ruleId →
    ∃ rule, tables.rules.find? ruleId = some rule ∧
      rule.installationId = alert.installationId ∧ rule.network = alert.network

inductive RuleEvent where
  | put (put : RulePut)
  | createAlertForRuleMatch (input : RuleMatch) (alertId outboxId : String)
      (fault : Option String) (now : ℤ)
  /-- The rest of the store and the clean-up write what the schema allows. -/
  | elsewhere (tables : Tables) (h : Referential tables)

def stepRules (primitives : StorePrimitives) (tables : Tables) : RuleEvent → Tables
  | .put put =>
    (Transaction.atomically (put.fault.map .database) (put.statement primitives) tables).2
  | .createAlertForRuleMatch input alertId outboxId fault now =>
    (Transaction.atomically (fault.map .database)
      (createAlertForRuleMatch input alertId outboxId now) tables).2
  | .elsewhere tables _ => tables

/-! ### What a put does to the rules -/

variable {primitives : StorePrimitives} {tables tables' : Tables} {row : RuleRow}
  {message : String} {u : Unit}

theorem upsertRule_eq_ok : upsertRule row message tables = .ok (u, tables') ↔
    row.checked = true ∧ tables.ruleForeign row = false ∧
      tables.ruleIdentityTaken row = false ∧ tables.ruleDangling row = false ∧
      tables.ruleReferred row = false ∧
      { tables with rules := upsertedRules tables.rules row } = tables' := by
  unfold upsertRule
  rw [Transaction.write_eq_ok]
  cases row.checked <;> cases tables.ruleForeign row <;>
    cases tables.ruleIdentityTaken row <;> cases tables.ruleDangling row <;>
    cases tables.ruleReferred row <;> simp

theorem RuleRow.set_eq {old : RuleRow} (hid : old.ruleId = row.ruleId)
    (hinstallation : old.installationId = row.installationId) (hscope : old.scope = row.scope)
    (hold : old.checked = true) (hrow : row.checked = true) (hactive : row.active = true) :
    row.set old = row := by
  obtain ⟨ruleId, installationId, accountLinkId, scope, network, marketId, eventType,
    threshold, identityDigest, active⟩ := row
  obtain ⟨_, _, oldLinkId, oldScope, _, _, _, _, _, _⟩ := old
  dsimp only at hid hinstallation hscope hactive
  subst hid hinstallation hscope hactive
  cases oldScope with
  | account => rfl
  | price =>
    unfold RuleRow.checked at hold hrow
    simp only [Bool.and_eq_true, Option.isNone_iff_eq_none] at hold hrow
    rw [hold.1, hrow.1]
    rfl

theorem find?_upsertedRules (h : Referential tables) (hforeign : tables.ruleForeign row = false)
    (hrow : row.checked = true) (hactive : row.active = true) (id : String) :
    (upsertedRules tables.rules row).find? id =
      if row.ruleId = id then some row else tables.rules.find? id := by
  unfold upsertedRules
  cases hinsert : tables.rules.insert? row with
  | some rules => exact Keyed.find?_insert hinsert
  | none =>
    dsimp only
    rw [Keyed.find?_update]
    cases hfound : tables.rules.find? id with
    | none =>
      rw [Option.map_none]
      split
      · rename_i hid
        have hnew : ∀ other ∈ tables.rules.rows, other.ruleId ≠ row.ruleId :=
          Keyed.find?_eq_none.mp (hid ▸ hfound)
        unfold Keyed.insert? at hinsert
        rw [dif_pos hnew] at hinsert
        cases hinsert
      · rfl
    | some old =>
      obtain ⟨hmem, hold⟩ := Keyed.find?_eq_some.mp hfound
      rw [Option.map_some]
      by_cases hid : row.ruleId = id
      · rw [if_pos hid]
        unfold Tables.ruleForeign at hforeign
        rw [hid, hfound] at hforeign
        simp only [Option.any_some, Bool.or_eq_false_iff, decide_eq_false_iff_not,
          not_not] at hforeign
        rw [if_pos (decide_eq_true (hold.trans hid.symm)),
          RuleRow.set_eq (hold.trans hid.symm) hforeign.1 hforeign.2 (h.checked old hmem)
            hrow hactive]
      · have hother : ¬ old.ruleId = row.ruleId := fun hsame =>
          hid (hsame.symm.trans hold)
        rw [if_neg hid, if_neg (by simpa using hother)]

def RulePut.Changeable (put : RulePut) (tables : Tables) : Prop :=
  ∀ old, tables.rules.find? put.rule.ruleId = some old → old.network = put.rule.network ∨
    ∀ alert ∈ tables.alerts.rows, alert.ruleId ≠ some put.rule.ruleId

theorem ruleReferred_iff (h : Referential tables) (put : RulePut) :
    tables.ruleReferred (put.row primitives) = false ↔ put.Changeable tables := by
  unfold Tables.ruleReferred RulePut.Changeable
  change (tables.rules.find? put.rule.ruleId).any _ = false ↔ _
  cases hfound : tables.rules.find? put.rule.ruleId with
  | none => simp
  | some old =>
    obtain ⟨-, hold⟩ := Keyed.find?_eq_some.mp hfound
    rw [Option.any_some, Bool.and_eq_false_iff, decide_eq_false_iff_not, not_not, List.any_eq_false]
    simp only [Option.some.injEq, forall_eq']
    refine or_congr_right (forall₂_congr fun alert halert => not_congr ?_)
    simp only [Bool.and_eq_true, decide_eq_true_iff]
    constructor
    · rintro ⟨⟨hid, -⟩, -⟩
      rw [hid, hold]
    · intro hid
      obtain ⟨rule, hrule, hinstallation, hnetwork⟩ := h.references alert halert _ hid
      cases hfound.symm.trans hrule
      exact ⟨⟨hid.trans (congrArg some hold.symm), hinstallation.symm⟩, hnetwork.symm⟩

theorem Referential.upsertRule (h : Referential tables) (hactive : row.active = true)
    (hok : upsertRule row message tables = .ok (u, tables')) : Referential tables' := by
  obtain ⟨hrow, hforeign, -, -, hreferred, rfl⟩ := upsertRule_eq_ok.mp hok
  have hfind := find?_upsertedRules h hforeign hrow hactive
  constructor
  · intro rule hrule
    rw [Keyed.mem_iff_find?, hfind] at hrule
    split at hrule
    · cases hrule
      exact hrow
    · exact h.checked rule (Keyed.find?_eq_some.mp hrule).1
  · intro alert halert ruleId hid
    obtain ⟨old, hold, hinstallation, hnetwork⟩ := h.references alert halert ruleId hid
    dsimp only
    rw [hfind]
    split
    · rename_i hsame
      refine ⟨row, rfl, ?_, ?_⟩
      · unfold Tables.ruleForeign at hforeign
        rw [hsame, hold] at hforeign
        simp only [Option.any_some, Bool.or_eq_false_iff, decide_eq_false_iff_not,
          not_not] at hforeign
        exact hforeign.1.symm.trans hinstallation
      · unfold Tables.ruleReferred at hreferred
        rw [hsame, hold, Option.any_some, Bool.and_eq_false_iff, decide_eq_false_iff_not,
          not_not, List.any_eq_false] at hreferred
        rcases hreferred with hsameNetwork | hnone
        · exact hsameNetwork.symm.trans hnetwork
        · refine absurd ?_ (hnone alert halert)
          have holdId := (Keyed.find?_eq_some.mp hold).2
          simp [hid, holdId, hinstallation, hnetwork]
    · exact ⟨old, hold, hinstallation, hnetwork⟩

/-! ### The transactions -/

theorem assertRuleQuota_eq_ok {installationId ruleId : String} :
    assertRuleQuota installationId ruleId tables = .ok (u, tables') ↔
      otherActiveRules tables installationId ruleId < maxActiveRules ∧ tables = tables' := by
  unfold assertRuleQuota
  simp only [Transaction.bind_eq_ok, Transaction.read_eq_ok, Transaction.ensure_eq_ok]
  constructor
  · rintro ⟨_, _, ⟨rfl, rfl⟩, hquota, rfl⟩
    exact ⟨hquota, rfl⟩
  · rintro ⟨hquota, rfl⟩
    exact ⟨_, _, ⟨rfl, rfl⟩, hquota, rfl⟩

theorem consumeChallenge_eq_ok {challengeHash : String} {now : ℤ}
    (h : consumeChallenge challengeHash now tables = .ok (u, tables')) :
    ∃ challenges, tables' = { tables with challenges := challenges } := by
  unfold consumeChallenge at h
  simp only [Transaction.bind_eq_ok, Transaction.read_eq_ok, Transaction.ensure_eq_ok,
    change_eq_ok] at h
  obtain ⟨_, _, ⟨rfl, rfl⟩, _, _, ⟨-, rfl⟩, rfl⟩ := h
  exact ⟨_, rfl⟩

theorem upsert_of_put {put : RulePut} (h : put.statement primitives tables = .ok (u, tables')) :
    ∃ message challenges, upsertRule (put.row primitives) message
      { tables with challenges := challenges } = .ok (u, tables') := by
  unfold RulePut.statement at h
  cases hproof : put.proof with
  | none =>
    rw [hproof] at h
    unfold RulePut.putPriceRule at h
    simp only [Transaction.bind_eq_ok, Transaction.ensure_eq_ok, assertMutable_eq_ok,
      lockAuthenticated_eq_ok, admitMutation_eq_ok, assertRuleQuota_eq_ok] at h
    obtain ⟨_, _, ⟨-, rfl⟩, _, _, ⟨-, rfl⟩, _, _, ⟨-, rfl⟩, _, _, ⟨-, rfl⟩, _, _, ⟨-, rfl⟩,
      hupsert⟩ := h
    exact ⟨_, tables.challenges, hupsert⟩
  | some proof =>
    rw [hproof] at h
    dsimp only at h
    rw [conflictOnUnique_eq_ok] at h
    unfold RulePut.accountRuleStatement loadChallenge at h
    simp only [Transaction.bind_eq_ok, Transaction.ensure_eq_ok, assertMutable_eq_ok,
      lockAuthenticated_eq_ok, admitMutation_eq_ok, Transaction.read_eq_ok,
      Transaction.check_eq_ok, assertRuleQuota_eq_ok] at h
    obtain ⟨_, _, ⟨-, rfl⟩, _, _, ⟨-, rfl⟩, _, _, ⟨-, rfl⟩, _, _, ⟨-, rfl⟩, _, _, ⟨-, rfl⟩,
      _, _, ⟨-, rfl⟩, _, _, ⟨-, rfl⟩, _, _, ⟨rfl, rfl⟩, _, _, ⟨-, rfl⟩, _, _, ⟨-, rfl⟩,
      _, _, ⟨-, rfl⟩, _, _, hconsumed, hupsert⟩ := h
    obtain ⟨challenges, rfl⟩ := consumeChallenge_eq_ok hconsumed
    exact ⟨_, challenges, hupsert⟩

theorem createAlert_cases {input : RuleMatch} {alertId outboxId : String} {now : ℤ}
    (h : createAlertForRuleMatch input alertId outboxId now tables = .ok (u, tables')) :
    tables'.rules = tables.rules ∧ (tables'.alerts = tables.alerts ∨
      ∃ alert rule, tables'.alerts.rows = tables.alerts.rows ++ [alert] ∧
        alert.ruleId = some input.ruleId ∧ tables.rules.find? input.ruleId = some rule ∧
        rule.installationId = alert.installationId ∧ rule.network = alert.network) := by
  unfold createAlertForRuleMatch at h
  simp only [Transaction.bind_eq_ok, Transaction.ensure_eq_ok, Transaction.check_eq_ok,
    Transaction.read_eq_ok] at h
  obtain ⟨_, _, ⟨-, rfl⟩, _, _, ⟨-, rfl⟩, _, _, ⟨rfl, rfl⟩, h⟩ := h
  cases hmatched : matchedRule tables input with
  | none =>
    rw [hmatched] at h
    cases h
  | some found =>
    obtain ⟨rule, installationGeneration, linkGeneration⟩ := found
    rw [hmatched] at h
    dsimp only at h
    split at h
    · obtain ⟨-, rfl⟩ := Transaction.pure_eq_ok.mp h
      exact ⟨rfl, .inl rfl⟩
    · unfold insertAlert at h
      rw [Transaction.write_eq_ok] at h
      split at h
      · rename_i alerts outbox halerts houtbox
        cases h
        have hrule : tables.rules.find? input.ruleId = some rule := by
          unfold matchedRule at hmatched
          obtain ⟨first, hfirst, hmatched⟩ := Option.bind_eq_some_iff.mp hmatched
          obtain ⟨installation, -, hmatched⟩ := Option.bind_eq_some_iff.mp hmatched
          rw [Option.filter_eq_some_iff] at hfirst
          cases hlink : first.accountLinkId with
          | none =>
            rw [hlink] at hmatched
            cases hmatched
            exact hfirst.1
          | some accountLinkId =>
            rw [hlink] at hmatched
            obtain ⟨link, -, hmatched⟩ := Option.bind_eq_some_iff.mp hmatched
            cases hmatched
            exact hfirst.1
        exact ⟨rfl, .inr ⟨_, rule, (Keyed.insert?_eq_some.mp halerts).2, rfl, hrule, rfl, rfl⟩⟩
      · cases h

theorem Referential.atomically {α : Type} {statement : Statement α} (h : Referential tables)
    (fault : Option StoreFailure)
    (hstatement : ∀ a after, statement tables = .ok (a, after) → Referential after) :
    Referential (Transaction.atomically fault statement tables).2 := by
  rcases Transaction.atomically_cases fault statement tables with
    hsame | ⟨a, after, hok, hresult⟩
  · rw [hsame]
    exact h
  · rw [hresult]
    exact hstatement a after hok

theorem Referential.step (h : Referential tables) (event : RuleEvent) :
    Referential (stepRules primitives tables event) := by
  cases event with
  | put put =>
    refine h.atomically _ fun a after hok => ?_
    obtain ⟨message, challenges, hupsert⟩ := upsert_of_put hok
    have hchallenges : Referential { tables with challenges := challenges } :=
      ⟨h.checked, h.references⟩
    exact hchallenges.upsertRule rfl hupsert
  | createAlertForRuleMatch input alertId outboxId fault now =>
    refine h.atomically _ fun a after hok => ?_
    obtain ⟨hrules, halerts⟩ := createAlert_cases hok
    constructor
    · rw [hrules]
      exact h.checked
    · rw [hrules]
      rcases halerts with hsame | ⟨alert, rule, hrows, hid, hrule, hinstallation, hnetwork⟩
      · rw [hsame]
        exact h.references
      · rw [hrows, List.forall_mem_append]
        refine ⟨h.references, List.forall_mem_singleton.mpr fun ruleId hsame => ?_⟩
        cases hid.symm.trans hsame
        exact ⟨rule, hrule, hinstallation, hnetwork⟩
  | elsewhere other hother => exact hother

/-! ### Puts that should commit -/

structure Proven (primitives : StorePrimitives) (tables : Tables) (put : RulePut)
    (proof : AccountProof) (record : ChallengeRow) (link : AccountLinkRow) : Prop where
  scope : put.rule.scope = .account
  challenge : tables.challenges.find? (primitives.sha256 proof.challenge) = some record
  issued : record.installationId = put.installationId ∧
    record.credentialHash = primitives.hashInstallationCredential put.credential
  purpose : record.purpose = .accountRuleMutation
  digest : record.operationDigest = put.rule.accountRuleDigest primitives
  linked : put.rule.accountLinkId.bind tables.accountLinks.find? = some link
  bound : put.bound record link = true
  verified : verifyAccountProof primitives record proof (milliseconds put.now) = .ok ()
  unexpired : put.now < record.expiresAt * 1000

/-- A valid rule of an active installation within the quota, of its own scope, and like none
of the installation's other rules. -/
structure Admissible (primitives : StorePrimitives) (tables : Tables) (put : RulePut) : Prop where
  mutable : tables.service.serving = true ∧ tables.service.mutationsEnabled = true
  unlimited : put.limited = none
  answered : put.fault = none
  active : ∃ installation, tables.installations.find? put.installationId = some installation ∧
    installation.credentialHash = some (primitives.hashInstallationCredential put.credential) ∧
    installation.state = .active
  valid : (put.row primitives).checked = true
  quota : otherActiveRules tables put.installationId put.rule.ruleId < maxActiveRules
  own : tables.ruleForeign (put.row primitives) = false
  differs : tables.ruleIdentityTaken (put.row primitives) = false
  proof : (put.proof = none ∧ put.rule.scope = .price) ∨ ∃ proof record link,
    put.proof = some proof ∧ Proven primitives tables put proof record link

theorem ruleDangling_of_price {put : RulePut} (hscope : put.rule.scope = .price)
    (h : (tables.installations.find? put.installationId).isSome = true) :
    tables.ruleDangling (put.row primitives) = false := by
  have hlink : (put.row primitives).accountLinkId = none := by
    unfold RulePut.row CreateRuleRequest.row
    rw [hscope]
  have hinstallation : (put.row primitives).installationId = put.installationId := rfl
  unfold Tables.ruleDangling
  rw [hlink, hinstallation, Option.any_none, Bool.or_false, ← Option.not_isSome, h]
  rfl

theorem Proven.ruleDangling {put : RulePut} {proof : AccountProof} {record : ChallengeRow}
    {link : AccountLinkRow} (h : Proven primitives tables put proof record link)
    (hinstallation : (tables.installations.find? put.installationId).isSome = true) :
    tables.ruleDangling (put.row primitives) = false := by
  obtain ⟨accountLinkId, hid, hlink⟩ := Option.bind_eq_some_iff.mp h.linked
  obtain ⟨hmem, hkey⟩ := Keyed.find?_eq_some.mp hlink
  have hbound := h.bound
  unfold RulePut.bound at hbound
  simp only [Bool.and_eq_true, decide_eq_true_iff] at hbound
  have hrow : (put.row primitives).accountLinkId = some accountLinkId := by
    unfold RulePut.row CreateRuleRequest.row
    rw [h.scope]
    exact hid
  unfold Tables.ruleDangling
  rw [hrow, Option.any_some, Bool.or_eq_false_iff, Bool.not_eq_false', List.any_eq_true]
  refine ⟨?_, link, hmem, ?_⟩
  · rw [← Option.not_isSome]
    exact congrArg not hinstallation
  · simp only [Bool.and_eq_true, decide_eq_true_iff]
    exact ⟨⟨hkey, hbound.1.1.1.1.1⟩, hbound.1.1.1.2⟩

theorem Admissible.statement {put : RulePut} (h : Admissible primitives tables put)
    (hreferred : tables.ruleReferred (put.row primitives) = false) : ∃ challenges,
      put.statement primitives tables = .ok ((), { tables with
        challenges := challenges, rules := upsertedRules tables.rules (put.row primitives) }) := by
  obtain ⟨installation, hinstallation⟩ := h.active
  have hsome : (tables.installations.find? put.installationId).isSome = true := by
    rw [hinstallation.1]
    rfl
  rcases h.proof with ⟨hnone, hscope⟩ | ⟨proof, record, link, hproof, hproven⟩
  · refine ⟨tables.challenges, ?_⟩
    unfold RulePut.statement
    rw [hnone]
    unfold RulePut.putPriceRule
    simp only [Transaction.bind_eq_ok, Transaction.ensure_eq_ok, assertMutable_eq_ok,
      lockAuthenticated_eq_ok, admitMutation_eq_ok, assertRuleQuota_eq_ok]
    have hdangling : tables.ruleDangling (put.row primitives) = false :=
      ruleDangling_of_price hscope hsome
    exact ⟨(), _, ⟨hscope, rfl⟩, (), _, ⟨h.mutable, rfl⟩, _, _, ⟨hinstallation, rfl⟩, (), _,
      ⟨h.unlimited, rfl⟩, (), _, ⟨h.quota, rfl⟩,
      upsertRule_eq_ok.mpr ⟨h.valid, h.own, h.differs, hdangling, hreferred, rfl⟩⟩
  · have hmem := Keyed.find?_eq_some.mp hproven.challenge
    refine ⟨tables.challenges.update
      (fun challenge => challenge.challengeHash = primitives.sha256 proof.challenge)
      (fun challenge => { challenge with consumed := true }) fun _ => rfl, ?_⟩
    have hpending := (verifyAccountProof_eq_ok hproven.verified).pending
    have haccount : put.rule.accountLinkId.isSome = true := by
      obtain ⟨accountLinkId, hid, -⟩ := Option.bind_eq_some_iff.mp hproven.linked
      rw [hid]
      rfl
    have hconsumable : (tables.challenges.rows.any fun challenge =>
        challenge.challengeHash = primitives.sha256 proof.challenge && !challenge.consumed &&
          put.now < challenge.expiresAt * 1000) = true := by
      rw [List.any_eq_true]
      refine ⟨record, hmem.1, ?_⟩
      rw [hpending, hmem.2, decide_eq_true hproven.unexpired]
      simp
    have hloaded : loadChallenge (primitives.sha256 proof.challenge) put.installationId
        (primitives.hashInstallationCredential put.credential) tables = .ok (record, tables) := by
      unfold loadChallenge
      rw [Transaction.check_eq_ok, hproven.challenge]
      dsimp only
      rw [if_pos hproven.issued.1, if_pos hproven.issued.2]
      exact ⟨rfl, rfl⟩
    have hbound : ((put.rule.accountLinkId.bind tables.accountLinks.find?).any
        (put.bound record)) = true := by
      rw [hproven.linked, Option.any_some, hproven.bound]
    unfold RulePut.statement
    rw [hproof]
    dsimp only
    rw [conflictOnUnique_eq_ok]
    unfold RulePut.accountRuleStatement consumeChallenge
    simp only [Transaction.bind_eq_ok, Transaction.ensure_eq_ok, assertMutable_eq_ok,
      lockAuthenticated_eq_ok, admitMutation_eq_ok, Transaction.read_eq_ok,
      Transaction.check_eq_ok, assertRuleQuota_eq_ok, change_eq_ok]
    have hdangling := hproven.ruleDangling hsome
    exact ⟨(), _, ⟨⟨hproven.scope, haccount⟩, rfl⟩, (), _, ⟨h.mutable, rfl⟩, _, _,
      ⟨hinstallation, rfl⟩, (), _, ⟨h.unlimited, rfl⟩, record, _, hloaded, (), _,
      ⟨hproven.purpose, rfl⟩, (), _, ⟨hproven.digest, rfl⟩, _, _, ⟨rfl, rfl⟩, (), _,
      ⟨hbound, rfl⟩, (), _, ⟨hproven.verified, rfl⟩, (), _, ⟨h.quota, rfl⟩, (), _,
      ⟨_, _, ⟨rfl, rfl⟩, (), _, ⟨hconsumable, rfl⟩, rfl⟩,
      upsertRule_eq_ok.mpr ⟨h.valid, h.own, h.differs, hdangling, hreferred, rfl⟩⟩

/-- The put commits, and its rule, and no other, is active under its id. -/
def RulePut.Commits (primitives : StorePrimitives) (put : RulePut) (tables : Tables) : Prop :=
  ∃ after, Transaction.atomically (put.fault.map .database) (put.statement primitives) tables =
    (.ok (), after) ∧ ∀ id, after.rules.find? id =
      if put.rule.ruleId = id then some (put.row primitives) else tables.rules.find? id

theorem commits_iff (hreferential : Referential tables) {put : RulePut}
    (h : Admissible primitives tables put) :
    put.Commits primitives tables ↔ put.Changeable tables := by
  rw [← @ruleReferred_iff primitives tables hreferential]
  unfold RulePut.Commits
  rw [h.answered, Option.map_none]
  constructor
  · rintro ⟨after, hcommits, -⟩
    obtain ⟨message, challenges, hupsert⟩ :=
      upsert_of_put (Transaction.atomically_eq_ok.mp hcommits).2
    exact (upsertRule_eq_ok.mp hupsert).2.2.2.2.1
  · intro hreferred
    obtain ⟨challenges, hstatement⟩ := h.statement hreferred
    exact ⟨_, Transaction.atomically_eq_ok.mpr ⟨rfl, hstatement⟩,
      find?_upsertedRules hreferential h.own h.valid rfl⟩

/-! ### Runs -/

def Upserts (primitives : StorePrimitives) (tables : Tables) : RuleEvent → Prop
  | .put put => Admissible primitives tables put → put.Commits primitives tables
  | _ => True

/-- An admissible put does not change the network of a rule that an alert refers to. -/
def KeepsNetwork (primitives : StorePrimitives) (tables : Tables) : RuleEvent → Prop
  | .put put => Admissible primitives tables put → put.Changeable tables
  | _ => True

theorem referential_initial : Referential NotificationWorld.initial.tables :=
  ⟨List.forall_mem_nil _, List.forall_mem_nil _⟩

/-- Every admissible put of a run commits exactly where none changes the network of a rule
that an alert refers to. -/
theorem along_upserts_iff (primitives : StorePrimitives) (events : List RuleEvent) :
    Along (stepRules primitives) (Upserts primitives) NotificationWorld.initial.tables events ↔
      Along (stepRules primitives) (KeepsNetwork primitives) NotificationWorld.initial.tables
        events := by
  have hstep : ∀ tables event, Referential tables →
      Referential (stepRules primitives tables event) := fun _ event h => h.step event
  refine along_iff_of_invariant hstep (fun tables event h => ?_) referential_initial events
  cases event with
  | put put => exact forall_congr' fun hadmissible => commits_iff h hadmissible
  | createAlertForRuleMatch => exact Iff.rfl
  | elsewhere => exact Iff.rfl

namespace Sample

def ruleId : String := "66666666666666666666666666666666"

def priceRule (network : NotificationNetwork) : CreateRuleRequest :=
  ⟨ruleId, .price, network, "BTC", .priceAbove, "50000", none⟩

def rulePut (network : NotificationNetwork) : RulePut :=
  ⟨priceRule network, installationId, credential, none, none, none, 1700000001000000⟩

def testnetDigest : String := "a98990ec769cc4ee65a340f7fa5091ef32f3302af98b4cd702aff8056ca00c2a"

def mainnetDigest : String := "68111b19cb6a80fbbae956d83a4e244df98d151ce2776c82ffc430c2a90abd0b"

def ruleDigests : List (String × String) :=
  [ ("rule-identity/v1\n" ++
      "\x7b\"accountLinkId\":null,\"eventType\":\"price_above\",\"marketId\":\"BTC\"," ++
      "\"network\":\"testnet\",\"scope\":\"price\",\"threshold\":\"50000\"\x7d", testnetDigest),
    ("rule-identity/v1\n" ++
      "\x7b\"accountLinkId\":null,\"eventType\":\"price_above\",\"marketId\":\"BTC\"," ++
      "\"network\":\"mainnet\",\"scope\":\"price\",\"threshold\":\"50000\"\x7d", mainnetDigest) ]

def rulePrimitives : StorePrimitives :=
  { recorded with sha256 := fun text => ((digests ++ ruleDigests).lookup text).getD "" }

def monitored : Tables :=
  { linkedTables with service := ⟨.contracted, .ready, 0, 0, true, true, true⟩ }

theorem referential_monitored : Referential monitored :=
  ⟨List.forall_mem_nil _, List.forall_mem_nil _⟩

def ruleMatch : RuleMatch :=
  ⟨ruleId, testnetDigest, fingerprint, .price, .trade⟩

def movedRule : List RuleEvent :=
  [ .elsewhere monitored referential_monitored, .put (rulePut .testnet),
    .createAlertForRuleMatch ruleMatch "77777777777777777777777777777777"
      "88888888888888888888888888888888" none 1700000002000000, .put (rulePut .mainnet) ]

def alerted : Tables :=
  run (stepRules rulePrimitives) monitored (movedRule.tail.take 2)

theorem active_alerted : ∃ installation,
    alerted.installations.find? installationId = some installation ∧
      installation.credentialHash = some (rulePrimitives.hashInstallationCredential credential) ∧
      installation.state = .active := by
  have hany : ((alerted.installations.find? installationId).any fun installation =>
      installation.credentialHash = some (rulePrimitives.hashInstallationCredential credential) &&
        installation.state = .active) = true := by
    decide +kernel
  obtain ⟨installation, hfound, hrow⟩ := (Option.any_eq_true _ _).mp hany
  rw [Bool.and_eq_true, decide_eq_true_iff, decide_eq_true_iff] at hrow
  exact ⟨installation, hfound, hrow⟩

theorem admissible_mainnet : Admissible rulePrimitives alerted (rulePut .mainnet) where
  mutable := by decide +kernel
  unlimited := rfl
  answered := rfl
  active := active_alerted
  valid := by decide
  quota := by decide +kernel
  own := by decide +kernel
  differs := by decide +kernel
  proof := .inl ⟨rfl, rfl⟩

theorem refused_mainnet : (Transaction.atomically none
    ((rulePut .mainnet).statement rulePrimitives) alerted).1.isOk = false := by
  decide +kernel

end Sample

/-- A rule with an alert is not put on the other network. -/
theorem not_along_upserts : ¬ ∀ (primitives : StorePrimitives) (events : List RuleEvent),
    Along (stepRules primitives) (Upserts primitives) NotificationWorld.initial.tables events := by
  intro h
  obtain ⟨-, -, -, hput, -⟩ := h Sample.rulePrimitives Sample.movedRule
  obtain ⟨after, hafter, -⟩ := hput Sample.admissible_mainnet
  have hrefused := Sample.refused_mainnet
  rw [show Transaction.atomically none _ Sample.alerted = _ from hafter] at hrefused
  cases hrefused

end Notifications

end HyperTrader
