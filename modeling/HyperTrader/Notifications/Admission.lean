import HyperTrader.Library.Machine
import HyperTrader.Library.Window

/-!
# The admission of requests

A mutation of the store is admitted inside its own transaction: the transaction takes the
advisory locks of the address and of the installation, counts the admissions of the last
minute and of the last hour, and inserts one of its own. An account proof is reserved in
a transaction of its own before the proof is checked, and settled afterwards. The locks
are held to the end of the transaction, and a transaction that is serializable counts
what was committed when its first statement ran.
-/

namespace HyperTrader

open Library

namespace Admission

inductive AdmissionKind where
  | mutation
  | tokenChange
  | failedProof
  deriving DecidableEq

inductive AdmissionStatus where
  | pending
  | committed
  | failed
  deriving DecidableEq

/-- `notification_admission_events`; an event is named by the request that inserts it. -/
structure AdmissionEvent where
  eventId : ℕ
  kind : AdmissionKind
  installationId : Option String
  ipAddress : String
  status : AdmissionStatus
  occurredAt : ℤ
  deriving DecidableEq

/-- `StoreRateLimitError` -/
structure RateLimitError where
  message : String
  retryAfterMs : ℤ
  deriving DecidableEq

inductive AdmissionLimit where
  | ipMutationsPerMinute (ip : String)
  | installationMutationsPerMinute (installationId : String)
  | tokenChangesPerHour (installationId : String)
  | failedProofsPerIpHour (ip : String)

namespace AdmissionLimit

def maximum : AdmissionLimit → ℕ
  | .ipMutationsPerMinute _ => 60
  | .installationMutationsPerMinute _ => 30
  | .tokenChangesPerHour _ => 10
  | .failedProofsPerIpHour _ => 10

def window : AdmissionLimit → ℤ
  | .ipMutationsPerMinute _ | .installationMutationsPerMinute _ => 60 * 1000
  | .tokenChangesPerHour _ | .failedProofsPerIpHour _ => 60 * 60 * 1000

def selects : AdmissionLimit → AdmissionEvent → Bool
  | .ipMutationsPerMinute ip, event =>
    event.ipAddress = ip && (event.kind = .mutation || event.kind = .tokenChange)
  | .installationMutationsPerMinute installationId, event =>
    event.installationId = some installationId &&
      (event.kind = .mutation || event.kind = .tokenChange)
  | .tokenChangesPerHour installationId, event =>
    event.installationId = some installationId && event.kind = .tokenChange
  | .failedProofsPerIpHour ip, event =>
    event.kind = .failedProof && event.ipAddress = ip &&
      (event.status = .pending || event.status = .failed)

def error : AdmissionLimit → RateLimitError
  | .ipMutationsPerMinute _ => ⟨"IP mutation limit exceeded", 60000⟩
  | .installationMutationsPerMinute _ => ⟨"installation mutation limit exceeded", 60000⟩
  | .tokenChangesPerHour _ => ⟨"token change limit exceeded", 60 * 60 * 1000⟩
  | .failedProofsPerIpHour _ => ⟨"failed proof limit exceeded", 60 * 60 * 1000⟩

def lockKey : AdmissionLimit → String
  | .ipMutationsPerMinute ip => "ip:" ++ ip
  | .installationMutationsPerMinute installationId
  | .tokenChangesPerHour installationId => "installation:" ++ installationId
  | .failedProofsPerIpHour ip => "proof:" ++ ip

def count (limit : AdmissionLimit) (now : ℤ) (events : List AdmissionEvent) : ℕ :=
  countAfter limit.selects AdmissionEvent.occurredAt (now - limit.window) events

/-- How many events there are in the interval that ends at a time. -/
def countUntil (limit : AdmissionLimit) (stop : ℤ) (events : List AdmissionEvent) : ℕ :=
  countWithin limit.selects AdmissionEvent.occurredAt (stop - limit.window) stop events

end AdmissionLimit

inductive Isolation where
  | readCommitted
  | serializable
  deriving DecidableEq

inductive Mutation where
  | registerInstallation
  | rotateInstallationCredential
  | rebindPushToken
  | deletePriceRule
  | rebindPriceOnlyPushToken
  | issueAccountLinkChallenge
  | verifyAccountLinkProof
  | putPriceRule
  | putAccountRule
  | startAccountLinkDrain
  | verifyLostInstallationRevokeProof

namespace Mutation

def isolation : Mutation → Isolation
  | .rebindPushToken | .verifyAccountLinkProof | .putAccountRule
  | .verifyLostInstallationRevokeProof => .serializable
  | _ => .readCommitted

def kind : Mutation → AdmissionKind
  | .registerInstallation | .rebindPushToken | .rebindPriceOnlyPushToken => .tokenChange
  | _ => .mutation

/-- The `installationId` that the method passes: an installation that registers has none. -/
def installationId (caller : Mutation) (installationId : String) : Option String :=
  match caller with
  | .registerInstallation => none
  | _ => some installationId

end Mutation

inductive Demand where
  | mutation (caller : Mutation) (ip installationId : String)
  /-- `#withProofAttempt` -/
  | proof (ip : String)

namespace Demand

def ip : Demand → String
  | .mutation _ ip _ => ip
  | .proof ip => ip

def isolation : Demand → Isolation
  | .mutation caller _ _ => caller.isolation
  | .proof _ => .readCommitted

def limits : Demand → List AdmissionLimit
  | .mutation caller ip installationId =>
    .ipMutationsPerMinute ip ::
      match caller.installationId installationId with
      | none => []
      | some installationId =>
        .installationMutationsPerMinute installationId ::
          if caller.kind = .tokenChange then [.tokenChangesPerHour installationId] else []
  | .proof ip => [.failedProofsPerIpHour ip]

/-- The keys of the advisory locks, in the order of `actorKeys.sort()`. -/
def lockKeys : Demand → List String
  | .mutation caller ip installationId =>
    ((caller.installationId installationId).map ("installation:" ++ ·)).toList ++ ["ip:" ++ ip]
  | .proof ip => ["proof:" ++ ip]

def event (demand : Demand) (eventId : ℕ) (now : ℤ) : AdmissionEvent :=
  match demand with
  | .mutation caller ip installationId =>
    ⟨eventId, caller.kind, caller.installationId installationId, ip, .committed, now⟩
  | .proof ip => ⟨eventId, .failedProof, none, ip, .pending, now⟩

end Demand

/-- How a proof attempt ends: an error is a failure of the proof, or of another kind. -/
inductive ProofResult where
  | succeeded
  | isProofFailure
  | otherError
  deriving DecidableEq

inductive Outcome where
  | committed
  | refused (error : RateLimitError)
  | rolledBack
  | settled (result : ProofResult)
  deriving DecidableEq

inductive Stage where
  | begun
  /-- The first statement has run; the keys are those that are not yet locked. -/
  | locking (keys : List String)
  | admitted (countedAt : ℤ)
  | inserted (countedAt : ℤ) (row : AdmissionEvent)
  /-- The reservation of a proof is committed, and the proof is checked. -/
  | working
  | ended (outcome : Outcome)
  deriving DecidableEq

/-- A request, with the locks of its transaction and what was committed when its first
statement ran. -/
structure Request where
  demand : Demand
  snapshot : List AdmissionEvent
  locks : List String
  stage : Stage

def Request.finish (request : Request) (stage : Stage) : Request :=
  { request with locks := [], stage := stage }

/-- The requests over the table of the admission events, at the time of the database's
clock; `history` is the table without the deletions of old events. -/
structure Admissions where
  clock : ℤ
  table : List AdmissionEvent
  history : List AdmissionEvent
  requests : List Request

inductive Event where
  | begin (demand : Demand)
  | start (request : ℕ)
  | lock (request : ℕ)
  | count (request : ℕ)
  | insert (request : ℕ)
  | commit (request : ℕ)
  | rollback (request : ℕ)
  /-- The work of a proof attempt has ended. -/
  | settle (request : ℕ) (result : ProofResult)
  /-- `cleanupRetention`, of the events that its batch takes. -/
  | cleanup (batch : List ℕ)
  | pass (time : ℕ)

def reserved (eventId : ℕ) (event : AdmissionEvent) : Bool :=
  event.eventId = eventId && event.kind = .failedProof && event.status = .pending

def settle (eventId : ℕ) (result : ProofResult) (events : List AdmissionEvent) :
    List AdmissionEvent :=
  match result with
  | .isProofFailure =>
    events.map fun event =>
      if reserved eventId event then { event with status := .failed } else event
  | .succeeded | .otherError => events.filter fun event => !reserved eventId event

namespace Admissions

/-- The milliseconds of `interval '1 hour'`. -/
def retention : ℤ := 60 * 60 * 1000

def view (admissions : Admissions) (request : Request) : List AdmissionEvent :=
  match request.demand.isolation with
  | .readCommitted => admissions.table
  | .serializable => request.snapshot

def exceeded (admissions : Admissions) (request : Request) : Option AdmissionLimit :=
  request.demand.limits.find? fun limit =>
    limit.maximum ≤ limit.count admissions.clock (admissions.view request)

def free (hash : String → ℤ) (admissions : Admissions) (index : ℕ) (key : String) : Bool :=
  admissions.requests.zipIdx.all fun entry =>
    entry.2 = index || entry.1.locks.all fun other => hash other ≠ hash key

def replace (admissions : Admissions) (index : ℕ) (request : Request) : Admissions :=
  { admissions with requests := admissions.requests.set index request }

def advance (hash : String → ℤ) (admissions : Admissions) (index : ℕ) (request : Request) :
    Event → Admissions
  | .start _ =>
    match request.stage with
    | .begun =>
      admissions.replace index
        { request with
          snapshot := admissions.table
          stage := .locking request.demand.lockKeys }
    | _ => admissions
  | .lock _ =>
    match request.stage with
    | .locking (key :: keys) =>
      if admissions.free hash index key then
        admissions.replace index
          { request with locks := key :: request.locks, stage := .locking keys }
      else admissions
    | _ => admissions
  | .count _ =>
    match request.stage with
    | .locking [] =>
      match admissions.exceeded request with
      | some limit =>
        admissions.replace index (request.finish (.ended (.refused limit.error)))
      | none => admissions.replace index { request with stage := .admitted admissions.clock }
    | _ => admissions
  | .insert _ =>
    match request.stage with
    | .admitted countedAt =>
      admissions.replace index
        { request with
          stage := .inserted countedAt (request.demand.event index admissions.clock) }
    | _ => admissions
  | .commit _ =>
    match request.stage with
    | .inserted _ row =>
      { admissions with
        table := admissions.table ++ [row]
        history := admissions.history ++ [row] }.replace index
          (request.finish (match request.demand with
            | .mutation _ _ _ => .ended .committed
            | .proof _ => .working))
    | _ => admissions
  | .rollback _ =>
    match request.stage with
    | .working | .ended _ => admissions
    | _ => admissions.replace index (request.finish (.ended .rolledBack))
  | .settle _ result =>
    match request.stage with
    | .working =>
      { admissions with
        table := settle index result admissions.table
        history := settle index result admissions.history }.replace index
          (request.finish (.ended (.settled result)))
    | _ => admissions
  | _ => admissions

end Admissions

def Event.request : Event → Option ℕ
  | .start request | .lock request | .count request | .insert request | .commit request
  | .rollback request | .settle request _ => some request
  | .begin _ | .cleanup _ | .pass _ => none

namespace Admissions

def step (hash : String → ℤ) (admissions : Admissions) (event : Event) : Admissions :=
  match event with
  | .begin demand =>
    if demand.ip = "" then admissions
    else
      { admissions with requests := admissions.requests ++ [⟨demand, [], [], .begun⟩] }
  | .cleanup batch =>
    { admissions with
      table := admissions.table.filter fun row =>
        !(batch.contains row.eventId && row.occurredAt < admissions.clock - retention) }
  | .pass time => { admissions with clock := admissions.clock + time }
  | event =>
    match event.request.bind fun index => admissions.requests[index]?.map fun request =>
      (index, request) with
    | none => admissions
    | some (index, request) => admissions.advance hash index request event

def initial (clock : ℤ) : Admissions := ⟨clock, [], [], []⟩

end Admissions

def Request.accounts (request : Request) (event : AdmissionEvent) : Prop :=
  match request.stage with
  | .ended .committed => event.status = .committed
  | .working => event.kind = .failedProof ∧ event.status = .pending
  | .ended (.settled .isProofFailure) => event.kind = .failedProof ∧ event.status = .failed
  | _ => False

/-- No limit is exceeded in any interval, and only an admission that was committed, a proof
that is being checked and a proof that has failed have an event. -/
structure Limited (admissions : Admissions) : Prop where
  within : ∀ limit stop, AdmissionLimit.countUntil limit stop admissions.history ≤ limit.maximum
  accounted : ∀ event ∈ admissions.table, ∃ request,
    admissions.requests[event.eventId]? = some request ∧ request.accounts event

/-- A serializable transaction counts with every admission of its actors that has been
committed: none was committed after its first statement. -/
def Fresh (admissions : Admissions) : Event → Prop
  | .count index => ∀ request ∈ admissions.requests[index]?, request.stage = .locking [] →
      request.demand.isolation = .serializable →
        ∀ limit ∈ request.demand.limits, ∀ event ∈ admissions.table,
          limit.selects event = true → event ∈ request.snapshot
  | _ => True

instance (admissions : Admissions) (event : Event) : Decidable (Fresh admissions event) :=
  match event with
  | .count index =>
    inferInstanceAs (Decidable (∀ request ∈ admissions.requests[index]?, _ → _ → _))
  | .begin _ | .start _ | .lock _ | .insert _ | .commit _ | .rollback _ | .settle _ _
  | .cleanup _ | .pass _ => inferInstanceAs (Decidable True)

end Admission

end HyperTrader
