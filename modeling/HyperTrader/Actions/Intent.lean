import HyperTrader.Journal.SecretFree
import HyperTrader.Journal.State

/-!
# Trading action intents

The actions a user can review, and the JSON object each is serialized as, with
its fields in the order of the intent's declaration.
-/

namespace HyperTrader

open Library

inductive OrderSide where
  | buy
  | sell
  deriving DecidableEq

def OrderSide.text : OrderSide → String
  | buy => "buy"
  | sell => "sell"

inductive LimitTimeInForce where
  | alo
  | gtc
  | ioc
  deriving DecidableEq

def LimitTimeInForce.text : LimitTimeInForce → String
  | alo => "Alo"
  | gtc => "Gtc"
  | ioc => "Ioc"

inductive PositionTpslKind where
  | takeProfit
  | stopLoss
  deriving DecidableEq

def PositionTpslKind.text : PositionTpslKind → String
  | takeProfit => "take_profit"
  | stopLoss => "stop_loss"

structure MarketOrderIntent where
  assetId : ℤ
  side : OrderSide
  size : String
  aggressiveLimitPrice : String
  cloid : String
  deriving DecidableEq

structure LimitOrderIntent where
  assetId : ℤ
  side : OrderSide
  size : String
  limitPrice : String
  timeInForce : LimitTimeInForce
  reduceOnly : Bool
  cloid : String
  deriving DecidableEq

structure ReduceOnlyCloseIntent where
  assetId : ℤ
  side : OrderSide
  size : String
  aggressiveLimitPrice : String
  cloid : String
  deriving DecidableEq

structure PositionTpslIntent where
  assetId : ℤ
  side : OrderSide
  size : String
  triggerPrice : String
  aggressiveLimitPrice : String
  triggerKind : PositionTpslKind
  existingOid : Option ℤ
  cloid : String
  deriving DecidableEq

inductive CancelTarget where
  | oid (oid : ℤ)
  | cloid (cloid : String)
  deriving DecidableEq

structure CancelIntent where
  assetId : ℤ
  target : CancelTarget
  deriving DecidableEq

structure UpdateLeverageIntent where
  assetId : ℤ
  marginMode : MarginMode
  leverage : ℤ
  deriving DecidableEq

inductive TradingActionIntent where
  | marketOrder (intent : MarketOrderIntent)
  | limitOrder (intent : LimitOrderIntent)
  | reduceOnlyClose (intent : ReduceOnlyCloseIntent)
  | positionTpsl (intent : PositionTpslIntent)
  | cancel (intent : CancelIntent)
  | bulkCancel (cancels : List CancelIntent)
  | updateLeverage (intent : UpdateLeverageIntent)
  deriving DecidableEq

def TradingActionIntent.type : TradingActionIntent → JournalActionType
  | marketOrder _ => .marketOrder
  | limitOrder _ => .limitOrder
  | reduceOnlyClose _ => .reduceOnlyClose
  | positionTpsl _ => .positionTpsl
  | cancel _ => .cancel
  | bulkCancel _ => .bulkCancel
  | updateLeverage _ => .updateLeverage

def optionalNumber (value : Option ℤ) : Json :=
  value.elim .null .number

def CancelTarget.toJson : CancelTarget → Json
  | .oid orderId => .object [("kind", .string "oid"), ("oid", .number orderId)]
  | .cloid text => .object [("kind", .string "cloid"), ("cloid", .string text)]

def CancelIntent.fields (intent : CancelIntent) : List (String × Json) :=
  [("assetId", .number intent.assetId), ("target", intent.target.toJson)]

/-- The fields of an intent after its type, but for the client order ID of an
order. -/
def TradingActionIntent.fields : TradingActionIntent → List (String × Json)
  | marketOrder intent =>
    [("assetId", .number intent.assetId), ("side", .string intent.side.text),
      ("size", .string intent.size), ("aggressiveLimitPrice", .string intent.aggressiveLimitPrice)]
  | limitOrder intent =>
    [("assetId", .number intent.assetId), ("side", .string intent.side.text),
      ("size", .string intent.size), ("limitPrice", .string intent.limitPrice),
      ("timeInForce", .string intent.timeInForce.text), ("reduceOnly", .bool intent.reduceOnly)]
  | reduceOnlyClose intent =>
    [("assetId", .number intent.assetId), ("side", .string intent.side.text),
      ("size", .string intent.size), ("aggressiveLimitPrice", .string intent.aggressiveLimitPrice)]
  | positionTpsl intent =>
    [("assetId", .number intent.assetId), ("side", .string intent.side.text),
      ("size", .string intent.size), ("triggerPrice", .string intent.triggerPrice),
      ("aggressiveLimitPrice", .string intent.aggressiveLimitPrice),
      ("triggerKind", .string intent.triggerKind.text),
      ("existingOid", optionalNumber intent.existingOid)]
  | cancel intent => intent.fields
  | bulkCancel cancels =>
    [("cancels", .array (cancels.map fun cancel => .object cancel.fields))]
  | updateLeverage intent =>
    [("assetId", .number intent.assetId), ("marginMode", .string intent.marginMode.text),
      ("leverage", .number intent.leverage)]

def TradingActionIntent.cloid : TradingActionIntent → Option String
  | marketOrder intent => some intent.cloid
  | limitOrder intent => some intent.cloid
  | reduceOnlyClose intent => some intent.cloid
  | positionTpsl intent => some intent.cloid
  | cancel _ => none
  | bulkCancel _ => none
  | updateLeverage _ => none

def TradingActionIntent.allFields (intent : TradingActionIntent) : List (String × Json) :=
  ("type", .string intent.type.text) :: intent.fields ++
    (intent.cloid.map fun cloid => ("cloid", Json.string cloid)).toList

def TradingActionIntent.toJson (intent : TradingActionIntent) : Json :=
  .object intent.allFields

def withoutCloid (intent : TradingActionIntent) : Json :=
  .object (("type", .string intent.type.text) :: intent.fields)

def TradingActionIntent.aggressiveLimitPrice : TradingActionIntent → Option String
  | marketOrder intent => some intent.aggressiveLimitPrice
  | reduceOnlyClose intent => some intent.aggressiveLimitPrice
  | _ => none

def TradingActionIntent.withAggressiveLimitPrice (price : String) :
    TradingActionIntent → TradingActionIntent
  | marketOrder intent => .marketOrder { intent with aggressiveLimitPrice := price }
  | reduceOnlyClose intent =>
    .reduceOnlyClose { intent with aggressiveLimitPrice := price }
  | intent => intent

theorem JournalActionType.text_injective {a b : JournalActionType}
    (h : a.text = b.text) : a = b := by
  revert h
  cases a <;> cases b <;> decide

theorem OrderSide.text_injective {a b : OrderSide} (h : a.text = b.text) : a = b := by
  revert h
  cases a <;> cases b <;> decide

theorem LimitTimeInForce.text_injective {a b : LimitTimeInForce} (h : a.text = b.text) : a = b := by
  revert h
  cases a <;> cases b <;> decide

theorem PositionTpslKind.text_injective {a b : PositionTpslKind} (h : a.text = b.text) : a = b := by
  revert h
  cases a <;> cases b <;> decide

theorem MarginMode.text_injective {a b : MarginMode} (h : a.text = b.text) : a = b := by
  revert h
  cases a <;> cases b <;> decide

theorem optionalNumber_injective {a b : Option ℤ}
    (h : optionalNumber a = optionalNumber b) : a = b := by
  cases a <;> cases b <;> simp_all [optionalNumber]

theorem CancelTarget.toJson_injective {a b : CancelTarget} (h : a.toJson = b.toJson) : a = b := by
  cases a <;> cases b <;> simp_all [CancelTarget.toJson]

theorem CancelIntent.fields_injective {a b : CancelIntent} (h : a.fields = b.fields) : a = b := by
  cases a
  cases b
  simp only [CancelIntent.fields, List.cons.injEq, Prod.mk.injEq, true_and,
    Json.number.injEq, and_true] at h
  obtain ⟨rfl, h⟩ := h
  rw [CancelTarget.toJson_injective h]

theorem CancelIntent.fields_list_injective {a b : List CancelIntent}
    (h : (a.map fun cancel => Json.object cancel.fields) =
      b.map fun cancel => Json.object cancel.fields) : a = b := by
  refine List.map_injective_iff.mpr ?_ h
  intro left right heq
  exact CancelIntent.fields_injective (Json.object.inj heq)

variable {a b : TradingActionIntent}

theorem TradingActionIntent.allFields_injective (h : a.allFields = b.allFields) : a = b := by
  have htype : a.type = b.type := by
    simp only [allFields, List.cons_append, List.cons.injEq, Prod.mk.injEq,
      Json.string.injEq, true_and] at h
    exact JournalActionType.text_injective h.1
  cases a with
  | marketOrder a =>
    cases b <;> simp only [TradingActionIntent.type, reduceCtorEq] at htype
    case marketOrder b =>
      simp [allFields, fields, TradingActionIntent.cloid] at h
      obtain ⟨-, hasset, hside, hsize, hprice, hcloid⟩ := h
      have hside := OrderSide.text_injective hside
      cases a
      cases b
      simp_all
  | limitOrder a =>
    cases b <;> simp only [TradingActionIntent.type, reduceCtorEq] at htype
    case limitOrder b =>
      simp [allFields, fields, TradingActionIntent.cloid] at h
      obtain ⟨-, hasset, hside, hsize, hprice, htif, hreduce, hcloid⟩ := h
      have hside := OrderSide.text_injective hside
      have htif := LimitTimeInForce.text_injective htif
      cases a
      cases b
      simp_all
  | reduceOnlyClose a =>
    cases b <;> simp only [TradingActionIntent.type, reduceCtorEq] at htype
    case reduceOnlyClose b =>
      simp [allFields, fields, TradingActionIntent.cloid] at h
      obtain ⟨-, hasset, hside, hsize, hprice, hcloid⟩ := h
      have hside := OrderSide.text_injective hside
      cases a
      cases b
      simp_all
  | positionTpsl a =>
    cases b <;> simp only [TradingActionIntent.type, reduceCtorEq] at htype
    case positionTpsl b =>
      simp [allFields, fields, TradingActionIntent.cloid] at h
      obtain ⟨-, hasset, hside, hsize, htrigger, hprice, hkind, hoid, hcloid⟩ := h
      have hside := OrderSide.text_injective hside
      have hkind := PositionTpslKind.text_injective hkind
      have hoid := optionalNumber_injective hoid
      cases a
      cases b
      simp_all
  | cancel a =>
    cases b <;> simp only [TradingActionIntent.type, reduceCtorEq] at htype
    case cancel b =>
      simp only [allFields, fields, TradingActionIntent.cloid, Option.map_none,
        Option.toList_none, List.append_nil, List.cons.injEq] at h
      rw [CancelIntent.fields_injective h.2]
  | bulkCancel a =>
    cases b <;> simp only [TradingActionIntent.type, reduceCtorEq] at htype
    case bulkCancel b =>
      simp only [allFields, fields, TradingActionIntent.cloid, Option.map_none,
        Option.toList_none, List.append_nil, List.cons.injEq, Prod.mk.injEq,
        Json.array.injEq, true_and, and_true] at h
      rw [CancelIntent.fields_list_injective h.2]
  | updateLeverage a =>
    cases b <;> simp only [TradingActionIntent.type, reduceCtorEq] at htype
    case updateLeverage b =>
      simp [allFields, fields, TradingActionIntent.cloid] at h
      obtain ⟨-, hasset, hmode, hleverage⟩ := h
      have hmode := MarginMode.text_injective hmode
      cases a
      cases b
      simp_all

theorem TradingActionIntent.toJson_injective (h : a.toJson = b.toJson) : a = b :=
  allFields_injective (Json.object.inj h)

end HyperTrader
