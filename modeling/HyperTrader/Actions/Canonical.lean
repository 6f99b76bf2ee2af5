import HyperTrader.Actions.Codec
import HyperTrader.Library.Ascii
import Mathlib.Data.List.Forall2

/-!
# Canonical actions

The canonical copy of an action is well formed, and a well-formed action is its
own canonical copy. An accepted action differs from its canonical copy in two
ways only: in the order of its fields and in the case of its client order IDs.
-/

namespace HyperTrader

open Library

/-! ### Well-formed actions -/

def PositiveDecimalText (text : String) : Prop :=
  canonicalPositiveDecimal text = true ∧ zeroDecimal text = false

def LowerCloid (text : String) : Prop :=
  cloidPattern.test text = true ∧ asciiLower text = text

def WireNumber (value least : ℤ) : Prop := isSafeInteger value ∧ least ≤ value

def OrderTypeWire.WellFormed (reduceOnly : Bool) :
    OrderWireKind → OrderTypeWire → Prop
  | .limit, .limit _ => True
  | .trigger, .trigger triggerPx _ =>
    reduceOnly = true ∧ PositiveDecimalText triggerPx
  | .limit, .trigger _ _ => False
  | .trigger, .limit _ => False

structure OrderWire.WellFormed (kind : OrderWireKind) (order : OrderWire) : Prop where
  a : WireNumber order.a 0
  p : PositiveDecimalText order.p
  s : canonicalPositiveDecimal order.s = true ∧
    zeroDecimal order.s = decide (kind = .trigger)
  t : order.t.WellFormed order.r kind
  c : LowerCloid order.c

def OrderGrouping.kind (grouping : OrderGrouping) : OrderWireKind :=
  if grouping = .na then .limit else .trigger

def ExchangeAction.WellFormed : ExchangeAction → Prop
  | .order orders grouping =>
    ∃ wire, orders = [wire] ∧ wire.WellFormed grouping.kind
  | .modify oid wire => WireNumber oid 1 ∧ wire.WellFormed .trigger
  | .cancel cancels =>
    (1 ≤ cancels.length ∧ cancels.length ≤ maxBulkCancels) ∧
      ∀ cancel ∈ cancels, WireNumber cancel.a 0 ∧ WireNumber cancel.o 0
  | .cancelByCloid cancels =>
    (1 ≤ cancels.length ∧ cancels.length ≤ maxBulkCancels) ∧
      ∀ cancel ∈ cancels, WireNumber cancel.asset 0 ∧ LowerCloid cancel.cloid
  | .updateLeverage asset _ leverage =>
    WireNumber asset 0 ∧ isSafeInteger leverage ∧ 1 ≤ leverage ∧ leverage ≤ 100

/-! ### The parts of an action -/

variable {α : Type} {path text key : String} {value orderType raw : Json}
  {fields : List (String × Json)} {type : OrderTypeWire} {reduceOnly : Bool} {wire : OrderWire}
  {index : ℕ} {values : List Json} {action : ExchangeAction}

theorem present_eq_ok {value : Option α} {message : String} {a : α} :
    present value path message = .ok a ↔ value = some a := by
  cases value <;> simp [present, invalid]

theorem objectAt_eq_ok : objectAt value path = .ok fields ↔ value = .object fields := by
  unfold objectAt
  split <;> simp_all [invalid]

theorem wireAssetId_eq_ok {value : Option ℤ} {assetId : ℤ} :
    wireAssetId value path = .ok assetId ↔
      value = some assetId ∧ WireNumber assetId 0 := by
  simp only [wireAssetId, except_bind_eq_ok, present_eq_ok, require_eq_ok]
  constructor
  · rintro ⟨_, hvalue, -, hnumber, hresult⟩
    cases hresult
    exact ⟨hvalue, hnumber⟩
  · rintro ⟨hvalue, hnumber⟩
    exact ⟨assetId, hvalue, (), hnumber, rfl⟩

theorem cloidPattern_asciiLower (h : cloidPattern.test text = true) :
    cloidPattern.test (asciiLower text) = true := by
  refine TextPattern.test_asciiLower cloidPattern cloidPattern ?_ ?_ rfl rfl h
  · decide
  · intro byte hbyte
    have hlower := isLowerHexDigit_lowerByte hbyte
    simp only [isLowerHexDigit, Bool.or_eq_true] at hlower
    simp only [cloidPattern, isHexDigit, Bool.or_eq_true]
    exact .inl hlower

theorem wireCloid_eq_ok {value : Option String} {cloid : String} :
    wireCloid value path = .ok cloid ↔
      ∃ text, value = some text ∧ cloidPattern.test text = true ∧
        cloid = asciiLower text := by
  simp only [wireCloid, except_bind_eq_ok, present_eq_ok, require_eq_ok]
  constructor
  · rintro ⟨text, hvalue, -, htest, hresult⟩
    cases hresult
    exact ⟨text, hvalue, htest, rfl⟩
  · rintro ⟨text, hvalue, htest, rfl⟩
    exact ⟨text, hvalue, (), htest, rfl⟩

theorem LowerCloid.of_test (h : cloidPattern.test text = true) : LowerCloid (asciiLower text) :=
  ⟨cloidPattern_asciiLower h, asciiLower_asciiLower text⟩

theorem LimitTimeInForce.read_eq_some {tif : LimitTimeInForce} :
    LimitTimeInForce.read text = some tif ↔ text = tif.text := by
  constructor
  · intro h
    have hfound := List.find?_some h
    exact (beq_iff_eq.mp hfound).symm
  · rintro rfl
    cases tif <;> decide

theorem TriggerKindWire.read_eq_some {tpsl : TriggerKindWire} :
    TriggerKindWire.read text = some tpsl ↔ text = tpsl.text := by
  constructor
  · intro h
    have hfound := List.find?_some h
    exact (beq_iff_eq.mp hfound).symm
  · rintro rfl
    cases tpsl <;> decide

theorem OrderGrouping.read_eq_some {grouping : OrderGrouping} :
    OrderGrouping.read text = some grouping ↔ text = grouping.text := by
  constructor
  · intro h
    have hfound := List.find?_some h
    exact (beq_iff_eq.mp hfound).symm
  · rintro rfl
    cases grouping <;> decide

theorem assertExactKeys_eq_ok {expected : List String} {u : Unit} :
    assertExactKeys fields expected path = .ok u ↔
      (fields.map Prod.fst).Perm expected := by
  simp only [assertExactKeys, require_eq_ok]

theorem bind_text_eq_some {read : String → Option α} {a : α} :
    (value.text key).bind read = some a ↔
      ∃ text, value.field key = some (.string text) ∧ read text = some a := by
  simp only [Option.bind_eq_some_iff, Json.text_eq_some]

theorem canonicalLimit_eq_ok :
    canonicalLimit orderType path = .ok type ↔
      ∃ tif, type = .limit tif ∧ orderType = type.toJson := by
  simp only [canonicalLimit, except_bind_eq_ok, objectAt_eq_ok,
    assertExactKeys_eq_ok, present_eq_ok, List.perm_singleton, bind_text_eq_some,
    LimitTimeInForce.read_eq_some]
  constructor
  · rintro ⟨fields, rfl, -, hkeys, limitFields, hlimit, -, hlimitKeys, tif,
      ⟨text, htif, rfl⟩, hresult⟩
    cases hresult
    have hnodup : (fields.map Prod.fst).Nodup := by
      rw [hkeys]
      decide
    have hlimitNodup : (limitFields.map Prod.fst).Nodup := by
      rw [hlimitKeys]
      decide
    have hfields := Json.eq_object_of_keys hnodup
    have hlimitFields := Json.eq_object_of_keys hlimitNodup
    rw [hlimit] at htif
    rw [hkeys, List.map_singleton, hlimit, hlimitFields, hlimitKeys,
      List.map_singleton, htif] at hfields
    exact ⟨tif, rfl, congrArg Json.object hfields⟩
  · rintro ⟨tif, rfl, rfl⟩
    exact ⟨_, rfl, (), rfl, _, rfl, (), rfl, tif, ⟨tif.text, rfl, rfl⟩, rfl⟩

theorem canonicalTrigger_eq_ok :
    canonicalTrigger orderType reduceOnly path = .ok type ↔
      ∃ triggerPx tpsl fields, type = .trigger triggerPx tpsl ∧
        orderType = .object [("trigger", .object fields)] ∧
        (fields.map Prod.fst).Perm ["isMarket", "triggerPx", "tpsl"] ∧
        (Json.object fields).field "isMarket" = some (.bool true) ∧
        (Json.object fields).field "triggerPx" = some (.string triggerPx) ∧
        (Json.object fields).field "tpsl" = some (.string tpsl.text) ∧
        type.WellFormed reduceOnly .trigger := by
  simp only [canonicalTrigger, except_bind_eq_ok, objectAt_eq_ok,
    assertExactKeys_eq_ok, present_eq_ok, require_eq_ok, List.perm_singleton,
    bind_text_eq_some, TriggerKindWire.read_eq_some, Json.text_eq_some, Json.flag_eq_some]
  constructor
  · rintro ⟨typeFields, rfl, -, hkeys, fields, htrigger, -, hfieldKeys, -,
      ⟨hreduce, hmarket⟩, tpsl, ⟨text, htpsl, rfl⟩, triggerPx, hprice, -, hpositive, hresult⟩
    cases hresult
    have hnodup : (typeFields.map Prod.fst).Nodup := by
      rw [hkeys]
      decide
    have hfields := Json.eq_object_of_keys hnodup
    rw [hkeys, List.map_singleton, htrigger] at hfields
    rw [htrigger] at hmarket htpsl hprice
    exact ⟨triggerPx, tpsl, fields, rfl, congrArg Json.object hfields, hfieldKeys,
      hmarket, hprice, htpsl, hreduce, hpositive⟩
  · rintro ⟨triggerPx, tpsl, fields, rfl, rfl, hfieldKeys, hmarket, hprice, htpsl,
      hreduce, hpositive⟩
    exact ⟨_, rfl, (), rfl, fields, rfl, (), hfieldKeys, (), ⟨hreduce, hmarket⟩, tpsl,
      ⟨_, htpsl, rfl⟩, triggerPx, hprice, (), hpositive, rfl⟩

def canonicalOrderType (kind : OrderWireKind) (orderType : Json)
    (reduceOnly : Bool) (path : String) : Outcome OrderTypeWire :=
  match kind with
  | .limit => canonicalLimit orderType path
  | .trigger => canonicalTrigger orderType reduceOnly path

theorem canonicalOrderType_wellFormed {kind : OrderWireKind}
    (h : canonicalOrderType kind orderType reduceOnly path = .ok type) :
    type.WellFormed reduceOnly kind := by
  cases kind with
  | limit =>
    obtain ⟨tif, rfl, -⟩ := canonicalLimit_eq_ok.mp h
    exact trivial
  | trigger =>
    obtain ⟨triggerPx, tpsl, fields, -, -, -, -, -, -, hwellFormed⟩ :=
      canonicalTrigger_eq_ok.mp h
    exact hwellFormed

theorem canonicalOrderType_toJson {kind : OrderWireKind}
    (h : type.WellFormed reduceOnly kind) (path : String) :
    canonicalOrderType kind type.toJson reduceOnly path = .ok type := by
  cases kind with
  | limit =>
    cases type with
    | limit tif => exact canonicalLimit_eq_ok.mpr ⟨tif, rfl, rfl⟩
    | trigger triggerPx tpsl => exact h.elim
  | trigger =>
    cases type with
    | limit tif => exact h.elim
    | trigger triggerPx tpsl =>
      exact canonicalTrigger_eq_ok.mpr ⟨triggerPx, tpsl, _, rfl, rfl,
        List.Perm.refl _, rfl, rfl, rfl, h⟩

def orderKeys : List String := ["a", "b", "p", "s", "r", "t", "c"]

structure OrderReads (value : Json) (path : String) (kind : OrderWireKind)
    (wire : OrderWire) : Prop where
  keys : ∃ fields, value = .object fields ∧ (fields.map Prod.fst).Perm orderKeys
  a : value.field "a" = some (.number wire.a)
  b : value.field "b" = some (.bool wire.b)
  p : value.field "p" = some (.string wire.p)
  s : value.field "s" = some (.string wire.s)
  r : value.field "r" = some (.bool wire.r)
  t : canonicalOrderType kind ((value.field "t").getD .null) wire.r (path ++ ".t") =
    .ok wire.t
  c : ∃ text, value.field "c" = some (.string text) ∧ wire.c = asciiLower text
  wellFormed : wire.WellFormed kind

theorem canonicalOrderWire_reads {kind : OrderWireKind}
    (h : canonicalOrderWire value path kind = .ok wire) : OrderReads value path kind wire := by
  cases kind <;>
  · simp only [canonicalOrderWire, except_bind_eq_ok, objectAt_eq_ok,
      assertExactKeys_eq_ok, present_eq_ok, require_eq_ok, wireAssetId_eq_ok,
      wireCloid_eq_ok, Json.text_eq_some, Json.flag_eq_some, Json.integer_eq_some] at h
    obtain ⟨fields, rfl, -, hkeys, b, hb, r, hr, p, hp, -, hprice, s, hs, -, hsize,
      type, htype, a, ⟨ha, hasset⟩, c, ⟨text, hc, hcloid, rfl⟩, hresult⟩ := h
    cases hresult
    exact ⟨⟨fields, rfl, hkeys⟩, ha, hb, hp, hs, hr, htype, ⟨text, hc, rfl⟩,
      ⟨hasset, hprice, hsize, canonicalOrderType_wellFormed htype, LowerCloid.of_test hcloid⟩⟩

theorem canonicalOrderWire_toJson {kind : OrderWireKind}
    (h : wire.WellFormed kind) (path : String) :
    canonicalOrderWire wire.toJson path kind = .ok wire := by
  have htype := canonicalOrderType_toJson h.t (path ++ ".t")
  cases kind <;>
  · simp only [canonicalOrderWire, except_bind_eq_ok, objectAt_eq_ok,
      assertExactKeys_eq_ok, present_eq_ok, require_eq_ok, wireAssetId_eq_ok,
      wireCloid_eq_ok, Json.text_eq_some, Json.flag_eq_some, Json.integer_eq_some]
    exact ⟨_, rfl, (), List.Perm.refl _, wire.b, rfl, wire.r, rfl, wire.p, rfl, (), h.p,
      wire.s, rfl, (), h.s, wire.t, htype, wire.a, ⟨rfl, h.a⟩, wire.c,
      ⟨wire.c, rfl, h.c.1, h.c.2.symm⟩, rfl⟩

/-! ### Cancellations -/

theorem forall_mem_of_forall₂ {β : Type} {r : α → β → Prop} {p : β → Prop}
    {as : List α} {bs : List β} (h : List.Forall₂ r as bs)
    (himp : ∀ a b, r a b → p b) : ∀ b ∈ bs, p b := by
  induction h with
  | nil => simp
  | cons hab _ ih => exact List.forall_mem_cons.mpr ⟨himp _ _ hab, ih⟩

theorem canonicalOidCancels_eq_ok {wires : List CancelByOidWire} :
    canonicalOidCancels index values = .ok wires ↔
      List.Forall₂ (fun value wire => ∃ fields, value = .object fields ∧
          (fields.map Prod.fst).Perm ["a", "o"] ∧ value.field "a" = some (.number wire.a) ∧
          value.field "o" = some (.number wire.o) ∧
          WireNumber wire.a 0 ∧ WireNumber wire.o 0) values wires := by
  induction values generalizing index wires with
  | nil =>
    rw [List.forall₂_nil_left_iff]
    constructor
    · intro h
      cases h
      rfl
    · rintro rfl
      rfl
  | cons value values ih =>
    simp only [canonicalOidCancels, except_bind_eq_ok, objectAt_eq_ok,
      assertExactKeys_eq_ok, present_eq_ok, require_eq_ok, wireAssetId_eq_ok,
      Json.integer_eq_some, ih, List.forall₂_cons_left_iff]
    constructor
    · rintro ⟨fields, rfl, -, hkeys, o, ho, -, hoid, a, ⟨ha, hasset⟩, wires, hwires, hresult⟩
      cases hresult
      exact ⟨⟨a, o⟩, wires, ⟨fields, rfl, hkeys, ha, ho, hasset, hoid⟩, hwires, rfl⟩
    · rintro ⟨wire, wires, ⟨fields, rfl, hkeys, ha, ho, hasset, hoid⟩, hwires, rfl⟩
      exact ⟨fields, rfl, (), hkeys, wire.o, ho, (), hoid, wire.a, ⟨ha, hasset⟩, wires, hwires, rfl⟩

theorem canonicalCloidCancels_eq_ok {wires : List CancelByCloidWire} :
    canonicalCloidCancels index values = .ok wires ↔
      List.Forall₂ (fun value wire => ∃ fields text, value = .object fields ∧
          (fields.map Prod.fst).Perm ["asset", "cloid"] ∧
          value.field "asset" = some (.number wire.asset) ∧
          value.field "cloid" = some (.string text) ∧
          wire.cloid = asciiLower text ∧ WireNumber wire.asset 0 ∧
          cloidPattern.test text = true) values wires := by
  induction values generalizing index wires with
  | nil =>
    rw [List.forall₂_nil_left_iff]
    constructor
    · intro h
      cases h
      rfl
    · rintro rfl
      rfl
  | cons value values ih =>
    simp only [canonicalCloidCancels, except_bind_eq_ok, objectAt_eq_ok,
      assertExactKeys_eq_ok, wireAssetId_eq_ok, wireCloid_eq_ok,
      Json.integer_eq_some, Json.text_eq_some, ih, List.forall₂_cons_left_iff]
    constructor
    · rintro ⟨fields, rfl, -, hkeys, asset, ⟨ha, hasset⟩, cloid,
        ⟨text, htext, htest, rfl⟩, wires, hwires, hresult⟩
      cases hresult
      exact ⟨⟨asset, asciiLower text⟩, wires,
        ⟨fields, text, rfl, hkeys, ha, htext, rfl, hasset, htest⟩, hwires, rfl⟩
    · rintro ⟨⟨asset, cloid⟩, wires,
        ⟨fields, text, rfl, hkeys, ha, htext, rfl, hasset, htest⟩, hwires, rfl⟩
      exact ⟨fields, rfl, (), hkeys, asset, ⟨ha, hasset⟩, _, ⟨text, htext, htest, rfl⟩,
        wires, hwires, rfl⟩

/-! ### Actions -/

theorem arrayField_eq_some {items : List Json} :
    arrayField value key = some items ↔ value.field key = some (.array items) := by
  unfold arrayField
  split <;> simp_all

theorem wireCancels_eq_ok :
    wireCancels raw = .ok values ↔
      raw.field "cancels" = some (.array values) ∧
        1 ≤ values.length ∧ values.length ≤ maxBulkCancels := by
  simp only [wireCancels, except_bind_eq_ok, present_eq_ok, require_eq_ok, arrayField_eq_some]
  constructor
  · rintro ⟨_, hvalues, -, hcount, hresult⟩
    cases hresult
    exact ⟨hvalues, hcount⟩
  · rintro ⟨hvalues, hcount⟩
    exact ⟨values, hvalues, (), hcount, rfl⟩

def ObjectOf (raw : Json) (type : String) (keys : List String) : Prop :=
  (∃ fields, raw = .object fields ∧ (fields.map Prod.fst).Perm keys) ∧
    raw.field "type" = some (.string type)

def ActionReads (raw : Json) : ExchangeAction → Prop
  | .order orders grouping =>
    ObjectOf raw "order" ["type", "orders", "grouping"] ∧
      ∃ value wire, raw.field "orders" = some (.array [value]) ∧
        raw.field "grouping" = some (.string grouping.text) ∧ orders = [wire] ∧
        canonicalOrderWire value "action.orders[0]" grouping.kind = .ok wire
  | .modify oid wire =>
    ObjectOf raw "modify" ["type", "oid", "order"] ∧
      raw.field "oid" = some (.number oid) ∧ WireNumber oid 1 ∧
      canonicalOrderWire ((raw.field "order").getD .null) "action.order" .trigger =
        .ok wire
  | .cancel cancels =>
    ObjectOf raw "cancel" ["type", "cancels"] ∧
      ∃ values, raw.field "cancels" = some (.array values) ∧
        (1 ≤ values.length ∧ values.length ≤ maxBulkCancels) ∧
        canonicalOidCancels 0 values = .ok cancels
  | .cancelByCloid cancels =>
    ObjectOf raw "cancelByCloid" ["type", "cancels"] ∧
      ∃ values, raw.field "cancels" = some (.array values) ∧
        (1 ≤ values.length ∧ values.length ≤ maxBulkCancels) ∧
        canonicalCloidCancels 0 values = .ok cancels
  | .updateLeverage asset isCross leverage =>
    ObjectOf raw "updateLeverage" ["type", "asset", "isCross", "leverage"] ∧
      raw.field "asset" = some (.number asset) ∧
      raw.field "isCross" = some (.bool isCross) ∧
      raw.field "leverage" = some (.number leverage) ∧ WireNumber asset 0 ∧
      isSafeInteger leverage ∧ 1 ≤ leverage ∧ leverage ≤ 100

theorem canonicalOrderAction_eq_ok :
    canonicalOrderAction raw fields = .ok action ↔
      (fields.map Prod.fst).Perm ["type", "orders", "grouping"] ∧
        ∃ grouping value wire, raw.field "orders" = some (.array [value]) ∧
          raw.field "grouping" = some (.string grouping.text) ∧
          action = .order [wire] grouping ∧
          canonicalOrderWire value "action.orders[0]" grouping.kind = .ok wire := by
  simp only [canonicalOrderAction, except_bind_eq_ok, assertExactKeys_eq_ok,
    present_eq_ok, bind_text_eq_some, arrayField_eq_some, OrderGrouping.read_eq_some]
  constructor
  · rintro ⟨-, hkeys, grouping, ⟨text, hgrouping, rfl⟩, orders, horders, haction⟩
    split at haction
    · rename_i value
      obtain ⟨wire, hwire, hresult⟩ := except_bind_eq_ok.mp haction
      cases hresult
      exact ⟨hkeys, grouping, value, wire, horders, hgrouping, rfl, hwire⟩
    · simp [invalid] at haction
  · rintro ⟨hkeys, grouping, value, wire, horders, hgrouping, rfl, hwire⟩
    exact ⟨(), hkeys, grouping, ⟨_, hgrouping, rfl⟩, [value], horders,
      except_bind_eq_ok.mpr ⟨wire, hwire, rfl⟩⟩

theorem canonicalModifyAction_eq_ok :
    canonicalModifyAction raw fields = .ok action ↔
      (fields.map Prod.fst).Perm ["type", "oid", "order"] ∧
        ∃ oid wire, raw.field "oid" = some (.number oid) ∧ WireNumber oid 1 ∧
          action = .modify oid wire ∧
          canonicalOrderWire ((raw.field "order").getD .null) "action.order"
            .trigger = .ok wire := by
  simp only [canonicalModifyAction, except_bind_eq_ok, assertExactKeys_eq_ok,
    present_eq_ok, require_eq_ok, Json.integer_eq_some]
  constructor
  · rintro ⟨-, hkeys, oid, hoid, -, hnumber, wire, hwire, hresult⟩
    cases hresult
    exact ⟨hkeys, oid, wire, hoid, hnumber, rfl, hwire⟩
  · rintro ⟨hkeys, oid, wire, hoid, hnumber, rfl, hwire⟩
    exact ⟨(), hkeys, oid, hoid, (), hnumber, wire, hwire, rfl⟩

theorem canonicalLeverageAction_eq_ok :
    canonicalLeverageAction raw fields = .ok action ↔
      (fields.map Prod.fst).Perm ["type", "asset", "isCross", "leverage"] ∧
        ∃ asset isCross leverage, raw.field "asset" = some (.number asset) ∧
          raw.field "isCross" = some (.bool isCross) ∧
          raw.field "leverage" = some (.number leverage) ∧ WireNumber asset 0 ∧
          (isSafeInteger leverage ∧ 1 ≤ leverage ∧ leverage ≤ 100) ∧
          action = .updateLeverage asset isCross leverage := by
  simp only [canonicalLeverageAction, except_bind_eq_ok, assertExactKeys_eq_ok,
    present_eq_ok, require_eq_ok, wireAssetId_eq_ok, Json.integer_eq_some, Json.flag_eq_some]
  constructor
  · rintro ⟨-, hkeys, isCross, hcross, leverage, hleverage, -, hbounds, asset,
      ⟨hasset, hnumber⟩, hresult⟩
    cases hresult
    exact ⟨hkeys, asset, isCross, leverage, hasset, hcross, hleverage, hnumber, hbounds, rfl⟩
  · rintro ⟨hkeys, asset, isCross, leverage, hasset, hcross, hleverage, hnumber, hbounds, rfl⟩
    exact ⟨(), hkeys, isCross, hcross, leverage, hleverage, (), hbounds, asset,
      ⟨hasset, hnumber⟩, rfl⟩

theorem canonicalizeExchangeAction_eq_ok :
    canonicalizeExchangeAction raw = .ok action ↔ ActionReads raw action := by
  constructor
  · intro h
    simp only [canonicalizeExchangeAction, except_bind_eq_ok, objectAt_eq_ok] at h
    obtain ⟨fields, rfl, h⟩ := h
    split at h
    · rename_i htype
      obtain ⟨hkeys, grouping, value, wire, horders, hgrouping, rfl, hwire⟩ :=
        canonicalOrderAction_eq_ok.mp h
      exact ⟨⟨⟨fields, rfl, hkeys⟩, Json.text_eq_some.mp htype⟩, value, wire, horders,
        hgrouping, rfl, hwire⟩
    · rename_i htype
      obtain ⟨hkeys, oid, wire, hoid, hnumber, rfl, hwire⟩ :=
        canonicalModifyAction_eq_ok.mp h
      exact ⟨⟨⟨fields, rfl, hkeys⟩, Json.text_eq_some.mp htype⟩, hoid, hnumber, hwire⟩
    · rename_i htype
      simp only [except_bind_eq_ok, assertExactKeys_eq_ok, wireCancels_eq_ok] at h
      obtain ⟨-, hkeys, values, ⟨hvalues, hcount⟩, wires, hwires, hresult⟩ := h
      cases hresult
      exact ⟨⟨⟨fields, rfl, hkeys⟩, Json.text_eq_some.mp htype⟩, values, hvalues, hcount, hwires⟩
    · rename_i htype
      simp only [except_bind_eq_ok, assertExactKeys_eq_ok, wireCancels_eq_ok] at h
      obtain ⟨-, hkeys, values, ⟨hvalues, hcount⟩, wires, hwires, hresult⟩ := h
      cases hresult
      exact ⟨⟨⟨fields, rfl, hkeys⟩, Json.text_eq_some.mp htype⟩, values, hvalues, hcount, hwires⟩
    · rename_i htype
      obtain ⟨hkeys, asset, isCross, leverage, hasset, hcross, hleverage, hnumber,
        hbounds, rfl⟩ := canonicalLeverageAction_eq_ok.mp h
      exact ⟨⟨⟨fields, rfl, hkeys⟩, Json.text_eq_some.mp htype⟩, hasset, hcross,
        hleverage, hnumber, hbounds⟩
    · simp [invalid] at h
  · intro h
    cases action with
    | order orders grouping =>
      obtain ⟨⟨⟨fields, rfl, hkeys⟩, htype⟩, value, wire, horders, hgrouping, rfl, hwire⟩ := h
      simp only [canonicalizeExchangeAction, except_bind_eq_ok, objectAt_eq_ok,
        Json.text_eq_some.mpr htype]
      exact ⟨fields, rfl, canonicalOrderAction_eq_ok.mpr
        ⟨hkeys, grouping, value, wire, horders, hgrouping, rfl, hwire⟩⟩
    | modify oid wire =>
      obtain ⟨⟨⟨fields, rfl, hkeys⟩, htype⟩, hoid, hnumber, hwire⟩ := h
      simp only [canonicalizeExchangeAction, except_bind_eq_ok, objectAt_eq_ok,
        Json.text_eq_some.mpr htype]
      exact ⟨fields, rfl, canonicalModifyAction_eq_ok.mpr
        ⟨hkeys, oid, wire, hoid, hnumber, rfl, hwire⟩⟩
    | cancel cancels =>
      obtain ⟨⟨⟨fields, rfl, hkeys⟩, htype⟩, values, hvalues, hcount, hwires⟩ := h
      simp only [canonicalizeExchangeAction, except_bind_eq_ok, objectAt_eq_ok,
        Json.text_eq_some.mpr htype, assertExactKeys_eq_ok, wireCancels_eq_ok]
      exact ⟨fields, rfl, (), hkeys, values, ⟨hvalues, hcount⟩, cancels, hwires, rfl⟩
    | cancelByCloid cancels =>
      obtain ⟨⟨⟨fields, rfl, hkeys⟩, htype⟩, values, hvalues, hcount, hwires⟩ := h
      simp only [canonicalizeExchangeAction, except_bind_eq_ok, objectAt_eq_ok,
        Json.text_eq_some.mpr htype, assertExactKeys_eq_ok, wireCancels_eq_ok]
      exact ⟨fields, rfl, (), hkeys, values, ⟨hvalues, hcount⟩, cancels, hwires, rfl⟩
    | updateLeverage asset isCross leverage =>
      obtain ⟨⟨⟨fields, rfl, hkeys⟩, htype⟩, hasset, hcross, hleverage, hnumber, hbounds⟩ := h
      simp only [canonicalizeExchangeAction, except_bind_eq_ok, objectAt_eq_ok,
        Json.text_eq_some.mpr htype]
      exact ⟨fields, rfl, canonicalLeverageAction_eq_ok.mpr ⟨hkeys, asset, isCross,
        leverage, hasset, hcross, hleverage, hnumber, hbounds, rfl⟩⟩

theorem wellFormed_of_canonicalize
    (h : canonicalizeExchangeAction raw = .ok action) : action.WellFormed := by
  have hreads := canonicalizeExchangeAction_eq_ok.mp h
  cases action with
  | order orders grouping =>
    obtain ⟨-, value, wire, -, -, rfl, hwire⟩ := hreads
    exact ⟨wire, rfl, (canonicalOrderWire_reads hwire).wellFormed⟩
  | modify oid wire =>
    obtain ⟨-, -, hnumber, hwire⟩ := hreads
    exact ⟨hnumber, (canonicalOrderWire_reads hwire).wellFormed⟩
  | cancel cancels =>
    obtain ⟨-, values, -, hcount, hwires⟩ := hreads
    have hall := canonicalOidCancels_eq_ok.mp hwires
    refine ⟨hall.length_eq ▸ hcount, forall_mem_of_forall₂ hall ?_⟩
    rintro value cancel ⟨fields, -, -, -, -, hasset, hoid⟩
    exact ⟨hasset, hoid⟩
  | cancelByCloid cancels =>
    obtain ⟨-, values, -, hcount, hwires⟩ := hreads
    have hall := canonicalCloidCancels_eq_ok.mp hwires
    refine ⟨hall.length_eq ▸ hcount, forall_mem_of_forall₂ hall ?_⟩
    rintro value cancel ⟨fields, text, -, -, -, -, hcloid, hasset, htest⟩
    exact ⟨hasset, hcloid ▸ LowerCloid.of_test htest⟩
  | updateLeverage asset isCross leverage =>
    obtain ⟨-, -, -, -, hnumber, hbounds⟩ := hreads
    exact ⟨hnumber, hbounds⟩

/-- **A well-formed action is its own canonical copy.** -/
theorem canonicalizeExchangeAction_toJson (h : action.WellFormed) :
    canonicalizeExchangeAction action.toJson = .ok action := by
  refine canonicalizeExchangeAction_eq_ok.mpr ?_
  cases action with
  | order orders grouping =>
    obtain ⟨wire, rfl, hwire⟩ := h
    exact ⟨⟨⟨_, rfl, List.Perm.refl _⟩, rfl⟩, wire.toJson, wire, rfl, rfl, rfl,
      canonicalOrderWire_toJson hwire _⟩
  | modify oid wire =>
    obtain ⟨hnumber, hwire⟩ := h
    exact ⟨⟨⟨_, rfl, List.Perm.refl _⟩, rfl⟩, rfl, hnumber, canonicalOrderWire_toJson hwire _⟩
  | cancel cancels =>
    obtain ⟨hcount, hall⟩ := h
    refine ⟨⟨⟨_, rfl, List.Perm.refl _⟩, rfl⟩, _, rfl,
      by rwa [List.length_map], canonicalOidCancels_eq_ok.mpr ?_⟩
    rw [List.forall₂_map_left_iff, List.forall₂_same]
    intro cancel hcancel
    exact ⟨_, rfl, List.Perm.refl _, rfl, rfl, hall cancel hcancel⟩
  | cancelByCloid cancels =>
    obtain ⟨hcount, hall⟩ := h
    refine ⟨⟨⟨_, rfl, List.Perm.refl _⟩, rfl⟩, _, rfl,
      by rwa [List.length_map], canonicalCloidCancels_eq_ok.mpr ?_⟩
    rw [List.forall₂_map_left_iff, List.forall₂_same]
    intro cancel hcancel
    obtain ⟨hasset, htest, hlower⟩ := hall cancel hcancel
    exact ⟨_, cancel.cloid, rfl, List.Perm.refl _, rfl, rfl, hlower.symm, hasset, htest⟩
  | updateLeverage asset isCross leverage =>
    exact ⟨⟨⟨_, rfl, List.Perm.refl _⟩, rfl⟩, rfl, rfl, rfl, h⟩

/-! ### The order of the fields -/

def LowerCase (text : String) : Prop := asciiLower text = text

/-- The fields of an order are in the codec's order, and its client order ID is in
lower case. -/
def OrderInCodecOrder (order : Json) : Prop :=
  order.keys = orderKeys ∧
    (∀ orderType ∈ order.field "t", ∀ trigger ∈ orderType.field "trigger",
      trigger.keys = ["isMarket", "triggerPx", "tpsl"]) ∧
    ∀ cloid ∈ order.text "c", LowerCase cloid

/-- The fields of an action are in the codec's order, and its client order IDs are
in lower case. -/
def InCodecOrder (action : Json) : Prop :=
  match action.text "type" with
  | some "order" =>
    action.keys = ["type", "orders", "grouping"] ∧
      ∀ orders ∈ arrayField action "orders", ∀ order ∈ orders,
        OrderInCodecOrder order
  | some "modify" =>
    action.keys = ["type", "oid", "order"] ∧
      ∀ order ∈ action.field "order", OrderInCodecOrder order
  | some "cancel" =>
    action.keys = ["type", "cancels"] ∧
      ∀ cancels ∈ arrayField action "cancels", ∀ cancel ∈ cancels,
        cancel.keys = ["a", "o"]
  | some "cancelByCloid" =>
    action.keys = ["type", "cancels"] ∧
      ∀ cancels ∈ arrayField action "cancels", ∀ cancel ∈ cancels,
        cancel.keys = ["asset", "cloid"] ∧
          ∀ cloid ∈ cancel.text "cloid", LowerCase cloid
  | some "updateLeverage" =>
    action.keys = ["type", "asset", "isCross", "leverage"]
  | _ => False

theorem eq_of_keys
    {keys : List String} (hvalue : value = .object fields) (hkeys : value.keys = keys)
    (hnodup : keys.Nodup) :
    value = .object (keys.map fun key => (key, (value.field key).getD .null)) := by
  subst hvalue
  have hfields : fields.map Prod.fst = keys := hkeys
  have hall := Json.eq_object_of_keys (hfields ▸ hnodup)
  rw [hfields] at hall
  exact congrArg Json.object hall

theorem orderType_eq_of_keys {kind : OrderWireKind}
    (h : canonicalOrderType kind orderType reduceOnly path = .ok type)
    (horder : ∀ trigger ∈ orderType.field "trigger",
      trigger.keys = ["isMarket", "triggerPx", "tpsl"]) : orderType = type.toJson := by
  cases kind with
  | limit =>
    obtain ⟨tif, rfl, horderType⟩ := canonicalLimit_eq_ok.mp h
    exact horderType
  | trigger =>
    obtain ⟨triggerPx, tpsl, fields, rfl, rfl, -, hmarket, hprice, htpsl, -⟩ :=
      canonicalTrigger_eq_ok.mp h
    have hkeys := eq_of_keys rfl (horder _ rfl) (by decide)
    simp only [List.map_cons, List.map_nil, hmarket, hprice, htpsl, Option.getD_some] at hkeys
    rw [hkeys]
    rfl

/-- An accepted order is its canonical copy exactly when its fields are in order and
its client order ID is in lower case. -/
theorem order_eq_toJson_iff {kind : OrderWireKind}
    (h : canonicalOrderWire value path kind = .ok wire) :
    value = wire.toJson ↔ OrderInCodecOrder value := by
  obtain ⟨⟨fields, hvalue, -⟩, ha, hb, hp, hs, hr, ht, ⟨text, hc, hcloid⟩,
    hwellFormed⟩ := canonicalOrderWire_reads h
  constructor
  · rintro rfl
    refine ⟨rfl, ?_, ?_⟩
    · intro orderType horderType trigger htrigger
      cases horderType
      cases hwire : wire.t with
      | limit tif =>
        rw [hwire] at htrigger
        cases htrigger
      | trigger triggerPx tpsl =>
        rw [hwire] at htrigger
        cases htrigger
        rfl
    · intro cloid hmem
      cases hmem
      exact hwellFormed.c.2
  · rintro ⟨hkeys, htrigger, hlower⟩
    have heq := eq_of_keys hvalue hkeys (by decide)
    have htype : (value.field "t").getD .null = wire.t.toJson := by
      refine orderType_eq_of_keys ht ?_
      intro trigger hmem
      cases hfield : value.field "t" with
      | none =>
        rw [hfield] at hmem
        cases hmem
      | some orderType =>
        rw [hfield] at hmem
        exact htrigger orderType hfield trigger hmem
    have hlower : text = wire.c := by
      rw [hcloid]
      exact (hlower text (Json.text_eq_some.mpr hc)).symm
    simp only [orderKeys, List.map_cons, List.map_nil, ha, hb, hp, hs, hr, hc, htype,
      hlower, Option.getD_some] at heq
    exact heq

/-- **What an accepted action and its canonical copy differ in**: the order of the
fields and the case of the client order IDs. -/
theorem action_eq_toJson_iff (h : canonicalizeExchangeAction raw = .ok action) :
    raw = action.toJson ↔ InCodecOrder raw := by
  have hreads := canonicalizeExchangeAction_eq_ok.mp h
  cases action with
  | order orders grouping =>
    obtain ⟨⟨⟨fields, hraw, -⟩, htype⟩, value, wire, horders, hgrouping, rfl, hwire⟩ := hreads
    have hiff := order_eq_toJson_iff hwire
    simp only [InCodecOrder, Json.text_eq_some.mpr htype]
    constructor
    · rintro rfl
      refine ⟨rfl, ?_⟩
      intro items hitems item hitem
      cases hitems
      cases horders
      obtain rfl := List.mem_singleton.mp hitem
      exact hiff.mp rfl
    · rintro ⟨hkeys, hall⟩
      have hvalue := hiff.mpr
        (hall [value] (arrayField_eq_some.mpr horders) value List.mem_cons_self)
      have heq := eq_of_keys hraw hkeys (by decide)
      simp only [List.map_cons, List.map_nil, htype, horders, hgrouping,
        Option.getD_some, hvalue] at heq
      exact heq
  | modify oid wire =>
    obtain ⟨⟨⟨fields, hraw, -⟩, htype⟩, hoid, -, hwire⟩ := hreads
    have hiff := order_eq_toJson_iff hwire
    simp only [InCodecOrder, Json.text_eq_some.mpr htype]
    constructor
    · rintro rfl
      refine ⟨rfl, ?_⟩
      intro order horder
      cases horder
      exact hiff.mp rfl
    · rintro ⟨hkeys, hall⟩
      have heq := eq_of_keys hraw hkeys (by decide)
      obtain ⟨⟨orderFields, horder, -⟩, -⟩ := canonicalOrderWire_reads hwire
      have hfield : ∃ order, raw.field "order" = some order := by
        cases hfield : raw.field "order" with
        | none => simp [hfield] at horder
        | some order => exact ⟨order, rfl⟩
      obtain ⟨order, hfield⟩ := hfield
      have hvalue := hiff.mpr (by rw [hfield]; exact hall order hfield)
      simp only [List.map_cons, List.map_nil, htype, hoid, hvalue, Option.getD_some] at heq
      exact heq
  | cancel cancels =>
    obtain ⟨⟨⟨fields, hraw, -⟩, htype⟩, values, hvalues, -, hwires⟩ := hreads
    have hall := canonicalOidCancels_eq_ok.mp hwires
    simp only [InCodecOrder, Json.text_eq_some.mpr htype]
    constructor
    · rintro rfl
      refine ⟨rfl, ?_⟩
      intro items hitems item hitem
      cases hitems
      obtain ⟨cancel, -, rfl⟩ := List.mem_map.mp hitem
      rfl
    · rintro ⟨hkeys, horder⟩
      have heq := eq_of_keys hraw hkeys (by decide)
      have hitems : values = cancels.map CancelByOidWire.toJson := by
        rw [← List.forall₂_eq_eq_eq, List.forall₂_map_right_iff]
        refine ((List.forall₂_and_left _ _).mpr
          ⟨horder values (arrayField_eq_some.mpr hvalues), hall⟩).imp ?_
        rintro value wire ⟨hvalueKeys, itemFields, hvalue, -, ha, ho, -⟩
        have hitem := eq_of_keys hvalue hvalueKeys (by decide)
        simp only [List.map_cons, List.map_nil, ha, ho, Option.getD_some] at hitem
        exact hitem
      simp only [List.map_cons, List.map_nil, htype, hvalues, hitems, Option.getD_some] at heq
      exact heq
  | cancelByCloid cancels =>
    obtain ⟨⟨⟨fields, hraw, -⟩, htype⟩, values, hvalues, -, hwires⟩ := hreads
    have hall := canonicalCloidCancels_eq_ok.mp hwires
    simp only [InCodecOrder, Json.text_eq_some.mpr htype]
    constructor
    · rintro rfl
      refine ⟨rfl, ?_⟩
      intro items hitems item hitem
      cases hitems
      obtain ⟨cancel, hcancel, rfl⟩ := List.mem_map.mp hitem
      refine ⟨rfl, ?_⟩
      intro cloid hcloid
      cases hcloid
      exact ((wellFormed_of_canonicalize h).2 cancel hcancel).2.2
    · rintro ⟨hkeys, horder⟩
      have heq := eq_of_keys hraw hkeys (by decide)
      have hitems : values = cancels.map CancelByCloidWire.toJson := by
        rw [← List.forall₂_eq_eq_eq, List.forall₂_map_right_iff]
        refine ((List.forall₂_and_left _ _).mpr
          ⟨horder values (arrayField_eq_some.mpr hvalues), hall⟩).imp ?_
        rintro value wire ⟨⟨hvalueKeys, hlower⟩, itemFields, text, hvalue, -, hasset,
          htext, hcloid, -⟩
        have hsame : text = wire.cloid := by
          rw [hcloid]
          exact (hlower text (Json.text_eq_some.mpr htext)).symm
        have hitem := eq_of_keys hvalue hvalueKeys (by decide)
        simp only [List.map_cons, List.map_nil, hasset, htext, hsame, Option.getD_some] at hitem
        exact hitem
      simp only [List.map_cons, List.map_nil, htype, hvalues, hitems, Option.getD_some] at heq
      exact heq
  | updateLeverage asset isCross leverage =>
    obtain ⟨⟨⟨fields, hraw, -⟩, htype⟩, hasset, hcross, hleverage, -⟩ := hreads
    simp only [InCodecOrder, Json.text_eq_some.mpr htype]
    constructor
    · rintro rfl
      rfl
    · intro hkeys
      have heq := eq_of_keys hraw hkeys (by decide)
      simp only [List.map_cons, List.map_nil, htype, hasset, hcross, hleverage,
        Option.getD_some] at heq
      exact heq

/-- **Canonical copies.** Whatever is given, the canonical copy of a canonical copy is the
copy itself; and the canonical copies are the well-formed actions. -/
theorem canonical_copies (given : Json) :
    (canonicalizeExchangeAction given >>= fun action =>
        canonicalizeExchangeAction action.toJson) = canonicalizeExchangeAction given ∧
      ∀ action, (∃ raw, canonicalizeExchangeAction raw = .ok action) ↔ action.WellFormed := by
  constructor
  · cases hgiven : canonicalizeExchangeAction given with
    | error failure => rfl
    | ok action => exact canonicalizeExchangeAction_toJson (wellFormed_of_canonicalize hgiven)
  · intro action
    constructor
    · rintro ⟨raw, hraw⟩
      exact wellFormed_of_canonicalize hraw
    · exact fun h => ⟨action.toJson, canonicalizeExchangeAction_toJson h⟩

end HyperTrader
