import HyperTrader.Markets.Identity
import HyperTrader.Markets.Snapshot

/-!
# A discovered catalog, published

What the reader of a snapshot makes of the text of a catalog is the catalog itself or
nothing. What it asks of the shape of an entry, discovery gives every entry it makes;
what it asks of lengths, of counts and of the size of numbers, discovery does not ask,
and a catalog is read back exactly when it keeps those limits.
-/

namespace HyperTrader

open Library Library.Json

namespace Snapshot

/-! ### What the readers accept -/

variable {value : Option Json} {path : String} {maximum : ℕ} {allowEmpty : Bool} {n : ℤ} {α : Type}
  {fields : List (String × Option Json)}

theorem boundedString_eq_ok {text : String}
    : boundedString value path maximum allowEmpty = .ok text ↔
      value = some (.string text) ∧ fits text maximum allowEmpty := by
  unfold boundedString
  split
  · rw [invalid, ite_ok_eq_ok, Option.some.injEq, Json.string.injEq]
    exact and_congr_right fun h => h ▸ Iff.rfl
  · rename_i hstring
    exact iff_of_false (fun h => by cases h) fun h => hstring text h.1

theorem safeInteger_eq_ok :
    safeInteger value path = .ok n ↔ value = some (.number n) ∧ isSafeInteger n := by
  unfold safeInteger
  split
  · rw [invalid, ite_ok_eq_ok, Option.some.injEq, Json.number.injEq]
    exact and_congr_right fun h => h ▸ Iff.rfl
  · rename_i hnumber
    exact iff_of_false (fun h => by cases h) fun h => hnumber n h.1

theorem nonNegativeInteger_eq_ok :
    nonNegativeInteger value path = .ok n ↔
      value = some (.number n) ∧ isSafeInteger n ∧ 0 ≤ n := by
  unfold nonNegativeInteger
  split
  · rw [invalid, ite_ok_eq_ok, Option.some.injEq, Json.number.injEq]
    exact and_congr_right fun h => h ▸ Iff.rfl
  · rename_i hnumber
    exact iff_of_false (fun h => by cases h) fun h => hnumber n h.1

theorem positiveInteger_eq_ok :
    positiveInteger value path = .ok n ↔
      value = some (.number n) ∧ isSafeInteger n ∧ 1 ≤ n := by
  simp only [positiveInteger, except_bind_eq_ok, nonNegativeInteger_eq_ok]
  constructor
  · rintro ⟨m, ⟨rfl, hsafe, -⟩, h⟩
    split at h
    · cases h
    · cases h
      exact ⟨rfl, hsafe, by omega⟩
  · rintro ⟨rfl, hsafe, hpositive⟩
    exact ⟨n, ⟨rfl, hsafe, by omega⟩, if_neg (by omega)⟩

theorem boolean_eq_ok {b : Bool} : boolean value path = .ok b ↔ value = some (.bool b) := by
  unfold boolean
  split
  · simp [eq_comm]
  · rename_i hbool
    exact iff_of_false (fun h => by cases h) (hbool b)

theorem literalNull_eq_ok {u : Unit} : literalNull value path = .ok u ↔ value = some .null := by
  unfold literalNull
  split
  · simp
  · rename_i hnull
    exact iff_of_false (fun h => by cases h) hnull

theorem nullable_ofNullable (parse : Option Json → Parsed α)
    (write : α → Json) {p : α → Prop} (hnull : ∀ a, write a ≠ .null)
    (hparse : ∀ a b, parse (some (write a)) = .ok b ↔ b = a ∧ p a) {a b : Option α} :
    nullable parse (some (ofNullable write a)) = .ok b ↔ b = a ∧ ∀ c ∈ a, p c := by
  cases a with
  | none =>
    simp only [ofNullable, nullable, Except.ok.injEq, Option.mem_def, reduceCtorEq,
      false_implies, implies_true, and_true]
    exact eq_comm
  | some a =>
    have hread : nullable parse (some (ofNullable write (some a))) =
        (parse (some (write a))).map some := by
      rw [ofNullable, nullable]
      intro h
      exact hnull a (Option.some.inj h)
    rw [hread]
    constructor
    · intro h
      cases hparsed : parse (some (write a)) with
      | error error =>
        rw [hparsed] at h
        cases h
      | ok c =>
        rw [hparsed] at h
        cases h
        obtain ⟨rfl, hc⟩ := (hparse a c).mp hparsed
        exact ⟨rfl, fun d hd => Option.some.inj hd ▸ hc⟩
    · rintro ⟨rfl, hp⟩
      rw [(hparse a a).mpr ⟨rfl, hp a rfl⟩]
      rfl

theorem nullableBoundedString_ofNullable {a b : Option String} :
    nullableBoundedString (some (ofNullable .string a)) path maximum allowEmpty =
      .ok b ↔ b = a ∧ ∀ text ∈ a, fits text maximum allowEmpty := by
  refine nullable_ofNullable _ _ (fun _ => Json.noConfusion) ?_
  intro a b
  rw [boundedString_eq_ok]
  constructor
  · rintro ⟨h, hfits⟩
    cases h
    exact ⟨rfl, hfits⟩
  · rintro ⟨rfl, hfits⟩
    exact ⟨rfl, hfits⟩

theorem nullableNonNegativeInteger_ofNullable {a b : Option ℤ} :
    nullableNonNegativeInteger (some (ofNullable .number a)) path = .ok b ↔
      b = a ∧ ∀ n ∈ a, isSafeInteger n ∧ 0 ≤ n := by
  refine nullable_ofNullable _ _ (fun _ => Json.noConfusion) ?_
  intro a b
  rw [nonNegativeInteger_eq_ok]
  constructor
  · rintro ⟨h, hsafe⟩
    cases h
    exact ⟨rfl, hsafe⟩
  · rintro ⟨rfl, hsafe⟩
    exact ⟨rfl, hsafe⟩

theorem mapM_zipIdx_map (parse : Json → ℕ → Parsed α) (write : α → Json)
    {p : α → Prop} (hparse : ∀ a i b, parse (write a) i = .ok b ↔ b = a ∧ p a)
    (l l' : List α) (n : ℕ) :
    ((l.map write).zipIdx n).mapM (fun entry => parse entry.1 entry.2) = .ok l' ↔
      l' = l ∧ ∀ a ∈ l, p a := by
  induction l generalizing l' n with
  | nil => simp [pure, Except.pure, eq_comm]
  | cons a l ih =>
    simp only [List.map_cons, List.zipIdx_cons, List.mapM_cons, except_bind_eq_ok,
      hparse, ih, pure, Except.pure, Except.ok.injEq, List.forall_mem_cons]
    constructor
    · rintro ⟨_, ⟨rfl, ha⟩, _, ⟨rfl, hl⟩, rfl⟩
      exact ⟨rfl, ha, hl⟩
    · rintro ⟨rfl, ha, hl⟩
      exact ⟨a, ⟨rfl, ha⟩, l, ⟨rfl, hl⟩, rfl⟩

theorem boundedArray_eq_ok {items items' : List Json} :
    boundedArray (some (.array items)) path maximum = .ok items' ↔
      items' = items ∧ items.length ≤ maximum := by
  unfold boundedArray
  dsimp only
  split
  · simp [eq_comm, *]
  · rename_i hlength
    constructor
    · intro h
      cases h
    · rintro ⟨-, h⟩
      exact absurd h hlength

theorem stringArray_map {l l' : List String} :
    stringArray (some (.array (l.map .string))) path maximum = .ok l' ↔
      l' = l ∧ l.length ≤ maximum ∧ ∀ text ∈ l, fits text 1024 false := by
  have hentry : ∀ (a : String) (i : ℕ) (b : String),
      boundedString (some (.string a)) (Catalog.indexed path i) 1024 false = .ok b ↔
        b = a ∧ fits a 1024 false := by
    intro a i b
    rw [boundedString_eq_ok]
    constructor
    · rintro ⟨h, hfits⟩
      cases h
      exact ⟨rfl, hfits⟩
    · rintro ⟨rfl, hfits⟩
      exact ⟨rfl, hfits⟩
  have hentries := mapM_zipIdx_map
    (fun value i => boundedString (some value) (Catalog.indexed path i) 1024 false)
    .string hentry l l' 0
  simp only [stringArray, except_bind_eq_ok, boundedArray_eq_ok, List.length_map]
  constructor
  · rintro ⟨_, ⟨rfl, hlength⟩, hread⟩
    obtain ⟨hsame, hfits⟩ := hentries.mp hread
    exact ⟨hsame, hlength, hfits⟩
  · rintro ⟨hsame, hlength, hfits⟩
    exact ⟨_, ⟨rfl, hlength⟩, hentries.mpr ⟨hsame, hfits⟩⟩

theorem exactKeys_ofFields {keys : List String} (hnodup : (fields.map Prod.fst).Nodup)
    (hkeys : (fields.map Prod.fst).Perm keys) : exactKeys (ofFields fields) path keys = .ok () := by
  rw [exactKeys, if_pos]
  rw [List.isPerm_iff, keys_ofFields hnodup]
  exact hkeys.filter _

theorem record_ofFields :
    record (some (ofFields fields)) path = .ok (ofFields fields) := rfl

theorem exactRecord_ofFields (path : String)
    (keys : List String) (hnodup : (fields.map Prod.fst).Nodup)
    (hkeys : (fields.map Prod.fst).Perm keys) (value : Json) :
    exactRecord (some (ofFields fields)) path keys = .ok value ↔
      value = ofFields fields := by
  simp only [exactRecord, except_bind_eq_ok, record_ofFields, Except.ok.injEq,
    exists_eq_left', exactKeys_ofFields hnodup hkeys, pure, Except.pure, exists_const, true_and]
  exact eq_comm

end Snapshot

/-! ### Contexts -/

variable {path text : String}

theorem parseDecimalString_eq_ok {value : Option Json} :
    parseDecimalString value path = .ok text ↔
      value = some (.string text) ∧ isDecimalString text = true := by
  unfold parseDecimalString
  split
  · rename_i other
    constructor
    · intro h
      split at h
      · cases h
        exact ⟨rfl, ‹_›⟩
      · cases h
    · rintro ⟨h, hdecimal⟩
      cases h
      exact if_pos hdecimal
  · rename_i hstring
    constructor
    · intro h
      cases h
    · rintro ⟨rfl, -⟩
      exact absurd rfl (hstring text)

theorem parseDecimalString_string {text' : String} :
    parseDecimalString (some (.string text)) path = .ok text' ↔
      text' = text ∧ isDecimalString text = true := by
  rw [parseDecimalString_eq_ok]
  constructor
  · rintro ⟨h, hdecimal⟩
    cases h
    exact ⟨rfl, hdecimal⟩
  · rintro ⟨rfl, hdecimal⟩
    exact ⟨rfl, hdecimal⟩

theorem parseNullableDecimalString_ofNullable {a b : Option String} :
    parseNullableDecimalString (some (ofNullable .string a)) path = .ok b ↔
      b = a ∧ ∀ text ∈ a, isDecimalString text = true :=
  Snapshot.nullable_ofNullable _ _ (fun _ => Json.noConfusion)
    fun _ _ => parseDecimalString_string

namespace MarketContext

structure Decimal (context : MarketContext) : Prop where
  dayNtlVlm : ∀ text ∈ context.dayNtlVlm, isDecimalString text = true
  dayBaseVlm : ∀ text ∈ context.dayBaseVlm, isDecimalString text = true
  funding : ∀ text ∈ context.funding, isDecimalString text = true
  impactPxs : ∀ prices ∈ context.impactPxs, ∀ pair ∈ prices,
    isDecimalString pair.1 = true ∧ isDecimalString pair.2 = true
  markPx : ∀ text ∈ context.markPx, isDecimalString text = true
  midPx : ∀ price ∈ context.midPx, ∀ text ∈ price, isDecimalString text = true
  openInterest : ∀ text ∈ context.openInterest, isDecimalString text = true
  oraclePx : ∀ text ∈ context.oraclePx, isDecimalString text = true
  premium : ∀ price ∈ context.premium, ∀ text ∈ price, isDecimalString text = true
  prevDayPx : ∀ text ∈ context.prevDayPx, isDecimalString text = true

end MarketContext

theorem optional_written {α : Type} (parse : Option Json → String → Parsed α)
    (write : α → Json) {p : α → Prop} {source : Json} {key : String}
    {a : Option α} (b : Option α) (hfield : source.field key = a.map write)
    (hparse : ∀ a path b, parse (some (write a)) path = .ok b ↔ b = a ∧ p a) :
    Catalog.optional parse source key path = .ok b ↔ b = a ∧ ∀ c ∈ a, p c := by
  unfold Catalog.optional
  rw [hfield]
  cases a with
  | none =>
    simp only [Option.map_none, Except.ok.injEq, Option.mem_def, reduceCtorEq,
      false_implies, implies_true, and_true]
    exact eq_comm
  | some a =>
    simp only [Option.map_some]
    constructor
    · intro h
      cases hparsed : parse (some (write a)) (path ++ "." ++ key) with
      | error error =>
        rw [hparsed] at h
        cases h
      | ok c =>
        rw [hparsed] at h
        cases h
        obtain ⟨rfl, hc⟩ := (hparse a _ c).mp hparsed
        exact ⟨rfl, fun d hd => Option.some.inj hd ▸ hc⟩
    · rintro ⟨rfl, hp⟩
      rw [(hparse a _ a).mpr ⟨rfl, hp a rfl⟩]
      rfl

namespace Snapshot

variable {path : String}

theorem impactPrices_ofNullable {a b : Option (String × String)} :
    impactPrices (some (ofNullable MarketContext.impactJson a)) path = .ok b ↔
      b = a ∧ ∀ pair ∈ a, isDecimalString pair.1 = true ∧
        isDecimalString pair.2 = true := by
  cases a with
  | none =>
    simp only [ofNullable, impactPrices, Except.ok.injEq, Option.mem_def, reduceCtorEq,
      false_implies, implies_true, and_true]
    exact eq_comm
  | some pair =>
    obtain ⟨bid, ask⟩ := pair
    simp only [ofNullable, MarketContext.impactJson, impactPrices, except_bind_eq_ok,
      parseDecimalString_string, pure, Except.pure, Except.ok.injEq]
    constructor
    · rintro ⟨_, ⟨rfl, hbid⟩, _, ⟨rfl, hask⟩, rfl⟩
      exact ⟨rfl, fun pair hpair => Option.some.inj hpair ▸ ⟨hbid, hask⟩⟩
    · rintro ⟨rfl, hdecimal⟩
      obtain ⟨hbid, hask⟩ := hdecimal _ rfl
      exact ⟨bid, ⟨rfl, hbid⟩, ask, ⟨rfl, hask⟩, rfl⟩

theorem parseContext_written {value : Json} {context context' : MarketContext}
    (h : ∀ key ∈ contextKeys, value.field key = written context.fields key) :
    parseContext value path = .ok context' ↔ context' = context ∧ context.Decimal := by
  have hfield : ∀ key ∈ contextKeys, ∀ expected,
      written context.fields key = expected → value.field key = expected :=
    fun key hkey expected hexpected => (h key hkey).trans hexpected
  have hdecimal : ∀ (key : String) (a b : Option String), key ∈ contextKeys →
      written context.fields key = a.map .string →
        (Catalog.optional parseDecimalString value key path = .ok b ↔
          b = a ∧ ∀ text ∈ a, isDecimalString text = true) :=
    fun key a b hkey hwritten => optional_written parseDecimalString .string b
      (hfield key hkey _ hwritten) fun _ _ _ => parseDecimalString_string
  have hnullable : ∀ (key : String) (a b : Option (Option String)),
      key ∈ contextKeys → written context.fields key = a.map (ofNullable .string) →
        (Catalog.optional parseNullableDecimalString value key path = .ok b ↔
          b = a ∧ ∀ price ∈ a, ∀ text ∈ price, isDecimalString text = true) :=
    fun key a b hkey hwritten => optional_written parseNullableDecimalString
      (ofNullable .string) b (hfield key hkey _ hwritten)
      fun _ _ _ => parseNullableDecimalString_ofNullable
  have himpact : ∀ b, Catalog.optional impactPrices value "impactPxs" path = .ok b ↔
      b = context.impactPxs ∧ ∀ prices ∈ context.impactPxs, ∀ pair ∈ prices,
        isDecimalString pair.1 = true ∧ isDecimalString pair.2 = true :=
    fun b => optional_written impactPrices (ofNullable MarketContext.impactJson) b
      (hfield _ (by decide) _ (by simp [MarketContext.fields, written_cons]))
      fun _ _ _ => impactPrices_ofNullable
  have hdayNtlVlm := fun b => hdecimal "dayNtlVlm" context.dayNtlVlm b (by decide)
    (by simp [MarketContext.fields, written_cons])
  have hdayBaseVlm := fun b => hdecimal "dayBaseVlm" context.dayBaseVlm b (by decide)
    (by simp [MarketContext.fields, written_cons])
  have hfunding := fun b => hdecimal "funding" context.funding b (by decide)
    (by simp [MarketContext.fields, written_cons])
  have hmarkPx := fun b => hdecimal "markPx" context.markPx b (by decide)
    (by simp [MarketContext.fields, written_cons])
  have hopenInterest := fun b => hdecimal "openInterest" context.openInterest b
    (by decide) (by simp [MarketContext.fields, written_cons])
  have horaclePx := fun b => hdecimal "oraclePx" context.oraclePx b (by decide)
    (by simp [MarketContext.fields, written_cons])
  have hprevDayPx := fun b => hdecimal "prevDayPx" context.prevDayPx b (by decide)
    (by simp [MarketContext.fields, written_cons])
  have hmidPx := fun b => hnullable "midPx" context.midPx b (by decide)
    (by simp [MarketContext.fields, written_cons])
  have hpremium := fun b => hnullable "premium" context.premium b (by decide)
    (by simp [MarketContext.fields, written_cons])
  simp only [parseContext, except_bind_eq_ok, hdayNtlVlm, hdayBaseVlm, hfunding, hmarkPx,
    hopenInterest, horaclePx, hprevDayPx, hmidPx, hpremium, himpact, pure, Except.pure,
    Except.ok.injEq]
  constructor
  · rintro ⟨_, ⟨rfl, h1⟩, _, ⟨rfl, h2⟩, _, ⟨rfl, h3⟩, _, ⟨rfl, h4⟩, _, ⟨rfl, h5⟩, _,
      ⟨rfl, h6⟩, _, ⟨rfl, h7⟩, _, ⟨rfl, h8⟩, _, ⟨rfl, h9⟩, _, ⟨rfl, h10⟩, rfl⟩
    exact ⟨rfl, ⟨h1, h2, h3, h10, h4, h8, h5, h6, h9, h7⟩⟩
  · rintro ⟨rfl, hc⟩
    exact ⟨_, ⟨rfl, hc.dayNtlVlm⟩, _, ⟨rfl, hc.dayBaseVlm⟩, _, ⟨rfl, hc.funding⟩, _,
      ⟨rfl, hc.markPx⟩, _, ⟨rfl, hc.openInterest⟩, _, ⟨rfl, hc.oraclePx⟩, _,
      ⟨rfl, hc.prevDayPx⟩, _, ⟨rfl, hc.midPx⟩, _, ⟨rfl, hc.premium⟩, _, ⟨rfl, hc.impactPxs⟩, rfl⟩

end Snapshot

/-! ### Tokens and precisions -/

theorem PricePrecisionInputs.nodup_fields (precision : PricePrecisionInputs) :
    (precision.fields.map Prod.fst).Nodup := by
  simp [fields, definite]

theorem TokenEvmContract.nodup_fields (contract : TokenEvmContract) :
    (contract.fields.map Prod.fst).Nodup := by
  simp [fields, definite]

theorem TokenIdentity.nodup_fields (token : TokenIdentity) : (token.fields.map Prod.fst).Nodup := by
  simp [fields, definite]

structure TokenEvmContract.Accepted (contract : TokenEvmContract) : Prop where
  address : Snapshot.fits contract.address 42 false
  lowercase : lowercaseAddressPattern.test contract.address = true
  safe : isSafeInteger contract.extraWeiDecimals
  range : -255 ≤ contract.extraWeiDecimals ∧ contract.extraWeiDecimals ≤ 255

structure TokenIdentity.Accepted (token : TokenIdentity) : Prop where
  index : isSafeInteger token.index ∧ 0 ≤ token.index
  tokenId : Snapshot.fits token.tokenId 256 false
  name : Snapshot.fits token.name 256 false
  fullName : ∀ text ∈ token.fullName, Snapshot.fits text 256 false
  sizeDecimals : isSafeInteger token.sizeDecimals ∧ 0 ≤ token.sizeDecimals
  weiDecimals : isSafeInteger token.weiDecimals ∧ 0 ≤ token.weiDecimals
  evmContract : ∀ contract ∈ token.evmContract, contract.Accepted

namespace Snapshot

variable {path : String}

theorem parsePricePrecision_toJson {precision precision' : PricePrecisionInputs} {expected : ℤ} :
    parsePricePrecision (some precision.toJson) path expected = .ok precision' ↔
      precision' = precision ∧ precision = ⟨5, expected⟩ := by
  have hrecord := exactRecord_ofFields path
    ["maxSignificantFigures", "maxDecimalPlaces"] precision.nodup_fields (.refl _)
  simp only [parsePricePrecision, except_bind_eq_ok, PricePrecisionInputs.toJson,
    hrecord, exists_eq_left, Json.integer_eq_some, field_ofFields precision.nodup_fields]
  simp only [PricePrecisionInputs.fields, definite, List.map_cons, List.map_nil,
    written_cons, String.reduceEq, if_true, if_false, Option.some.injEq, Json.number.injEq]
  obtain ⟨figures, places⟩ := precision
  constructor
  · intro h
    split at h
    · rename_i hsame
      obtain ⟨rfl, rfl⟩ := hsame
      cases h
      exact ⟨rfl, rfl⟩
    · cases h
  · rintro ⟨rfl, hsame⟩
    cases hsame
    exact if_pos ⟨rfl, rfl⟩

theorem parseTokenEvmContract_toJson {contract contract' : TokenEvmContract} :
    parseTokenEvmContract (some contract.toJson) path = .ok contract' ↔
      contract' = contract ∧ contract.Accepted := by
  have hrecord := exactRecord_ofFields path ["address", "extraWeiDecimals"]
    contract.nodup_fields (.refl _)
  simp only [parseTokenEvmContract, except_bind_eq_ok, TokenEvmContract.toJson,
    hrecord, exists_eq_left, field_ofFields contract.nodup_fields]
  simp only [TokenEvmContract.fields, definite, List.map_cons, List.map_nil,
    written_cons, String.reduceEq, if_true, if_false, boundedString_eq_ok,
    Option.some.injEq, Json.string.injEq]
  constructor
  · rintro ⟨_, ⟨rfl, haddress⟩, h⟩
    split at h
    · rename_i hlowercase
      simp only [except_bind_eq_ok, safeInteger_eq_ok, Option.some.injEq, Json.number.injEq] at h
      obtain ⟨_, ⟨rfl, hsafe⟩, h⟩ := h
      split at h
      · rename_i hrange
        cases h
        exact ⟨rfl, haddress, hlowercase, hsafe, hrange⟩
      · cases h
    · cases h
  · rintro ⟨rfl, haccepted⟩
    refine ⟨_, ⟨rfl, haccepted.address⟩, ?_⟩
    rw [if_pos haccepted.lowercase]
    simp only [except_bind_eq_ok, safeInteger_eq_ok, Option.some.injEq, Json.number.injEq]
    exact ⟨_, ⟨rfl, haccepted.safe⟩, if_pos haccepted.range⟩

theorem parseToken_toJson {token token' : TokenIdentity} :
    parseToken (some token.toJson) path = .ok token' ↔
      token' = token ∧ token.Accepted := by
  have hrecord := exactRecord_ofFields path ["index", "tokenId", "name", "fullName",
    "sizeDecimals", "weiDecimals", "isCanonical", "evmContract"] token.nodup_fields
    (.refl _)
  have hcontract : ∀ contract, nullable
      (fun value => parseTokenEvmContract value (path ++ ".evmContract"))
      (some (ofNullable TokenEvmContract.toJson token.evmContract)) = .ok contract ↔
        contract = token.evmContract ∧ ∀ c ∈ token.evmContract, c.Accepted :=
    fun contract => nullable_ofNullable _ _ (fun _ => Json.noConfusion)
      fun _ _ => parseTokenEvmContract_toJson
  simp only [parseToken, except_bind_eq_ok, TokenIdentity.toJson, hrecord,
    exists_eq_left, field_ofFields token.nodup_fields]
  simp only [TokenIdentity.fields, definite, List.map_cons, List.map_nil,
    written_cons, String.reduceEq, if_true, if_false, boundedString_eq_ok,
    nonNegativeInteger_eq_ok, nullableBoundedString_ofNullable, boolean_eq_ok, hcontract,
    Option.some.injEq, Json.string.injEq, Json.number.injEq, Json.bool.injEq, pure,
    Except.pure, Except.ok.injEq]
  constructor
  · rintro ⟨_, ⟨rfl, h1⟩, _, ⟨rfl, h2⟩, _, ⟨rfl, h3⟩, _, ⟨rfl, h4⟩, _, ⟨rfl, h5⟩, _,
      ⟨rfl, h6⟩, _, rfl, _, ⟨rfl, h7⟩, rfl⟩
    exact ⟨rfl, h1, h2, h3, h4, h5, h6, h7⟩
  · rintro ⟨rfl, h⟩
    exact ⟨_, ⟨rfl, h.index⟩, _, ⟨rfl, h.tokenId⟩, _, ⟨rfl, h.name⟩, _,
      ⟨rfl, h.fullName⟩, _, ⟨rfl, h.sizeDecimals⟩, _, ⟨rfl, h.weiDecimals⟩, _, rfl, _,
      ⟨rfl, h.evmContract⟩, rfl⟩

end Snapshot

/-! ### Markets -/

structure BaseMarket.Accepted (market : BaseMarket) : Prop where
  canonicalId : Snapshot.fits market.canonicalId 256 false
  displaySymbol : Snapshot.fits market.displaySymbol 256 false
  coin : Snapshot.fits market.coin 256 false
  universeIndex : isSafeInteger market.universeIndex ∧ 0 ≤ market.universeIndex
  orderAssetId : isSafeInteger market.orderAssetId ∧ 0 ≤ market.orderAssetId
  validationReasons : market.validationReasons.length ≤ 64 ∧
    ∀ text ∈ market.validationReasons, Snapshot.fits text 1024 false
  context : market.context.Decimal

structure PerpMarket.Accepted (market : PerpMarket) : Prop where
  base : market.toBaseMarket.Accepted
  dexIndex : isSafeInteger market.dexIndex ∧ 0 ≤ market.dexIndex
  dexName : Snapshot.fits market.dexName 128 true
  dexFullName : ∀ text ∈ market.dexFullName, Snapshot.fits text 256 false
  sizeDecimals : 0 ≤ market.sizeDecimals ∧ market.sizeDecimals ≤ 6
  pricePrecision : market.pricePrecision = ⟨5, 6 - market.sizeDecimals⟩
  maxLeverage : isSafeInteger market.maxLeverage ∧ 1 ≤ market.maxLeverage
  marginMode : ∀ text ∈ market.marginMode, Snapshot.fits text 128 false
  marginTableId : ∀ n ∈ market.marginTableId, isSafeInteger n ∧ 0 ≤ n

structure SpotMarket.Accepted (market : SpotMarket) : Prop where
  base : market.toBaseMarket.Accepted
  sizeDecimals : 0 ≤ market.sizeDecimals ∧ market.sizeDecimals ≤ 8
  pricePrecision : market.pricePrecision = ⟨5, 8 - market.sizeDecimals⟩
  baseToken : market.baseToken.Accepted
  quoteToken : market.quoteToken.Accepted

structure OutcomeMarket.Accepted (market : OutcomeMarket) : Prop where
  base : market.toBaseMarket.Accepted
  outcome : isSafeInteger market.outcome ∧ 0 ≤ market.outcome
  outcomeName : Snapshot.fits market.outcomeName 256 false
  description : Snapshot.fits market.description 4096 true
  sideName : Snapshot.fits market.sideName 256 false
  encoding : isSafeInteger market.encoding ∧ 0 ≤ market.encoding

def Market.Accepted : Market → Prop
  | .perp market => market.Accepted
  | .spot market => market.Accepted
  | .outcome market => market.Accepted

structure BaseMarket.WrittenIn (market : BaseMarket) (value : Json) : Prop where
  canonicalId : value.field "canonicalId" = some (.string market.canonicalId)
  displaySymbol : value.field "displaySymbol" = some (.string market.displaySymbol)
  coin : value.field "coin" = some (.string market.coin)
  universeIndex : value.field "universeIndex" = some (.number market.universeIndex)
  orderAssetId : value.field "orderAssetId" = some (.number market.orderAssetId)
  lifecycle : value.field "lifecycle" = some (.string market.lifecycle.text)
  orderAvailability : value.field "orderAvailability" =
    some (.string market.orderAvailability.text)
  validationReasons : value.field "validationReasons" =
    some (.array (market.validationReasons.map .string))
  context : ∀ key ∈ Snapshot.contextKeys,
    value.field key = written market.context.fields key

namespace Snapshot

variable {path message : String}

theorem lifecycle_text {state state' : MarketLifecycle} :
    lifecycle (some (.string state.text)) path = .ok state' ↔ state' = state := by
  cases state <;> cases state' <;> simp [lifecycle, oneOf, MarketLifecycle.text]

theorem availability_text {state state' : OrderAvailability} :
    oneOf [("enabled", OrderAvailability.enabled), ("browse_only", .browseOnly)]
      (some (.string state.text)) path message = .ok state' ↔ state' = state := by
  cases state <;> cases state' <;> simp [oneOf, OrderAvailability.text]

theorem family_text {family family' : MarketFamily} :
    oneOf families (some (.string family.text)) path message = .ok family' ↔
      family' = family := by
  cases family <;> cases family' <;> simp [oneOf, families, MarketFamily.text]

theorem parseBaseMarket_written {value : Json}
    {market market' : BaseMarket} (h : market.WrittenIn value) :
    parseBaseMarket value path = .ok market' ↔
      market' = market ∧ market.Accepted := by
  simp only [parseBaseMarket, except_bind_eq_ok, h.canonicalId, h.displaySymbol, h.coin,
    h.universeIndex, h.orderAssetId, h.lifecycle, h.orderAvailability,
    h.validationReasons, parseContext_written h.context, boundedString_eq_ok,
    nonNegativeInteger_eq_ok, lifecycle_text, availability_text, stringArray_map,
    Option.some.injEq, Json.string.injEq, Json.number.injEq, pure, Except.pure, Except.ok.injEq]
  constructor
  · rintro ⟨_, ⟨rfl, h1⟩, _, ⟨rfl, h2⟩, _, ⟨rfl, h3⟩, _, ⟨rfl, h4⟩, _, ⟨rfl, h5⟩, _, rfl,
      _, rfl, _, ⟨rfl, h6⟩, _, ⟨rfl, h7⟩, rfl⟩
    exact ⟨rfl, h1, h2, h3, h4, h5, h6, h7⟩
  · rintro ⟨rfl, h⟩
    exact ⟨_, ⟨rfl, h.canonicalId⟩, _, ⟨rfl, h.displaySymbol⟩, _, ⟨rfl, h.coin⟩, _,
      ⟨rfl, h.universeIndex⟩, _, ⟨rfl, h.orderAssetId⟩, _, rfl, _, rfl, _,
      ⟨rfl, h.validationReasons⟩, _, ⟨rfl, h.context⟩, rfl⟩

end Snapshot

theorem written_context {names : List (String × Json)} {context : MarketContext}
    (h : ∀ key ∈ Snapshot.contextKeys, key ∉ names.map Prod.fst) :
    ∀ key ∈ Snapshot.contextKeys,
      written (definite names ++ context.fields) key = written context.fields key := by
  intro key hkey
  have hnot := h key hkey
  clear h
  induction names with
  | nil => rfl
  | cons name names ih =>
    simp only [List.map_cons, List.mem_cons, not_or] at hnot
    have hcons : definite (name :: names) ++ context.fields =
        (name.1, some name.2) :: (definite names ++ context.fields) := rfl
    rw [hcons, written_cons, if_neg (Ne.symm hnot.1)]
    exact ih hnot.2

theorem PerpMarket.nodup_fields (market : PerpMarket) : (market.fields.map Prod.fst).Nodup := by
  simp [fields, definite, MarketContext.fields]

theorem SpotMarket.nodup_fields (market : SpotMarket) : (market.fields.map Prod.fst).Nodup := by
  simp [fields, definite, MarketContext.fields]

theorem OutcomeMarket.nodup_fields (market : OutcomeMarket) :
    (market.fields.map Prod.fst).Nodup := by
  simp [fields, definite, MarketContext.fields]

theorem PerpMarket.writtenIn (market : PerpMarket) :
    market.toBaseMarket.WrittenIn (ofFields market.fields) := by
  have hfield := field_ofFields market.nodup_fields
  constructor
  case context =>
    intro key hkey
    rw [hfield]
    exact written_context (by simp [Snapshot.contextKeys]) key hkey
  all_goals
    rw [hfield]
    simp [fields, definite, written_cons]

theorem SpotMarket.writtenIn (market : SpotMarket) :
    market.toBaseMarket.WrittenIn (ofFields market.fields) := by
  have hfield := field_ofFields market.nodup_fields
  constructor
  case context =>
    intro key hkey
    rw [hfield]
    exact written_context (by simp [Snapshot.contextKeys]) key hkey
  all_goals
    rw [hfield]
    simp [fields, definite, written_cons]

theorem OutcomeMarket.writtenIn (market : OutcomeMarket) :
    market.toBaseMarket.WrittenIn (ofFields market.fields) := by
  have hfield := field_ofFields market.nodup_fields
  constructor
  case context =>
    intro key hkey
    rw [hfield]
    exact written_context (by simp [Snapshot.contextKeys]) key hkey
  all_goals
    rw [hfield]
    simp [fields, definite, written_cons]

namespace Snapshot

variable {path : String}

theorem parsePerpMarket_fields {market market' : PerpMarket} :
    parsePerpMarket (ofFields market.fields) path market.toBaseMarket = .ok market' ∧
        market.toBaseMarket.Accepted ↔ market' = market ∧ market.Accepted := by
  simp only [parsePerpMarket, except_bind_eq_ok, field_ofFields market.nodup_fields]
  simp only [PerpMarket.fields, definite, List.map_cons, List.cons_append, written_cons,
    String.reduceEq, if_true, if_false, nonNegativeInteger_eq_ok, boundedString_eq_ok,
    nullableBoundedString_ofNullable, Option.some.injEq, Json.string.injEq, Json.number.injEq]
  constructor
  · rintro ⟨⟨_, ⟨rfl, h1⟩, _, ⟨rfl, h2⟩, _, ⟨rfl, h3⟩, _, ⟨rfl, h4⟩, h⟩, hbase⟩
    split at h
    · cases h
    · rename_i hprecise
      simp only [except_bind_eq_ok, parsePricePrecision_toJson, positiveInteger_eq_ok,
        boolean_eq_ok, nullableBoundedString_ofNullable,
        nullableNonNegativeInteger_ofNullable, Option.some.injEq, Json.number.injEq,
        Json.bool.injEq, pure, Except.pure, Except.ok.injEq] at h
      obtain ⟨_, ⟨rfl, h5⟩, _, ⟨rfl, h6⟩, _, rfl, _, ⟨rfl, h7⟩, _, ⟨rfl, h8⟩, rfl⟩ := h
      exact ⟨rfl, hbase, h1, h2, h3, ⟨h4.2, not_lt.mp hprecise⟩, h5, h6, h7, h8⟩
  · rintro ⟨rfl, h⟩
    have hsafe : isSafeInteger market'.sizeDecimals := by
      have hrange := h.sizeDecimals
      unfold isSafeInteger
      omega
    refine ⟨⟨_, ⟨rfl, h.dexIndex⟩, _, ⟨rfl, h.dexName⟩, _, ⟨rfl, h.dexFullName⟩, _,
      ⟨rfl, hsafe, h.sizeDecimals.1⟩, ?_⟩, h.base⟩
    rw [if_neg (not_lt.mpr h.sizeDecimals.2)]
    simp only [except_bind_eq_ok, parsePricePrecision_toJson, positiveInteger_eq_ok,
      boolean_eq_ok, nullableBoundedString_ofNullable,
      nullableNonNegativeInteger_ofNullable, Option.some.injEq, Json.number.injEq,
      Json.bool.injEq, pure, Except.pure, Except.ok.injEq]
    exact ⟨_, ⟨rfl, h.pricePrecision⟩, _, ⟨rfl, h.maxLeverage⟩, _, rfl, _,
      ⟨rfl, h.marginMode⟩, _, ⟨rfl, h.marginTableId⟩, rfl⟩

theorem parseSpotMarket_fields {market market' : SpotMarket} :
    parseSpotMarket (ofFields market.fields) path market.toBaseMarket = .ok market' ∧
        market.toBaseMarket.Accepted ↔ market' = market ∧ market.Accepted := by
  simp only [parseSpotMarket, except_bind_eq_ok, field_ofFields market.nodup_fields]
  simp only [SpotMarket.fields, definite, List.map_cons, List.cons_append, written_cons,
    String.reduceEq, if_true, if_false, nonNegativeInteger_eq_ok, literalNull_eq_ok,
    Option.some.injEq, Json.number.injEq, true_and, exists_const]
  constructor
  · rintro ⟨⟨_, ⟨rfl, h1⟩, h⟩, hbase⟩
    split at h
    · cases h
    · rename_i hprecise
      simp only [except_bind_eq_ok, parsePricePrecision_toJson, parseToken_toJson,
        boolean_eq_ok, Option.some.injEq, Json.bool.injEq, pure, Except.pure, Except.ok.injEq] at h
      obtain ⟨_, ⟨rfl, h2⟩, _, ⟨rfl, h3⟩, _, ⟨rfl, h4⟩, _, rfl, rfl⟩ := h
      exact ⟨rfl, hbase, ⟨h1.2, not_lt.mp hprecise⟩, h2, h3, h4⟩
  · rintro ⟨rfl, h⟩
    have hsafe : isSafeInteger market'.sizeDecimals := by
      have hrange := h.sizeDecimals
      unfold isSafeInteger
      omega
    refine ⟨⟨_, ⟨rfl, hsafe, h.sizeDecimals.1⟩, ?_⟩, h.base⟩
    rw [if_neg (not_lt.mpr h.sizeDecimals.2)]
    simp only [except_bind_eq_ok, parsePricePrecision_toJson, parseToken_toJson,
      boolean_eq_ok, Option.some.injEq, Json.bool.injEq, pure, Except.pure, Except.ok.injEq]
    exact ⟨_, ⟨rfl, h.pricePrecision⟩, _, ⟨rfl, h.baseToken⟩, _, ⟨rfl, h.quoteToken⟩, _, rfl, rfl⟩

theorem outcomeSide_number {side side' : Fin 2} :
    outcomeSide (some (.number (side : ℕ))) path = .ok side' ↔ side' = side := by
  have hcases : ∀ a : Fin 2, a = 0 ∨ a = 1 := by decide
  rcases hcases side with rfl | rfl
  · simp [outcomeSide, eq_comm]
  · simp [outcomeSide, eq_comm]

theorem parseOutcomeMarket_fields {market market' : OutcomeMarket} :
    parseOutcomeMarket (ofFields market.fields) path market.toBaseMarket = .ok market' ∧
        market.toBaseMarket.Accepted ↔ market' = market ∧ market.Accepted := by
  simp only [parseOutcomeMarket, except_bind_eq_ok, field_ofFields market.nodup_fields]
  simp only [OutcomeMarket.fields, definite, List.map_cons, List.cons_append,
    written_cons, String.reduceEq, if_true, if_false, nonNegativeInteger_eq_ok,
    boundedString_eq_ok, literalNull_eq_ok, outcomeSide_number, Option.some.injEq,
    Json.number.injEq, Json.string.injEq, pure, Except.pure, Except.ok.injEq, true_and,
    exists_const]
  constructor
  · rintro ⟨⟨_, ⟨rfl, h1⟩, _, ⟨rfl, h2⟩, _, ⟨rfl, h3⟩, _, rfl, _, ⟨rfl, h4⟩, _, ⟨rfl, h5⟩,
      rfl⟩, hbase⟩
    exact ⟨rfl, hbase, h1, h2, h3, h4, h5⟩
  · rintro ⟨rfl, h⟩
    exact ⟨⟨_, ⟨rfl, h.outcome⟩, _, ⟨rfl, h.outcomeName⟩, _, ⟨rfl, h.description⟩, _, rfl,
      _, ⟨rfl, h.sideName⟩, _, ⟨rfl, h.encoding⟩, rfl⟩, h.base⟩

/-- The part of a market that all have is read first, and then that of its family. -/
theorem read_iff {α : Type} {x : Parsed α} {market : α} {base accepted : Prop}
    (hread : ∀ parsed, x = .ok parsed ∧ base ↔ parsed = market ∧ accepted) (f : α → Market)
    {market' : Market} : base ∧ x.map f = .ok market' ↔ market' = f market ∧ accepted := by
  constructor
  · rintro ⟨hbase, hmap⟩
    cases x with
    | error error => cases hmap
    | ok parsed =>
      obtain ⟨rfl, haccepted⟩ := (hread parsed).mp ⟨rfl, hbase⟩
      cases hmap
      exact ⟨rfl, haccepted⟩
  · rintro ⟨rfl, haccepted⟩
    obtain ⟨hparsed, hbase⟩ := (hread market).mpr ⟨rfl, haccepted⟩
    rw [hparsed]
    exact ⟨hbase, rfl⟩

/-- A published market is read back exactly when it passes the checks of the reader. -/
theorem parseMarket_toJson (market : Market) (index : ℕ) (market' : Market) :
    parseMarket market.toJson index = .ok market' ↔
      market' = market ∧ market.Accepted := by
  cases market with
  | perp market =>
    have hfamily : (ofFields market.fields).field "family" =
        some (.string MarketFamily.perp.text) := by
      rw [field_ofFields market.nodup_fields]
      simp [PerpMarket.fields, definite, written_cons]
    have hkeys : (market.fields.map Prod.fst).Perm
        (baseMarketKeys ++ familyKeys .perp) := by
      simp only [PerpMarket.fields, definite, MarketContext.fields, List.map_cons,
        List.map_nil, List.cons_append, List.nil_append]
      exact List.isPerm_iff.mp (by decide)
    simp only [parseMarket, Market.toJson, except_bind_eq_ok, record_ofFields,
      Except.ok.injEq, exists_eq_left', hfamily, family_text, exists_eq_left,
      exactKeys_ofFields market.nodup_fields hkeys, exists_const,
      parseBaseMarket_written market.writtenIn, and_assoc, Market.Accepted, true_and]
    exact read_iff (fun _ => parsePerpMarket_fields) Market.perp
  | spot market =>
    have hfamily : (ofFields market.fields).field "family" =
        some (.string MarketFamily.spot.text) := by
      rw [field_ofFields market.nodup_fields]
      simp [SpotMarket.fields, definite, written_cons]
    have hkeys : (market.fields.map Prod.fst).Perm
        (baseMarketKeys ++ familyKeys .spot) := by
      simp only [SpotMarket.fields, definite, MarketContext.fields, List.map_cons,
        List.map_nil, List.cons_append, List.nil_append]
      exact List.isPerm_iff.mp (by decide)
    simp only [parseMarket, Market.toJson, except_bind_eq_ok, record_ofFields,
      Except.ok.injEq, exists_eq_left', hfamily, family_text, exists_eq_left,
      exactKeys_ofFields market.nodup_fields hkeys, exists_const,
      parseBaseMarket_written market.writtenIn, and_assoc, Market.Accepted, true_and]
    exact read_iff (fun _ => parseSpotMarket_fields) Market.spot
  | outcome market =>
    have hfamily : (ofFields market.fields).field "family" =
        some (.string MarketFamily.outcome.text) := by
      rw [field_ofFields market.nodup_fields]
      simp [OutcomeMarket.fields, definite, written_cons]
    have hkeys : (market.fields.map Prod.fst).Perm
        (baseMarketKeys ++ familyKeys .outcome) := by
      simp only [OutcomeMarket.fields, definite, MarketContext.fields, List.map_cons,
        List.map_nil, List.cons_append, List.nil_append]
      exact List.isPerm_iff.mp (by decide)
    simp only [parseMarket, Market.toJson, except_bind_eq_ok, record_ofFields,
      Except.ok.injEq, exists_eq_left', hfamily, family_text, exists_eq_left,
      exactKeys_ofFields market.nodup_fields hkeys, exists_const,
      parseBaseMarket_written market.writtenIn, and_assoc, Market.Accepted, true_and]
    exact read_iff (fun _ => parseOutcomeMarket_fields) Market.outcome

end Snapshot

/-! ### What was quarantined, and the errors -/

structure QuarantinedMarket.Accepted (market : QuarantinedMarket) : Prop where
  canonicalId : Snapshot.fits market.canonicalId 256 false
  displaySymbol : Snapshot.fits market.displaySymbol 256 false
  coin : Snapshot.fits market.coin 256 false
  dexIndex : ∀ n ∈ market.dexIndex, isSafeInteger n ∧ 0 ≤ n
  dexName : ∀ text ∈ market.dexName, Snapshot.fits text 128 true
  universeIndex : isSafeInteger market.universeIndex ∧ 0 ≤ market.universeIndex
  orderAssetId : isSafeInteger market.orderAssetId ∧ 0 ≤ market.orderAssetId
  reasons : market.reasons.length ≤ 64 ∧
    ∀ text ∈ market.reasons, Snapshot.fits text 1024 false

structure CatalogSourceError.Accepted (error : CatalogSourceError) : Prop where
  source : Snapshot.fits error.source 256 false
  message : Snapshot.fits error.message 1024 false
  status : ∀ n ∈ error.status, 400 ≤ n ∧ n ≤ 599
  retryAfterMs : ∀ n ∈ error.retryAfterMs, isSafeInteger n ∧ 0 ≤ n

theorem QuarantinedMarket.nodup_fields (market : QuarantinedMarket) :
    (market.fields.map Prod.fst).Nodup := by
  simp [fields, definite]

theorem CatalogSourceError.nodup_fields (error : CatalogSourceError) :
    (error.fields.map Prod.fst).Nodup := by
  simp [fields]

theorem MarketCatalogSnapshot.nodup_fields (snapshot : MarketCatalogSnapshot) :
    (snapshot.fields.map Prod.fst).Nodup := by
  simp [fields, definite]

namespace Snapshot

theorem parseQuarantinedMarket_toJson (market : QuarantinedMarket) (index : ℕ)
    (market' : QuarantinedMarket) :
    parseQuarantinedMarket market.toJson index = .ok market' ↔
      market' = market ∧ market.Accepted := by
  have hrecord := exactRecord_ofFields
    (Catalog.indexed "marketCatalogSnapshot.quarantined" index)
    ["family", "canonicalId", "displaySymbol", "coin", "dexIndex", "dexName",
      "universeIndex", "orderAssetId", "lifecycle", "orderAvailability", "reasons"]
    market.nodup_fields (.refl _)
  have havailability : ∀ path message, oneOf [("browse_only", ())]
      (some (.string OrderAvailability.browseOnly.text)) path message = .ok () :=
    fun _ _ => by simp [oneOf, OrderAvailability.text]
  simp only [parseQuarantinedMarket, except_bind_eq_ok, QuarantinedMarket.toJson, hrecord,
    exists_eq_left, field_ofFields market.nodup_fields]
  simp only [QuarantinedMarket.fields, definite, List.map_cons, List.map_nil,
    written_cons, String.reduceEq, if_true, if_false, family_text, boundedString_eq_ok,
    nullableNonNegativeInteger_ofNullable, nullableBoundedString_ofNullable,
    nonNegativeInteger_eq_ok, lifecycle_text, havailability, stringArray_map,
    Option.some.injEq, Json.string.injEq, Json.number.injEq, pure, Except.pure,
    Except.ok.injEq, exists_eq_left]
  constructor
  · rintro ⟨_, ⟨rfl, h1⟩, _, ⟨rfl, h2⟩, _, ⟨rfl, h3⟩, _, ⟨rfl, h4⟩, _, ⟨rfl, h5⟩, _,
      ⟨rfl, h6⟩, _, ⟨rfl, h7⟩, _, -, _, ⟨rfl, h8⟩, rfl⟩
    exact ⟨rfl, h1, h2, h3, h4, h5, h6, h7, h8⟩
  · rintro ⟨rfl, h⟩
    exact ⟨_, ⟨rfl, h.canonicalId⟩, _, ⟨rfl, h.displaySymbol⟩, _, ⟨rfl, h.coin⟩, _,
      ⟨rfl, h.dexIndex⟩, _, ⟨rfl, h.dexName⟩, _, ⟨rfl, h.universeIndex⟩, _,
      ⟨rfl, h.orderAssetId⟩, (), trivial, _, ⟨rfl, h.reasons⟩, rfl⟩

variable {path : String} {n m : ℤ}

theorem errorStatus_number :
    errorStatus (some (.number n)) path = .ok m ↔ m = n ∧ 400 ≤ n ∧ n ≤ 599 := by
  simp only [errorStatus, except_bind_eq_ok, positiveInteger_eq_ok, Option.some.injEq,
    Json.number.injEq]
  constructor
  · rintro ⟨_, ⟨rfl, -, -⟩, h⟩
    split at h
    · cases h
    · cases h
      exact ⟨rfl, by omega, by omega⟩
  · rintro ⟨rfl, hrange⟩
    have hsafe : isSafeInteger m := by
      unfold isSafeInteger
      omega
    exact ⟨m, ⟨rfl, hsafe, by omega⟩, if_neg (by omega)⟩

theorem nonNegativeInteger_number :
    nonNegativeInteger (some (.number n)) path = .ok m ↔
      m = n ∧ isSafeInteger n ∧ 0 ≤ n := by
  rw [nonNegativeInteger_eq_ok]
  constructor
  · rintro ⟨h, hsafe⟩
    cases h
    exact ⟨rfl, hsafe⟩
  · rintro ⟨rfl, hsafe⟩
    exact ⟨rfl, hsafe⟩

theorem parseSourceError_toJson (error : CatalogSourceError) (index : ℕ)
    (error' : CatalogSourceError) :
    parseSourceError error.toJson index = .ok error' ↔
      error' = error ∧ error.Accepted := by
  have hwritten := field_ofFields error.nodup_fields
  have hkeys : exactKeys (ofFields error.fields)
      (Catalog.indexed "marketCatalogSnapshot.sourceErrors" index)
      ["source", "message", "status", "retryAfterMs"] = .ok () :=
    exactKeys_ofFields error.nodup_fields (.refl _)
  have hstatus : ∀ path status,
      Catalog.optional errorStatus (ofFields error.fields) "status" path = .ok status ↔
        status = error.status ∧ ∀ n ∈ error.status, 400 ≤ n ∧ n ≤ 599 := by
    refine fun path status => optional_written errorStatus .number status ?_
      fun _ _ _ => errorStatus_number
    rw [hwritten]
    simp [CatalogSourceError.fields, written_cons]
  have hretry : ∀ path delay,
      Catalog.optional nonNegativeInteger (ofFields error.fields) "retryAfterMs" path =
        .ok delay ↔
          delay = error.retryAfterMs ∧ ∀ n ∈ error.retryAfterMs, isSafeInteger n ∧ 0 ≤ n := by
    refine fun path delay => optional_written nonNegativeInteger .number delay ?_
      fun _ _ _ => nonNegativeInteger_number
    rw [hwritten]
    simp [CatalogSourceError.fields, written_cons]
  simp only [parseSourceError, except_bind_eq_ok, CatalogSourceError.toJson,
    record_ofFields, Except.ok.injEq, exists_eq_left', hkeys, exists_const, hstatus, hretry,
    hwritten, true_and]
  simp only [CatalogSourceError.fields, written_cons, String.reduceEq, if_true, if_false,
    boundedString_eq_ok, Option.some.injEq, Json.string.injEq, pure, Except.pure, Except.ok.injEq]
  constructor
  · rintro ⟨_, ⟨rfl, h1⟩, _, ⟨rfl, h2⟩, _, ⟨rfl, h3⟩, _, ⟨rfl, h4⟩, rfl⟩
    exact ⟨rfl, h1, h2, h3, h4⟩
  · rintro ⟨rfl, h⟩
    exact ⟨_, ⟨rfl, h.source⟩, _, ⟨rfl, h.message⟩, _, ⟨rfl, h.status⟩, _,
      ⟨rfl, h.retryAfterMs⟩, rfl⟩

theorem parseEntries_map {α : Type} (parse : Json → ℕ → Parsed α) (write : α → Json)
    {p : α → Prop} (hparse : ∀ a i b, parse (write a) i = .ok b ↔ b = a ∧ p a)
    (l : List α) (path : String) (maximum : ℕ) (l' : List α) :
    parseEntries parse (some (.array (l.map write))) path maximum = .ok l' ↔
      l' = l ∧ l.length ≤ maximum ∧ ∀ a ∈ l, p a := by
  simp only [parseEntries, except_bind_eq_ok, boundedArray_eq_ok, List.length_map]
  constructor
  · rintro ⟨_, ⟨rfl, hlength⟩, hread⟩
    obtain ⟨hsame, hp⟩ := (mapM_zipIdx_map parse write hparse l l' 0).mp hread
    exact ⟨hsame, hlength, hp⟩
  · rintro ⟨hsame, hlength, hp⟩
    exact ⟨_, ⟨rfl, hlength⟩, (mapM_zipIdx_map parse write hparse l l' 0).mpr ⟨hsame, hp⟩⟩

end Snapshot

/-! ### The snapshot -/

structure MarketCatalog.Accepted (catalog : MarketCatalog) : Prop where
  marketCount : catalog.markets.length ≤ 20000
  markets : ∀ market ∈ catalog.markets, market.Accepted
  quarantinedCount : catalog.quarantined.length ≤ 20000
  quarantined : ∀ market ∈ catalog.quarantined, market.Accepted
  errorCount : catalog.sourceErrors.length ≤ 2000
  sourceErrors : ∀ error ∈ catalog.sourceErrors, error.Accepted

structure MarketCatalogSnapshot.Accepted (snapshot : MarketCatalogSnapshot) : Prop where
  generation : isSafeInteger snapshot.generation ∧ 1 ≤ snapshot.generation
  publishedAtMs : isSafeInteger snapshot.publishedAtMs ∧ 1 ≤ snapshot.publishedAtMs
  catalog : snapshot.catalog.Accepted

def MarketCatalogSnapshot.published (snapshot : MarketCatalogSnapshot) : MarketCatalogSnapshot :=
  { snapshot with catalog := { snapshot.catalog with builderPage := none } }

theorem parseMarketCatalogSnapshot_toJson (snapshot snapshot' : MarketCatalogSnapshot) :
    parseMarketCatalogSnapshot snapshot.toJson = .ok snapshot' ↔
      snapshot' = snapshot.published ∧ snapshot.Accepted := by
  have hrecord := Snapshot.exactRecord_ofFields "marketCatalogSnapshot"
    ["schemaVersion", "network", "generation", "publishedAtMs", "markets", "quarantined",
      "sourceErrors"] snapshot.nodup_fields (.refl _)
  have hnetwork : ∀ path message network, Snapshot.oneOf
      [("testnet", HyperliquidNetwork.testnet), ("mainnet", .mainnet)]
      (some (.string snapshot.network.text)) path message = .ok network ↔
        network = snapshot.network := by
    intro path message network
    cases snapshot.network <;> cases network <;>
      simp [Snapshot.oneOf, HyperliquidNetwork.text]
  simp only [parseMarketCatalogSnapshot, except_bind_eq_ok, MarketCatalogSnapshot.toJson,
    hrecord, exists_eq_left, field_ofFields snapshot.nodup_fields, Json.integer_eq_some]
  simp only [MarketCatalogSnapshot.fields, definite, List.map_cons, List.map_nil,
    written_cons, String.reduceEq, if_true, if_false, except_bind_eq_ok, hnetwork,
    Snapshot.positiveInteger_eq_ok, Snapshot.parseEntries_map Snapshot.parseMarket Market.toJson
      Snapshot.parseMarket_toJson,
    Snapshot.parseEntries_map Snapshot.parseQuarantinedMarket QuarantinedMarket.toJson
      Snapshot.parseQuarantinedMarket_toJson,
    Snapshot.parseEntries_map Snapshot.parseSourceError CatalogSourceError.toJson
      Snapshot.parseSourceError_toJson,
    Option.some.injEq, Json.number.injEq, pure, Except.pure, Except.ok.injEq]
  constructor
  · rintro ⟨_, rfl, _, ⟨rfl, h1⟩, _, ⟨rfl, h2⟩, _, ⟨rfl, h3, h4⟩, _, ⟨rfl, h5, h6⟩, _,
      ⟨rfl, h7, h8⟩, rfl⟩
    exact ⟨rfl, h1, h2, h3, h4, h5, h6, h7, h8⟩
  · rintro ⟨rfl, h⟩
    exact ⟨_, rfl, _, ⟨rfl, h.generation⟩, _, ⟨rfl, h.publishedAtMs⟩, _,
      ⟨rfl, h.catalog.marketCount, h.catalog.markets⟩, _,
      ⟨rfl, h.catalog.quarantinedCount, h.catalog.quarantined⟩, _,
      ⟨rfl, h.catalog.errorCount, h.catalog.sourceErrors⟩, rfl⟩

end HyperTrader
