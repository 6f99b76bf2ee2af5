import HyperTrader.Library.Entries
import HyperTrader.Library.Machine
import HyperTrader.Library.Series
import HyperTrader.Markets.Catalog

/-!
# The candles of the trade chart

The chart shows one series, merged from the live candles and from older pages. The live
candles are the answer to a snapshot, and every live update is merged into them up to a
capacity; a page is fetched from the end of the one before it, the first from the start of
the live candles at that moment. The hook is a machine: its events are the answers, the
live updates and the calls of `fetchOlder`, in any order.

Beside it stands what was received, in order; nothing reads it.
-/

namespace HyperTrader

open Library

inductive CandleInterval where
  | m1 | m3 | m5 | m15 | m30 | h1 | h2 | h4 | h8 | h12 | d1 | d3 | w1 | month
  deriving DecidableEq

namespace CandleInterval

def text : CandleInterval → String
  | m1 => "1m"
  | m3 => "3m"
  | m5 => "5m"
  | m15 => "15m"
  | m30 => "30m"
  | h1 => "1h"
  | h2 => "2h"
  | h4 => "4h"
  | h8 => "8h"
  | h12 => "12h"
  | d1 => "1d"
  | d3 => "3d"
  | w1 => "1w"
  | month => "1M"

end CandleInterval

/-- `Candle`; the times are the non-negative integers that `parseCandles` lets through. -/
structure Candle where
  openTime : ℕ
  closeTime : ℕ
  symbol : String
  interval : CandleInterval
  openPrice : String
  close : String
  high : String
  low : String
  volume : String
  tradeCount : ℕ
  deriving DecidableEq

inductive TradeChartInterval where
  | m1 | m15 | h1 | h4 | d1

namespace TradeChartInterval

def interval : TradeChartInterval → CandleInterval
  | m1 => .m1
  | m15 => .m15
  | h1 => .h1
  | h4 => .h4
  | d1 => .d1

def intervalMs : TradeChartInterval → ℕ
  | m1 => 60 * 1000
  | m15 => 15 * 60 * 1000
  | h1 => 60 * 60 * 1000
  | h4 => 4 * 60 * 60 * 1000
  | d1 => 24 * 60 * 60 * 1000

def windowMs : TradeChartInterval → ℕ
  | m1 => 90 * 60 * 1000
  | m15 => 24 * 60 * 60 * 1000
  | h1 => 4 * 24 * 60 * 60 * 1000
  | h4 => 16 * 24 * 60 * 60 * 1000
  | d1 => 90 * 24 * 60 * 60 * 1000

end TradeChartInterval

structure TradeCandleSeries where
  coin : String
  interval : TradeChartInterval

/-- `tradeCandleRange`; the start is at least zero, as a difference of numbers is. -/
def tradeCandleRange (interval : TradeChartInterval) (endTime : ℕ) : ℕ × ℕ :=
  (endTime - interval.windowMs, endTime)

def tradeChartCandleCapacity (interval : TradeChartInterval) : ℕ :=
  (interval.windowMs + interval.intervalMs - 1) / interval.intervalMs + 1

def tradeCandleHistoryMaxPages : ℕ := 6

def parseCandle (expected : TradeCandleSeries) (candle : Candle) (index : ℕ) : Parsed Candle :=
  let path := Catalog.indexed "candleSnapshot" index
  if candle.closeTime < candle.openTime then
    .error ⟨path ++ ".T", "expected close time at or after open time"⟩
  else if candle.symbol ≠ expected.coin then
    .error ⟨path ++ ".s", "expected requested coin " ++ expected.coin⟩
  else if candle.interval ≠ expected.interval.interval then
    .error ⟨path ++ ".i", "expected requested interval " ++ expected.interval.interval.text⟩
  else .ok candle

def parseCandles (expected : TradeCandleSeries) (payload : List Candle) : Parsed (List Candle) :=
  payload.zipIdx.mapM fun entry => parseCandle expected entry.1 entry.2

def mergeTradeCandle (current : Option (List Candle)) (incoming : Candle) (capacity : ℕ) :
    Except String (List Candle) :=
  if capacity < 1 then .error "The candle cache capacity must be a positive integer."
  else
    let candles := current.getD []
    if candles.any fun candle =>
        candle.symbol ≠ incoming.symbol || candle.interval ≠ incoming.interval then
      .error "The candle cache contains a different series."
    else .ok (newest capacity (series Candle.openTime (candles ++ [incoming])))

def previousCandlePageEnd (page : List Candle) : Option ℕ :=
  match page.head? with
  | none => none
  | some first => if first.openTime = 0 then none else some (first.openTime - 1)

def mergeTradeCandleHistory (pages : List (List Candle)) (capacity : ℕ) :
    Except String (List Candle) :=
  if capacity < 1 then .error "The candle history capacity must be positive."
  else
    match pages.flatten with
    | [] => .ok []
    | first :: rest =>
      if rest.any fun candle =>
          candle.symbol ≠ first.symbol || candle.interval ≠ first.interval then
        .error "Candle history contains a different series."
      else .ok (newest capacity (series Candle.openTime (first :: rest)))

/-- The state of `useTradeCandleData`: the data of its two queries, and the parameter of
the page that is being fetched. The history has no data before its first page. -/
structure TradeCandleData where
  live : Option (List Candle)
  pages : List (List Candle)
  fetching : Option ℕ
  received : List Candle

/-- What happens to the hook. A snapshot was asked for at the time it names, and a page
settles without an answer if its fetch fails. -/
inductive CandleEvent where
  | snapshot (now : ℕ) (payload : List Candle)
  | update (candle : Candle)
  | fetchOlder (now : ℕ)
  | settled (payload : Option (List Candle))

namespace TradeCandleData

def initial : TradeCandleData := ⟨none, [], none, []⟩

def historyEndTime (data : TradeCandleData) (now : ℕ) : ℕ :=
  ((data.live.bind List.head?).map Candle.openTime).getD now - 1

def historyAtCapacity (data : TradeCandleData) : Bool :=
  tradeCandleHistoryMaxPages ≤ data.pages.length

/-- The parameter of the next page; none says `hasNextPage === false`. -/
def nextPageParam (data : TradeCandleData) (now : ℕ) : Option ℕ :=
  match data.pages.getLast? with
  | none => some (data.historyEndTime now)
  | some last => previousCandlePageEnd last

def fetchOlder (data : TradeCandleData) (now : ℕ) : TradeCandleData :=
  if data.live = none ∨ data.fetching.isSome = true ∨ data.historyAtCapacity = true then data
  else
    match data.nextPageParam now with
    | none => data
    | some endTime => { data with fetching := some endTime }

/-- One event. An answer that does not parse, or an update that does not merge, throws and
leaves the data. -/
def step (expected : TradeCandleSeries) (data : TradeCandleData) :
    CandleEvent → TradeCandleData
  | .snapshot _ payload =>
    match parseCandles expected payload with
    | .error _ => data
    | .ok candles =>
      { data with live := some candles, received := data.received ++ candles }
  | .update candle =>
    match parseCandles expected [candle] with
    | .error _ => data
    | .ok _ =>
      match mergeTradeCandle data.live candle
        (tradeChartCandleCapacity expected.interval) with
      | .error _ => data
      | .ok live =>
        { data with live := some live, received := data.received ++ [candle] }
  | .fetchOlder now => data.fetchOlder now
  | .settled payload =>
    match data.fetching with
    | none => data
    | some _ =>
      match payload.map (parseCandles expected) with
      | some (.ok page) =>
        { data with
          pages := data.pages ++ [page]
          fetching := none
          received := data.received ++ page }
      | _ => { data with fetching := none }

def combined (interval : TradeChartInterval) (data : TradeCandleData) :
    Option (Except String (List Candle)) :=
  if data.live = none ∧ data.pages = [] then none
  else
    some (mergeTradeCandleHistory (data.pages ++ data.live.toList)
      (tradeChartCandleCapacity interval * (tradeCandleHistoryMaxPages + 1)))

end TradeCandleData

end HyperTrader
