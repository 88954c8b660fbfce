import Gosoline.Time

/-!
# Exchange rates and their store

The currency package keeps rates against the euro in a key-value store: the latest rate of a
currency under its code, the rate of a day under `historicalRateKey`, and the time of the last
refresh under `ExchangeRateDateKey`. `Rate`, `Content` and `kvstore.KvStore` are declared outside
the sources we have; they are modelled with the fields and the operations the code uses. The
store is a map from keys to values in which no operation fails.
-/

namespace Gosoline.Currency

/-- `Rate`: a currency code and its rate against the euro. -/
structure Rate where
  currency : String
  rate : Float
  deriving Repr

/-- `Content`: the rates of one day of the feed, under the day's text `Time`. -/
structure Content where
  time : String
  rates : List Rate
  deriving Repr

/-- The zero `Content{}`: what a Go map gives for an absent key. -/
def Content.zero : Content := ⟨"", []⟩

/-- `ExchangeRateDateKey`. -/
def exchangeRateDateKey : String := "currency_exchange_last_refresh"

/-- `ExchangeRateRefresh`, eight hours. -/
def exchangeRateRefresh : Duration := 8 * nsPerHour

/-- `historicalRateKey`: the day of `time` in the layout `"2006-01-02"`, a dash, and the code. -/
def historicalRateKey (cal : Calendar) (time : Time) (currency : String) : String :=
  cal.formatYMD time ++ "-" ++ currency

/-- Keys of one day differ when their codes do. -/
theorem historicalRateKey_injective (cal : Calendar) (time : Time) :
    Function.Injective (historicalRateKey cal time) := by
  intro c c' h
  rw [String.ext_iff] at h ⊢
  simpa [historicalRateKey, String.data_append] using h

theorem length_historicalRateKey (cal : Calendar) (time : Time) (currency : String) :
    (historicalRateKey cal time currency).length =
      (cal.formatYMD time).length + 1 + currency.length := by
  simp only [historicalRateKey, String.length_append]
  rfl

/-- A day's key is longer than its code, so no shorter key is one. -/
theorem historicalRateKey_ne_of_length_le {cal : Calendar} {time : Time} {currency key : String}
    (hlen : key.length ≤ currency.length) : historicalRateKey cal time currency ≠ key := by
  intro h
  have := congrArg String.length h
  rw [length_historicalRateKey] at this
  omega

/-- A day's key holds a dash and `ExchangeRateDateKey` none, so no day's key is it, whatever
the calendar writes. -/
theorem historicalRateKey_ne_exchangeRateDateKey (cal : Calendar) (time : Time) (currency : String) :
    historicalRateKey cal time currency ≠ exchangeRateDateKey := by
  intro h
  have hdash : '-' ∈ (historicalRateKey cal time currency).data := by
    simp [historicalRateKey, String.data_append]
  rw [h] at hdash
  revert hdash
  decide

/-- A value of the store: a `float64` rate, or the `time.Time` of the last refresh. -/
inductive StoreValue where
  | rate (r : Float)
  | time (t : Time)

/-- The `currency` key-value store. -/
def KvStore := String → Option StoreValue

namespace KvStore

/-- The store before any write. -/
def empty : KvStore := fun _ => none

/-- `Put(ctx, key, value)`. -/
def put (store : KvStore) (key : String) (value : StoreValue) : KvStore :=
  Function.update store key (some value)

/-- `PutBatch(ctx, keyValues)` for a `map[string]float64`. -/
def putBatch (store : KvStore) (keyValues : String → Option Float) : KvStore := fun key =>
  match keyValues key with
  | some r => some (.rate r)
  | none => store key

/-- `Contains(ctx, key)`. -/
def contains (store : KvStore) (key : String) : Bool := (store key).isSome

/-- `Get(ctx, key, &exchangeRate)`: whether the key exists and the `float64` read from it, zero
when it does not. A time does not decode as a `float64`. -/
def getRate (store : KvStore) (key : String) : Except String (Bool × Float) :=
  match store key with
  | none => .ok (false, 0)
  | some (.rate r) => .ok (true, r)
  | some (.time _) => .error ("can not decode the value of " ++ key ++ " as a float64")

/-- `Get(ctx, key, &date)`: whether the key exists and the `time.Time` read from it, the zero
time when it does not. A rate does not decode as a time. -/
def getDate (store : KvStore) (key : String) : Except String (Bool × Time) :=
  match store key with
  | none => .ok (false, 0)
  | some (.time t) => .ok (true, t)
  | some (.rate _) => .error ("can not decode the value of " ++ key ++ " as a time")

@[simp] theorem empty_apply (key : String) : empty key = none := rfl

@[simp] theorem put_apply_self (store : KvStore) (key : String) (value : StoreValue) :
    store.put key value key = some value := Function.update_same _ _ _

theorem put_apply_of_ne (store : KvStore) {key k : String} (value : StoreValue) (hk : k ≠ key) :
    store.put key value k = store k := Function.update_noteq hk _ _

/-- A key is in the store after a `Put` when it is the key put or was there before. -/
theorem contains_put (store : KvStore) (key k : String) (value : StoreValue) :
    (store.put key value).contains k = (k == key || store.contains k) := by
  by_cases hk : k = key
  · simp [hk, contains]
  · simp [hk, contains, put_apply_of_ne]

theorem getRate_of_rate {store : KvStore} {key : String} {r : Float}
    (h : store key = some (.rate r)) : store.getRate key = .ok (true, r) := by
  simp [getRate, h]

theorem getRate_of_none {store : KvStore} {key : String} (h : store key = none) :
    store.getRate key = .ok (false, 0) := by
  simp [getRate, h]

end KvStore

end Gosoline.Currency
