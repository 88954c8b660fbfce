import Gosoline.Currency.Updater

/-!
# The currency service

`HasCurrency` says which currencies the service supports and `ToCurrency` converts between two
of them through the euro; `HasCurrencyAtDate` and `ToCurrencyAtDate` do the same with the rates
of one day. Both support checks treat `"EUR"` as always supported, and `ToEur` does not look up a
rate for the euro, but `ToCurrency` looks up the rate of its target whatever it is. No updater
ever writes a rate for the euro, so a conversion into euros fails with "currency not found"
though both currencies are supported. For every other target the support checks and the
conversions agree, on every store the updater can write.

`Eur`, the package constant `ToEur` compares with, is declared outside the sources we have and
is a parameter, `eurCode`; so is `Usd`, `usdCode`. The functions that differ only in the key they
look up and the text of their errors are one definition each, applied to each member's own key
and texts.
-/

namespace Gosoline.Currency

section Service

variable (cal : Calendar) (eurCode : String)

/-- The body of `HasCurrency` and `HasCurrencyAtDate`: `"EUR"` is supported, and another
currency when `key` is in the store. -/
def hasCurrencyWith (store : KvStore) (currency key : String) : Except String Bool :=
  if currency = "EUR" then .ok true else .ok (store.contains key)

/-- `HasCurrency`. -/
def hasCurrency (store : KvStore) (currency : String) : Except String Bool :=
  hasCurrencyWith store currency currency

/-- `HasCurrencyAtDate`. -/
def hasCurrencyAtDate (store : KvStore) (currency : String) (date : Time) : Except String Bool :=
  hasCurrencyWith store currency (historicalRateKey cal date currency)

/-- `getExchangeRate`. A missing key is reported with Go's text for `%w` of a `nil` error. -/
def getExchangeRate (store : KvStore) («to» : String) : Except String Float :=
  match store.getRate «to» with
  | .error err => .error ("CurrencyService: error getting exchange rate: " ++ err)
  | .ok (false, _) => .error "CurrencyService: currency not found: %!w(<nil>)"
  | .ok (true, exchangeRate) => .ok exchangeRate

/-- The body of `ToEur` and `ToEurAtDate`: the euro is itself, another currency is divided by
the rate under `key`. -/
def toEurWith (store : KvStore) (value : Float) («from» key context : String) :
    Except String Float :=
  if «from» = eurCode then .ok value else
    match getExchangeRate store key with
    | .error err => .error ("CurrencyService: " ++ context ++ ": " ++ err)
    | .ok exchangeRate => .ok (value / exchangeRate)

/-- `ToEur`. -/
def toEur (store : KvStore) (value : Float) («from» : String) : Except String Float :=
  toEurWith eurCode store value «from» «from» "error parsing exchange rate"

/-- `ToEurAtDate`. -/
def toEurAtDate (store : KvStore) (value : Float) («from» : String) (date : Time) :
    Except String Float :=
  toEurWith eurCode store value «from» (historicalRateKey cal date «from»)
    "error parsing exchange rate historically"

/-- The body of `ToCurrency` and `ToCurrencyAtDate`: the rate of `to` is read under `toKey`
before the value is converted into euros, with `inEur` the result of that conversion. -/
def toCurrencyWith (store : KvStore) («to» : String) (value : Float) («from» toKey : String)
    (inEur : Except String Float) (rateContext eurContext : String) : Except String Float :=
  if «from» = «to» then .ok value else
    match getExchangeRate store toKey with
    | .error err => .error ("CurrencyService: " ++ rateContext ++ ": " ++ err)
    | .ok exchangeRate =>
      match inEur with
      | .error err => .error ("CurrencyService: " ++ eurContext ++ ": " ++ err)
      | .ok eur => .ok (eur * exchangeRate)

/-- `ToCurrency`. -/
def toCurrency (store : KvStore) («to» : String) (value : Float) («from» : String) :
    Except String Float :=
  toCurrencyWith store «to» value «from» «to» (toEur eurCode store value «from»)
    "error parsing exchange rate" "error converting to eur"

/-- `ToCurrencyAtDate`. -/
def toCurrencyAtDate (store : KvStore) («to» : String) (value : Float) («from» : String)
    (date : Time) : Except String Float :=
  toCurrencyWith store «to» value «from» (historicalRateKey cal date «to»)
    (toEurAtDate cal eurCode store value «from» date)
    "error parsing exchange rate historically" "error converting to eur historically"

/-- The body of each `ToUsd` and of `ToUsdAtDate`: the dollar is itself, and another currency is
converted into dollars by `conversion`. -/
def toUsdWith (usdCode : String) (value : Float) («from» : String)
    (conversion : Except String Float) : Except String Float :=
  if «from» = usdCode then .ok value else conversion

/-- `ToUsd`. -/
def toUsd (usdCode : String) (store : KvStore) (value : Float) («from» : String) :
    Except String Float :=
  toUsdWith usdCode value «from» (toCurrency eurCode store usdCode value «from»)

/-- `ToUsdAtDate`. -/
def toUsdAtDate (usdCode : String) (store : KvStore) (value : Float) («from» : String)
    (date : Time) : Except String Float :=
  toUsdWith usdCode value «from» (toCurrencyAtDate cal eurCode store usdCode value «from» date)

/-- The check of the dollar in `ToUsd` and `ToUsdAtDate` is the one `ToCurrency` and
`ToCurrencyAtDate` make first, so each is the conversion into dollars, errors included. -/
theorem toUsdWith_toCurrencyWith (usdCode : String) (store : KvStore) (value : Float)
    («from» toKey : String) (inEur : Except String Float) (rateContext eurContext : String) :
    toUsdWith usdCode value «from»
        (toCurrencyWith store usdCode value «from» toKey inEur rateContext eurContext) =
      toCurrencyWith store usdCode value «from» toKey inEur rateContext eurContext := by
  unfold toUsdWith toCurrencyWith
  split_ifs <;> rfl

end Service

/-- A store written by one refresh that fetched the dollar alone supports the euro and the
dollar, yet neither conversion of dollars into euros finds a rate for the euro: whatever the
calendar and the value of `Eur`, both report "currency not found". -/
theorem toCurrency_eur_not_found (cal : Calendar) (getTime : Content → Except String Time)
    (eurCode : String) (now newTime : Time) (r value : Float) :
    let store := runUpdater cal getTime KvStore.empty
      [.ensureRecentExchangeRates now newTime (.ok [⟨"USD", r⟩])]
    hasCurrency store "EUR" = .ok true ∧ hasCurrency store "USD" = .ok true ∧
      toCurrency eurCode store "EUR" value "USD" = .error
        "CurrencyService: error parsing exchange rate: CurrencyService: currency not found: %!w(<nil>)" ∧
      hasCurrencyAtDate cal store "EUR" now = .ok true ∧
      hasCurrencyAtDate cal store "USD" now = .ok true ∧
      toCurrencyAtDate cal eurCode store "EUR" value "USD" now = .error
        ("CurrencyService: error parsing exchange rate historically: " ++
          "CurrencyService: currency not found: %!w(<nil>)") := by
  intro store
  have hstore : store = ((KvStore.empty.put "USD" (.rate r)).put (historicalRateKey cal now "USD")
      (.rate r)).put exchangeRateDateKey (.time newTime) := rfl
  have husd : store.contains "USD" = true := by simp [hstore, KvStore.contains_put]
  have hdayUsd : store.contains (historicalRateKey cal now "USD") = true := by
    simp [hstore, KvStore.contains_put]
  have heur : store "EUR" = none := by
    rw [hstore, KvStore.put_apply_of_ne _ _ (by decide), KvStore.put_apply_of_ne _ _
      (show historicalRateKey cal now "USD" ≠ "EUR" from historicalRateKey_ne_of_length_le le_rfl).symm,
      KvStore.put_apply_of_ne _ _ (by decide)]
    rfl
  have hdayEur : store (historicalRateKey cal now "EUR") = none := by
    rw [hstore, KvStore.put_apply_of_ne _ _ (historicalRateKey_ne_exchangeRateDateKey cal now "EUR"),
      KvStore.put_apply_of_ne _ _ ((historicalRateKey_injective cal now).ne (by decide)),
      KvStore.put_apply_of_ne _ _
        (show historicalRateKey cal now "EUR" ≠ "USD" from historicalRateKey_ne_of_length_le le_rfl)]
    rfl
  simp only [hasCurrency, hasCurrencyAtDate, hasCurrencyWith, toCurrency, toCurrencyAtDate,
    toCurrencyWith, getExchangeRate, KvStore.getRate_of_none heur, KvStore.getRate_of_none hdayEur,
    husd, hdayUsd, show ("USD" = "EUR") = False by decide, ↓reduceIte]
  exact ⟨trivial, trivial, rfl, trivial, trivial, rfl⟩

/-! ## The stores the updater writes -/

/-- Every key but `ExchangeRateDateKey` holds a rate. -/
def RatesOutsideDateKey (store : KvStore) : Prop :=
  ∀ key, key ≠ exchangeRateDateKey → ∀ t, store key ≠ some (.time t)

theorem ratesOutsideDateKey_empty : RatesOutsideDateKey KvStore.empty := by
  intro _ _ _
  simp

theorem RatesOutsideDateKey.put_rate {store : KvStore} (hs : RatesOutsideDateKey store)
    (key : String) (r : Float) : RatesOutsideDateKey (store.put key (.rate r)) := by
  intro k hk t
  by_cases hkey : k = key
  · simp [hkey]
  · rw [KvStore.put_apply_of_ne _ _ hkey]
    exact hs k hk t

theorem RatesOutsideDateKey.put_date {store : KvStore} (hs : RatesOutsideDateKey store)
    (t : Time) : RatesOutsideDateKey (store.put exchangeRateDateKey (.time t)) := by
  intro k hk t'
  rw [KvStore.put_apply_of_ne _ _ hk]
  exact hs k hk t'

theorem RatesOutsideDateKey.putRates {store : KvStore} (hs : RatesOutsideDateKey store)
    (cal : Calendar) (now : Time) (rates : List Rate) :
    RatesOutsideDateKey (putRates cal now store rates) := by
  induction rates generalizing store with
  | nil => exact hs
  | cons rate rates ih => exact ih ((hs.put_rate _ _).put_rate _ _)

theorem RatesOutsideDateKey.putBatch {store : KvStore} (hs : RatesOutsideDateKey store)
    (keyValues : String → Option Float) : RatesOutsideDateKey (store.putBatch keyValues) := by
  intro k hk t
  simp only [KvStore.putBatch]
  split
  · simp
  · exact hs k hk t

/-- Every run of the updater from the empty store writes only rates outside
`ExchangeRateDateKey`. -/
theorem ratesOutsideDateKey_runUpdater (cal : Calendar) (getTime : Content → Except String Time)
    (calls : List UpdaterCall) : RatesOutsideDateKey (runUpdater cal getTime KvStore.empty calls) := by
  suffices h : ∀ store, RatesOutsideDateKey store →
      RatesOutsideDateKey (runUpdater cal getTime store calls) from h _ ratesOutsideDateKey_empty
  induction calls with
  | nil => exact fun _ hs => hs
  | cons call calls ih =>
    intro store hs
    cases call with
    | ensureRecentExchangeRates now newTime fetched =>
      refine ih _ ?_
      unfold ensureRecentExchangeRates
      split
      · exact hs
      · split
        · exact hs
        · exact (hs.putRates cal now _).put_date _
    | importHistoricalExchangeRates fetched =>
      refine ih _ ?_
      unfold importHistoricalExchangeRates
      repeat' split
      all_goals first | exact hs | exact hs.putBatch _

/-- A key in such a store, other than `ExchangeRateDateKey`, has a rate to read. -/
theorem getExchangeRate_of_contains {store : KvStore} (hs : RatesOutsideDateKey store)
    {key : String} (hkey : key ≠ exchangeRateDateKey) (hc : store.contains key = true) :
    ∃ r, getExchangeRate store key = .ok r := by
  simp only [KvStore.contains, Option.isSome_iff_exists] at hc
  obtain ⟨v, hv⟩ := hc
  cases v with
  | rate r => exact ⟨r, by simp [getExchangeRate, KvStore.getRate_of_rate hv]⟩
  | time t => exact absurd hv (hs key hkey t)

/-- Where both keys hold rates, or the source is the euro, a conversion returns a value. -/
theorem toCurrencyWith_ok {store : KvStore} (hs : RatesOutsideDateKey store) {eurCode «to» «from»
    toKey fromKey eurContext rateContext eurContext' : String} {value : Float}
    (htoKey : toKey ≠ exchangeRateDateKey) (hto : store.contains toKey = true)
    (hfrom : «from» = eurCode ∨ fromKey ≠ exchangeRateDateKey ∧ store.contains fromKey = true) :
    ∃ r, toCurrencyWith store «to» value «from» toKey
      (toEurWith eurCode store value «from» fromKey eurContext) rateContext eurContext' = .ok r := by
  obtain ⟨rate, hrate⟩ := getExchangeRate_of_contains hs htoKey hto
  unfold toCurrencyWith toEurWith
  split_ifs with hft hfe
  · exact ⟨_, rfl⟩
  · exact ⟨_, by rw [hrate]⟩
  · obtain ⟨fromRate, hfromRate⟩ := getExchangeRate_of_contains hs (hfrom.resolve_left hfe).1
      (hfrom.resolve_left hfe).2
    exact ⟨_, by rw [hrate, hfromRate]⟩

theorem hasCurrencyWith_eq_ok_true {store : KvStore} {currency key : String} :
    hasCurrencyWith store currency key = .ok true ↔ currency = "EUR" ∨ store.contains key = true := by
  unfold hasCurrencyWith
  split_ifs with h <;> simp [h]

/-- On every store the updater can write, the support checks and the conversions agree for every
target but the euro: when both currencies are supported, the conversion returns a value. This
takes `Eur` to be `"EUR"`, the code the support checks accept, and leaves out the key
`ExchangeRateDateKey`, which holds a time and no rate. -/
theorem conversion_agrees_with_support_off_eur (cal : Calendar)
    (getTime : Content → Except String Time) (calls : List UpdaterCall) {eurCode «to» «from» : String}
    (value : Float) (date : Time) (heur : eurCode = "EUR") (hto : «to» ≠ "EUR") :
    let store := runUpdater cal getTime KvStore.empty calls
    («to» ≠ exchangeRateDateKey → «from» ≠ exchangeRateDateKey →
      hasCurrency store «from» = .ok true → hasCurrency store «to» = .ok true →
      ∃ r, toCurrency eurCode store «to» value «from» = .ok r) ∧
    (historicalRateKey cal date «to» ≠ exchangeRateDateKey →
      historicalRateKey cal date «from» ≠ exchangeRateDateKey →
      hasCurrencyAtDate cal store «from» date = .ok true →
      hasCurrencyAtDate cal store «to» date = .ok true →
      ∃ r, toCurrencyAtDate cal eurCode store «to» value «from» date = .ok r) := by
  intro store
  have hs := ratesOutsideDateKey_runUpdater cal getTime calls
  have hsource : ∀ {key}, key ≠ exchangeRateDateKey → hasCurrencyWith store «from» key = .ok true →
      «from» = eurCode ∨ key ≠ exchangeRateDateKey ∧ store.contains key = true := fun hkey h =>
    (hasCurrencyWith_eq_ok_true.1 h).imp (fun hfrom => hfrom.trans heur.symm) (⟨hkey, ·⟩)
  have htarget : ∀ {key}, hasCurrencyWith store «to» key = .ok true → store.contains key = true :=
    fun h => (hasCurrencyWith_eq_ok_true.1 h).resolve_left hto
  exact ⟨fun htoKey hfromKey hfrom hto' => toCurrencyWith_ok hs htoKey (htarget hto')
      (hsource hfromKey hfrom),
    fun htoKey hfromKey hfrom hto' => toCurrencyWith_ok hs htoKey (htarget hto')
      (hsource hfromKey hfrom)⟩

theorem conversion_agrees_with_support_off_eur_from_eur :
    ∃ r, toCurrency "EUR" (runUpdater Calendar.tally (fun _ => .error "") KvStore.empty
      [.ensureRecentExchangeRates 0 0 (.ok [⟨"USD", 1.1⟩])]) "USD" 2 "EUR" = .ok r :=
  (conversion_agrees_with_support_off_eur Calendar.tally (fun _ => .error "")
    [.ensureRecentExchangeRates 0 0 (.ok [⟨"USD", 1.1⟩])] 2 0 rfl (by decide)).1
    (by decide) (by decide) rfl rfl

/-! ## The copy in `service.go`

`src/pkg/currency/service.go` holds another `currencyService`, with `HasCurrency`, `ToEur`,
`ToUsd` and `ToCurrency` alone. Its `HasCurrency` is the one above. It wraps its errors with
`errors.WithMessage`, whose text is that of `fmt.Errorf("%s: %w")`, but which is nil for a nil
error; where a rate is missing the error is nil, so the missing rate reads as zero. -/

namespace ServiceGo

variable (eurCode : String)

/-- `getExchangeRate` of `service.go`: a missing key gives the zero rate and no error, since
`errors.WithMessage(nil, ...)` is nil. -/
def getExchangeRate (store : KvStore) («to» : String) : Except String Float :=
  match store.getRate «to» with
  | .error err => .error ("CurrencyService: error getting exchange rate: " ++ err)
  | .ok (false, _) => .ok 0
  | .ok (true, exchangeRate) => .ok exchangeRate

/-- `ToEur` of `service.go`. -/
def toEur (store : KvStore) (value : Float) («from» : String) : Except String Float :=
  if «from» = eurCode then .ok value else
    match getExchangeRate store «from» with
    | .error err => .error ("CurrencyService: error parsing exchange rate: " ++ err)
    | .ok exchangeRate => .ok (value / exchangeRate)

/-- `ToCurrency` of `service.go`. -/
def toCurrency (store : KvStore) («to» : String) (value : Float) («from» : String) :
    Except String Float :=
  if «from» = «to» then .ok value else
    match getExchangeRate store «to» with
    | .error err => .error ("CurrencyService: error parsing exchange rate: " ++ err)
    | .ok exchangeRate =>
      match toEur eurCode store value «from» with
      | .error err => .error ("CurrencyService: error converting to eur: " ++ err)
      | .ok eur => .ok (eur * exchangeRate)

/-- `ToUsd` of `service.go`. -/
def toUsd (usdCode : String) (store : KvStore) (value : Float) («from» : String) :
    Except String Float :=
  toUsdWith usdCode value «from» (toCurrency eurCode store usdCode value «from»)

/-- Here too `ToUsd` is `ToCurrency` into dollars. -/
theorem toUsd_eq_toCurrency (usdCode : String) (store : KvStore) (value : Float) («from» : String) :
    toUsd eurCode usdCode store value «from» = toCurrency eurCode store usdCode value «from» := by
  unfold toUsd toUsdWith toCurrency
  split_ifs <;> rfl

end ServiceGo

/-- A currency `HasCurrency` does not support has no entry in the store. -/
theorem getRate_of_hasCurrency_eq_false {store : KvStore} {currency : String}
    (h : hasCurrency store currency = .ok false) : store.getRate currency = .ok (false, 0) := by
  unfold hasCurrency hasCurrencyWith at h
  split_ifs at h
  · cases h
  · exact KvStore.getRate_of_none (by simpa [KvStore.contains] using h)

/-- In `service.go` a currency without a rate reads as the zero rate, and no call reports it.
`ToCurrency` into a currency that `HasCurrency` does not support succeeds whenever `ToEur` does,
with the euro value times zero, and `ToEur` from such a currency divides by zero. The other copy
reports "currency not found" for the same call. -/
theorem serviceGo_converts_unsupported (eurCode : String) (store : KvStore) {«to» «from» : String}
    (value : Float) (hto : hasCurrency store «to» = .ok false) (hne : «from» ≠ «to») :
    (∀ eur, ServiceGo.toEur eurCode store value «from» = .ok eur →
      ServiceGo.toCurrency eurCode store «to» value «from» = .ok (eur * 0)) ∧
    (hasCurrency store «from» = .ok false → «from» ≠ eurCode →
      ServiceGo.toEur eurCode store value «from» = .ok (value / 0)) ∧
    toCurrency eurCode store «to» value «from» = .error
      "CurrencyService: error parsing exchange rate: CurrencyService: currency not found: %!w(<nil>)" := by
  refine ⟨fun eur heur => ?_, fun hfrom heur => ?_, ?_⟩
  · rw [ServiceGo.toCurrency, if_neg hne, ServiceGo.getExchangeRate,
      getRate_of_hasCurrency_eq_false hto]
    simp only [heur]
  · rw [ServiceGo.toEur, if_neg heur, ServiceGo.getExchangeRate,
      getRate_of_hasCurrency_eq_false hfrom]
  · rw [toCurrency, toCurrencyWith, if_neg hne, getExchangeRate, getRate_of_hasCurrency_eq_false hto]
    rfl

example : ServiceGo.toCurrency "EUR" KvStore.empty "USD" 10 "GBP" = .ok (10 / 0 * 0) := rfl

end Gosoline.Currency
