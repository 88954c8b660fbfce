import Gosoline.Currency.Model

/-!
# The exchange-rate updater

`EnsureRecentExchangeRates` writes, at most every eight hours, the latest rate of each fetched
currency under its code and under the key of the current day, then the time of the refresh.
`ImportHistoricalExchangeRates` fills the days the feed skips (weekends, holidays) with the
rates of the day before, in `fillInGapDays`, and writes the rate of every currency of every day
in one batch.

What the feeds return is an argument: `fetched` is the result of `getCurrencyRates` or
`getCurrencyRatesForLast3Months`, error text included. `Content.GetTime` is declared outside
the sources we have and is a parameter, `getTime`; so are the clock readings.
-/

namespace Gosoline.Currency

/-- `needsRefresh`, with `now` the reading of its `time.Now()`. -/
def needsRefresh (store : KvStore) (now : Time) : Bool :=
  match store.getDate exchangeRateDateKey with
  | .error _ => true
  | .ok (false, _) => true
  | .ok (true, date) => decide (date < now - exchangeRateRefresh)

/-- The loop of `EnsureRecentExchangeRates` over the fetched rates. -/
def putRates (cal : Calendar) (now : Time) (store : KvStore) : List Rate → KvStore
  | [] => store
  | rate :: rates =>
    putRates cal now ((store.put rate.currency (.rate rate.rate)).put
      (historicalRateKey cal now rate.currency) (.rate rate.rate)) rates

/-- `EnsureRecentExchangeRates`: its error and the store it leaves. `now` is the clock reading
before the writes, which also decides `needsRefresh`, and `newTime` the one after them. -/
def ensureRecentExchangeRates (cal : Calendar) (store : KvStore) (now newTime : Time)
    (fetched : Except String (List Rate)) : Except String Unit × KvStore :=
  if !needsRefresh store now then (.ok (), store) else
    match fetched with
    | .error err => (.error ("error getting currency exchange rates: " ++ err), store)
    | .ok rates => (.ok (), (putRates cal now store rates).put exchangeRateDateKey (.time newTime))

/-- A first refresh writes each rate under its code and under the day's key, then the time of
the refresh. -/
theorem ensureRecentExchangeRates_empty (cal : Calendar) (now newTime : Time) (rates : List Rate) :
    ensureRecentExchangeRates cal KvStore.empty now newTime (.ok rates) =
      (.ok (), (putRates cal now KvStore.empty rates).put exchangeRateDateKey (.time newTime)) := by
  simp [ensureRecentExchangeRates, needsRefresh, KvStore.getDate]

/-- `needsRefresh` of a store that holds the time `t` of its last refresh. -/
theorem needsRefresh_of_date {store : KvStore} {t : Time}
    (h : store exchangeRateDateKey = some (.time t)) (now : Time) :
    needsRefresh store now = decide (t < now - exchangeRateRefresh) := by
  simp [needsRefresh, KvStore.getDate, h]

/-- A call that finds no refresh due fetches nothing and leaves the store as it is. -/
theorem ensureRecentExchangeRates_of_needsRefresh_eq_false (cal : Calendar) {store : KvStore}
    {now : Time} (h : needsRefresh store now = false) (newTime : Time)
    (fetched : Except String (List Rate)) :
    ensureRecentExchangeRates cal store now newTime fetched = (.ok (), store) := by
  simp [ensureRecentExchangeRates, h]

/-- A refresh that fetched the rates writes its time last, over any rate under that key. -/
theorem ensureRecentExchangeRates_date (cal : Calendar) {store : KvStore} {now : Time}
    (h : needsRefresh store now = true) (newTime : Time) (rates : List Rate) :
    (ensureRecentExchangeRates cal store now newTime (.ok rates)).2 exchangeRateDateKey =
      some (.time newTime) := by
  simp [ensureRecentExchangeRates, h]

section Historical

variable (cal : Calendar) (getTime : Content → Except String Time)

/-- The first loop of `fillInGapDays`: the earliest and latest dates, the zero time standing
for "none yet" (`IsZero`), and the last entry of each day under the day's text. -/
def collectDays (startDate endDate : Time) (dailyRates : String → Option Content) :
    List Content → Except String (Time × Time × (String → Option Content))
  | [] => .ok (startDate, endDate, dailyRates)
  | dayRates :: historicalContent =>
    match getTime dayRates with
    | .error err => .error ("fillInGapDays error: " ++ err)
    | .ok date =>
      collectDays (if startDate = 0 ∨ date < startDate then date else startDate)
        (if endDate = 0 ∨ endDate < date then date else endDate)
        (Function.update dailyRates (cal.formatYMD date) (some dayRates)) historicalContent

/-- The second loop of `fillInGapDays`, with `fuel` of its 180 iterations left: from `date`
up to `endDate`, a day with no entry gets a copy of the entry of `lastDay`, the last day that
had one, under its own text. -/
def fillGaps (endDate : Time) (dailyRates : String → Option Content) :
    ℕ → Time → Time → List Content → List Content
  | 0, _, _, historicalContent => historicalContent
  | fuel + 1, date, lastDay, historicalContent =>
    if date = endDate ∨ endDate < date then historicalContent
    else
      match dailyRates (cal.formatYMD date) with
      | none =>
        fillGaps endDate dailyRates fuel (date + nsPerDay) lastDay (historicalContent ++
          [{ (dailyRates (cal.formatYMD lastDay)).getD Content.zero with time := cal.formatYMD date }])
      | some _ => fillGaps endDate dailyRates fuel (date + nsPerDay) date historicalContent

/-- `fillInGapDays`. -/
def fillInGapDays (historicalContent : List Content) : Except String (List Content) :=
  match collectDays cal getTime 0 0 (fun _ => none) historicalContent with
  | .error err => .error err
  | .ok (startDate, endDate, dailyRates) =>
    .ok (fillGaps cal endDate dailyRates 180 startDate startDate historicalContent)

/-- The loop of `ImportHistoricalExchangeRates` that builds `keyValues`: the rate of each
currency of each day under the day's key, a later write of a key replacing an earlier one. -/
def collectKeyValues (keyValues : String → Option Float) :
    List Content → Except String (String → Option Float)
  | [] => .ok keyValues
  | dayRates :: rates =>
    match getTime dayRates with
    | .error err => .error ("error parsing time in historical exchange rates: " ++ err)
    | .ok date =>
      collectKeyValues (dayRates.rates.foldl (fun keyValues rate =>
        Function.update keyValues (historicalRateKey cal date rate.currency) (some rate.rate))
        keyValues) rates

/-- `ImportHistoricalExchangeRates`: its error and the store it leaves. -/
def importHistoricalExchangeRates (store : KvStore) (fetched : Except String (List Content)) :
    Except String Unit × KvStore :=
  match fetched with
  | .error err => (.error ("error getting historical currency exchange rates: " ++ err), store)
  | .ok rates =>
    match fillInGapDays cal getTime rates with
    | .error err => (.error ("error filling in gaps: " ++ err), store)
    | .ok rates =>
      match collectKeyValues cal getTime (fun _ => none) rates with
      | .error err => (.error err, store)
      | .ok keyValues => (.ok (), store.putBatch keyValues)

/-- The batch of an import holds no rate under `ExchangeRateDateKey`: its keys are days' keys. -/
theorem collectKeyValues_dateKey {keyValues kv : String → Option Float}
    (hkv : keyValues exchangeRateDateKey = none) {rates : List Content}
    (h : collectKeyValues cal getTime keyValues rates = .ok kv) : kv exchangeRateDateKey = none := by
  induction rates generalizing keyValues with
  | nil => exact (Except.ok.inj h) ▸ hkv
  | cons dayRates rates ih =>
    simp only [collectKeyValues] at h
    split at h
    · cases h
    · refine ih ?_ h
      clear h
      induction dayRates.rates generalizing keyValues with
      | nil => exact hkv
      | cons rate rs ihr =>
        exact ihr ((Function.update_noteq (historicalRateKey_ne_exchangeRateDateKey cal _ _).symm _ _).trans hkv)

/-- An import never writes `ExchangeRateDateKey`. -/
theorem importHistoricalExchangeRates_dateKey (store : KvStore)
    (fetched : Except String (List Content)) :
    (importHistoricalExchangeRates cal getTime store fetched).2 exchangeRateDateKey =
      store exchangeRateDateKey := by
  unfold importHistoricalExchangeRates
  split
  · rfl
  split
  · rfl
  split
  · rfl
  next h => simp [KvStore.putBatch, collectKeyValues_dateKey cal getTime rfl h]

end Historical

/-- A run of the updater: its calls, with what each would meet. -/
inductive UpdaterCall where
  | ensureRecentExchangeRates (now newTime : Time) (fetched : Except String (List Rate))
  | importHistoricalExchangeRates (fetched : Except String (List Content))

/-- The store after the updater's calls, oldest first. -/
def runUpdater (cal : Calendar) (getTime : Content → Except String Time) (store : KvStore) :
    List UpdaterCall → KvStore
  | [] => store
  | .ensureRecentExchangeRates now newTime fetched :: calls =>
    runUpdater cal getTime (ensureRecentExchangeRates cal store now newTime fetched).2 calls
  | .importHistoricalExchangeRates fetched :: calls =>
    runUpdater cal getTime (importHistoricalExchangeRates cal getTime store fetched).2 calls

/-- What one call of the updater returns, and the store it leaves. -/
def UpdaterCall.apply (cal : Calendar) (getTime : Content → Except String Time) (store : KvStore) :
    UpdaterCall → Except String Unit × KvStore
  | .ensureRecentExchangeRates now newTime fetched =>
    Currency.ensureRecentExchangeRates cal store now newTime fetched
  | .importHistoricalExchangeRates fetched =>
    Currency.importHistoricalExchangeRates cal getTime store fetched

theorem runUpdater_cons (cal : Calendar) (getTime : Content → Except String Time) (store : KvStore)
    (call : UpdaterCall) (calls : List UpdaterCall) :
    runUpdater cal getTime store (call :: calls) =
      runUpdater cal getTime (call.apply cal getTime store).2 calls := by
  cases call <;> rfl

/-- Whether a call is an `ImportHistoricalExchangeRates`. -/
def UpdaterCall.isImport : UpdaterCall → Bool
  | .ensureRecentExchangeRates .. => false
  | .importHistoricalExchangeRates _ => true

/-! ## The refresh throttle -/

section Throttle

variable (cal : Calendar) (getTime : Content → Except String Time)

/-- From a store refreshed at `t`, the `EnsureRecentExchangeRates` calls of a run whose clocks
read at most eight hours after `t` change nothing: the run ends where its imports alone end, and
the time of the refresh stays `t`. -/
theorem runUpdater_eq_imports {store : KvStore} {t : Time}
    (hs : store exchangeRateDateKey = some (.time t)) {calls : List UpdaterCall}
    (hcalls : ∀ now newTime fetched,
      UpdaterCall.ensureRecentExchangeRates now newTime fetched ∈ calls → now - exchangeRateRefresh ≤ t) :
    runUpdater cal getTime store calls = runUpdater cal getTime store (calls.filter UpdaterCall.isImport) ∧
      runUpdater cal getTime store calls exchangeRateDateKey = some (.time t) := by
  induction calls generalizing store with
  | nil => exact ⟨rfl, hs⟩
  | cons call calls ih =>
    have hrest := fun now newTime fetched h => hcalls now newTime fetched (List.mem_cons_of_mem call h)
    cases call with
    | ensureRecentExchangeRates now newTime fetched =>
      have hskip := ensureRecentExchangeRates_of_needsRefresh_eq_false cal
        ((needsRefresh_of_date hs now).trans
          (decide_eq_false (not_lt.2 (hcalls now newTime fetched (List.mem_cons_self _ _))))) newTime fetched
      simp only [runUpdater, hskip, List.filter_cons, UpdaterCall.isImport]
      exact ih hs hrest
    | importHistoricalExchangeRates fetched =>
      simp only [runUpdater, List.filter_cons, UpdaterCall.isImport, if_true]
      exact ih ((importHistoricalExchangeRates_dateKey cal getTime store fetched).trans hs) hrest

/-- `EnsureRecentExchangeRates` refreshes at most every eight hours. After a refresh that fetched
the rates at `newTime`, take any later calls, imports among them, whose
`EnsureRecentExchangeRates` calls read their clocks at most eight hours after `newTime`. Those
calls fetch nothing and write nothing: the run ends where the refresh and the imports alone end.
The refresh time stays `newTime`, so the next call refreshes exactly when its clock reads more
than eight hours after it. -/
theorem ensureRecentExchangeRates_throttles {store : KvStore} {now newTime : Time}
    (hneeds : needsRefresh store now = true) (rates : List Rate) {calls : List UpdaterCall}
    (hcalls : ∀ now' newTime' fetched, UpdaterCall.ensureRecentExchangeRates now' newTime' fetched ∈ calls →
      now' - exchangeRateRefresh ≤ newTime) :
    runUpdater cal getTime store (.ensureRecentExchangeRates now newTime (.ok rates) :: calls) =
        runUpdater cal getTime store
          (.ensureRecentExchangeRates now newTime (.ok rates) :: calls.filter UpdaterCall.isImport) ∧
      ∀ now', needsRefresh (runUpdater cal getTime store
        (.ensureRecentExchangeRates now newTime (.ok rates) :: calls)) now' =
          decide (newTime < now' - exchangeRateRefresh) := by
  obtain ⟨hrun, hdate⟩ :=
    runUpdater_eq_imports cal getTime (ensureRecentExchangeRates_date cal hneeds newTime rates) hcalls
  exact ⟨hrun, needsRefresh_of_date hdate⟩

theorem ensureRecentExchangeRates_throttles_tally :
    runUpdater Calendar.tally (fun _ => .error "") KvStore.empty
        [.ensureRecentExchangeRates 0 1 (.ok [⟨"USD", 1.1⟩]),
          .ensureRecentExchangeRates 5 6 (.error "unreachable"), .importHistoricalExchangeRates (.error "down")] =
        runUpdater Calendar.tally (fun _ => .error "") KvStore.empty
          (.ensureRecentExchangeRates 0 1 (.ok [⟨"USD", 1.1⟩]) ::
            [.ensureRecentExchangeRates 5 6 (.error "unreachable"),
              .importHistoricalExchangeRates (.error "down")].filter UpdaterCall.isImport) ∧
      ∀ now', needsRefresh (runUpdater Calendar.tally (fun _ => .error "") KvStore.empty
        [.ensureRecentExchangeRates 0 1 (.ok [⟨"USD", 1.1⟩]),
          .ensureRecentExchangeRates 5 6 (.error "unreachable"), .importHistoricalExchangeRates (.error "down")])
          now' = decide (1 < now' - exchangeRateRefresh) :=
  @ensureRecentExchangeRates_throttles Calendar.tally _ KvStore.empty 0 1 rfl _ _ fun _ _ _ h => by
    simp only [List.mem_cons, List.mem_singleton, UpdaterCall.ensureRecentExchangeRates.injEq,
      reduceCtorEq, or_false, List.not_mem_nil] at h
    obtain ⟨rfl, -⟩ := h
    decide

end Throttle

end Gosoline.Currency
