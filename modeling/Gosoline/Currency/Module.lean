import Gosoline.Currency.Updater
import Gosoline.Mon.Logger

/-!
# The currency module

`Module.Run` refreshes the exchange rates and imports the historical ones. It then refreshes
again at every tick of an hourly ticker until its context is done, and returns nil. `refresh` and
`importExchangeRates` log the error of their updater call through the module's logger with
`Error`, and the loop goes on.

A run is given by what each call meets: the clock readings and the feed's result of the first
refresh, the feed's result of the import, and the same for each tick's refresh. The logger is the
`logger` of package `mon`. Through a logger without hooks that lets `Error` through, the module
leaves the store the updater's run of its calls leaves, and writes one record for each failed
call, in order (`run_logs_failures`).
-/

namespace Gosoline.Currency

open Mon

variable {Ctx Buf : Type}

/-- What a refresh meets: the clock reading that decides `needsRefresh`, the one after its
writes, and what `getCurrencyRates` returns. -/
abbrev RefreshInput := Time × Time × Except String (List Rate)

section Module

variable (env : LogEnv Ctx Buf) (logger : Logger Ctx) (cal : Calendar)
  (getTime : Content → Except String Time)

/-- What `refresh` and `importExchangeRates` share. The store the updater's call leaves, and the
record `module.logger.Error(err, msg)` writes when the call returned an error. -/
def logFailure (msg : String) : Except String Unit × KvStore → KvStore × List Buf
  | (.error err, store) => (store, logger.error env (some err) msg [])
  | (.ok (), store) => (store, [])

/-- `refresh`. -/
def refresh (store : KvStore) (input : RefreshInput) : KvStore × List Buf :=
  logFailure env logger "failed to refresh currency exchange rates"
    (ensureRecentExchangeRates cal store input.1 input.2.1 input.2.2)

/-- `importExchangeRates`. -/
def importExchangeRates (store : KvStore) (fetched : Except String (List Content)) :
    KvStore × List Buf :=
  logFailure env logger "failed to import historical currency exchange rates"
    (importHistoricalExchangeRates cal getTime store fetched)

/-- The loop of `Run`: a refresh at each tick, until the context is done. -/
def tickLoop (store : KvStore) : List RefreshInput → KvStore × List Buf
  | [] => (store, [])
  | input :: ticks =>
    let refreshed := refresh env logger cal store input
    let ticked := tickLoop refreshed.1 ticks
    (ticked.1, refreshed.2 ++ ticked.2)

/-- `Run`, when its context is done after the ticks `ticks`: the store it leaves and the records
it writes. -/
def run (store : KvStore) (first : RefreshInput) (historical : Except String (List Content))
    (ticks : List RefreshInput) : KvStore × List Buf :=
  let refreshed := refresh env logger cal store first
  let imported := importExchangeRates env logger cal getTime refreshed.1 historical
  let ticked := tickLoop env logger cal imported.1 ticks
  (ticked.1, refreshed.2 ++ imported.2 ++ ticked.2)

end Module

/-! ## The calls of a run and their failures -/

/-- The updater's call a refresh makes. -/
def RefreshInput.call (input : RefreshInput) : UpdaterCall :=
  .ensureRecentExchangeRates input.1 input.2.1 input.2.2

/-- The updater's calls `Run` makes: a refresh, the import, and a refresh at each tick. -/
def runCalls (first : RefreshInput) (historical : Except String (List Content))
    (ticks : List RefreshInput) : List UpdaterCall :=
  first.call :: .importHistoricalExchangeRates historical :: ticks.map RefreshInput.call

/-- The message the module logs a failed call with. -/
def failureMessage : UpdaterCall → String
  | .ensureRecentExchangeRates .. => "failed to refresh currency exchange rates"
  | .importHistoricalExchangeRates _ => "failed to import historical currency exchange rates"

section Failures

variable (cal : Calendar) (getTime : Content → Except String Time)

/-- The calls of a run of the updater that returned an error, in order, with their errors. -/
def failures (store : KvStore) : List UpdaterCall → List (UpdaterCall × String)
  | [] => []
  | call :: calls =>
    match call.apply cal getTime store with
    | (.error err, store) => (call, err) :: failures store calls
    | (.ok (), store) => failures store calls

theorem failures_cons (store : KvStore) (call : UpdaterCall) (calls : List UpdaterCall) :
    failures cal getTime store (call :: calls) =
      failures cal getTime store [call] ++ failures cal getTime (call.apply cal getTime store).2 calls := by
  simp only [failures]
  split <;> rename_i h <;> rw [h] <;> rfl

end Failures

/-- The record `logger.Error(err, msg)` writes through a logger without hooks that lets `Error`
through: the logger's metadata with the stack trace merged into its fields. -/
def errorRecord (env : LogEnv Ctx Buf) (logger : Logger Ctx) (msg err : String) : Buf :=
  (env.formatters logger.format (env.timestamp logger.timestampFormat) Mon.error msg (some err)
    ⟨logger.data.channel, logger.data.context, logger.data.contextFields,
      mergeMapStringInterface logger.data.fields [("stacktrace", .string env.stackTrace)],
      logger.data.tags⟩).1

section Records

variable (env : LogEnv Ctx Buf) {logger : Logger Ctx} (cal : Calendar)
  (getTime : Content → Except String Time)

/-- `Error` with no arguments, through a logger without hooks that lets it through, writes its
one record. -/
theorem error_of_hooks_nil (hhooks : logger.hooks = [])
    (hlevel : logger.level ≤ levelPriority Mon.error) (msg err : String) :
    logger.error env (some err) msg [] = [errorRecord env logger msg err] := by
  rw [Logger.error, Logger.logError, Logger.log_of_hooks_nil env hhooks, if_neg (not_lt.2 hlevel)]
  rfl

/-- The module's handling of one call: the store the call leaves, and one record if it failed. -/
theorem logFailure_apply (hhooks : logger.hooks = []) (hlevel : logger.level ≤ levelPriority Mon.error)
    (store : KvStore) (call : UpdaterCall) :
    logFailure env logger (failureMessage call) (call.apply cal getTime store) =
      ((call.apply cal getTime store).2,
        (failures cal getTime store [call]).map fun f => errorRecord env logger (failureMessage f.1) f.2) := by
  simp only [failures]
  split
  next err store' h => rw [h, logFailure, error_of_hooks_nil env hhooks hlevel]; rfl
  next store' h => rw [h]; rfl

/-- The tick loop leaves the store the updater's run of its refreshes leaves, and writes one record
for each refresh that failed. -/
theorem tickLoop_eq (hhooks : logger.hooks = []) (hlevel : logger.level ≤ levelPriority Mon.error)
    (store : KvStore) (ticks : List RefreshInput) :
    tickLoop env logger cal store ticks =
      (runUpdater cal getTime store (ticks.map RefreshInput.call),
        (failures cal getTime store (ticks.map RefreshInput.call)).map fun f =>
          errorRecord env logger (failureMessage f.1) f.2) := by
  induction ticks generalizing store with
  | nil => rfl
  | cons input ticks ih =>
    have hstep : refresh env logger cal store input = _ :=
      logFailure_apply env cal getTime hhooks hlevel store input.call
    rw [List.map_cons, runUpdater_cons, failures_cons, List.map_append, tickLoop, hstep, ih]

/-- Through a logger without hooks that lets `Error` through, such as a new one, `Run` leaves the
store the updater's run of its calls leaves: a refresh, the import, and a refresh at each tick. A
failed call does not stop the loop. The module writes one `Error` record for each failed call, in
order, with the call's error and the message of its kind. -/
theorem run_logs_failures (hhooks : logger.hooks = []) (hlevel : logger.level ≤ levelPriority Mon.error)
    (store : KvStore) (first : RefreshInput) (historical : Except String (List Content))
    (ticks : List RefreshInput) :
    run env logger cal getTime store first historical ticks =
      (runUpdater cal getTime store (runCalls first historical ticks),
        (failures cal getTime store (runCalls first historical ticks)).map fun f =>
          errorRecord env logger (failureMessage f.1) f.2) := by
  have hfirst : refresh env logger cal store first = _ :=
    logFailure_apply env cal getTime hhooks hlevel store first.call
  have himport : importExchangeRates env logger cal getTime (first.call.apply cal getTime store).2
      historical = _ :=
    logFailure_apply env cal getTime hhooks hlevel _ (.importHistoricalExchangeRates historical)
  rw [runCalls, runUpdater_cons, runUpdater_cons, failures_cons, failures_cons _ _ _
    (.importHistoricalExchangeRates historical), List.map_append, List.map_append, ← List.append_assoc,
    run, hfirst, himport, tickLoop_eq env cal getTime hhooks hlevel]

end Records

theorem run_logs_failures_feed_down :
    (run ⟨fun _ _ level msg err _ => ((level, msg, err), none), fun msg _ => msg, fun _ => "", ""⟩
        (newLoggerWithInterfaces : Logger Unit) Calendar.tally (fun _ => .error "") KvStore.empty
        (0, 1, .error "feed down") (.error "feed down") [(2, 3, .ok [⟨"USD", 1.1⟩])]).2 =
      [("error", "failed to refresh currency exchange rates",
          some "error getting currency exchange rates: feed down"),
        ("error", "failed to import historical currency exchange rates",
          some "error getting historical currency exchange rates: feed down")] :=
  (congrArg Prod.snd (run_logs_failures _ Calendar.tally (fun _ => .error "") rfl (by decide) KvStore.empty
    (0, 1, .error "feed down") (.error "feed down") [(2, 3, .ok [⟨"USD", 1.1⟩])])).trans rfl

end Gosoline.Currency
