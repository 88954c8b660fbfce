import Gosoline.Mon.Logger
import Gosoline.Apiserver.PathRaw

/-!
# The logging middleware

`LoggingMiddleware` gives its logger the channel `http`. After the handlers of a request have
run, it derives from that logger one with the request's context and with thirteen fields that
describe the request and the response, the raw path among them. It then writes one `Info`
record, or, when the handlers reported errors, one record for each error in order: `Warn` for a
bind or a render error, `Error` for any other.

A `gin.Context` is given by what the middleware reads of it once the handlers have run, and the
time the request took by its duration. The logger is the `logger` of package `mon`.
-/

namespace Gosoline.Apiserver

open Mon

/-- The type of a `gin.Error`, as the middleware tells them apart. -/
inductive ErrorType where
  /-- `gin.ErrorTypeBind`. -/
  | bind
  /-- `gin.ErrorTypeRender`. -/
  | render
  /-- Any other type. -/
  | other
  deriving DecidableEq, Repr

/-- A `gin.Error`: its type and the text of its error. -/
structure GinError where
  type : ErrorType
  err : String
  deriving DecidableEq, Repr

/-- What `LoggingMiddleware` reads of a `gin.Context` after the handlers ran: the route
`getPathRaw` reads, the request's context, host, protocol, method, referer, scheme, raw query and
query values, the response's size and status, the client's IP and the errors. -/
structure GinContext (Ctx : Type) where
  route : Context
  ctx : Ctx
  host : String
  proto : String
  method : String
  referer : String
  scheme : String
  rawQuery : String
  query : List (String × List String)
  size : ℤ
  clientIP : String
  status : ℤ
  errors : List GinError

variable {Ctx Buf : Type}

/-- `url.Values.Get`: the first value of the key, or the empty string. -/
def queryGet (query : List (String × List String)) (k : String) : String :=
  ((query.lookup k).bind List.head?).getD ""

/-- The loop `for k := range query { queryParameters[k] = query.Get(k) }`, a
`map[string]string`. -/
def queryParameters (query : List (String × List String)) : Fields :=
  query.foldl (fun m e => assign e.1 (.string (queryGet query e.1)) m) []

/-- `time.Second`, in nanoseconds. -/
def nsPerSecond : ℤ := 1000000000

/-- The fields the middleware gives the request's logger. -/
def requestFields (ginCtx : GinContext Ctx) (requestTimeNano : Duration) : Fields :=
  [("bytes", .scalar (toString ginCtx.size)),
    ("client_ip", .string ginCtx.clientIP),
    ("host", .string ginCtx.host),
    ("protocol", .string ginCtx.proto),
    ("request_method", .string ginCtx.method),
    ("request_path", .string (String.mk ginCtx.route.path)),
    ("request_path_raw", .string (String.mk (getPathRaw ginCtx.route))),
    ("request_query", .string ginCtx.rawQuery),
    ("request_query_parameters", .map (queryParameters ginCtx.query)),
    ("request_referer", .string ginCtx.referer),
    ("request_time", .scalar (toString (Float.ofInt requestTimeNano / Float.ofInt nsPerSecond))),
    ("scheme", .string ginCtx.scheme),
    ("status", .scalar (toString ginCtx.status))]

/-- The arguments of the middleware's messages: method, path and protocol. -/
def requestArgs (ginCtx : GinContext Ctx) : List Value :=
  [.string ginCtx.method, .string (String.mk ginCtx.route.path), .string ginCtx.proto]

/-- The handler `LoggingMiddleware(logger)` returns, run after the handlers of a request that
took `requestTimeNano`: the records it writes, in order. -/
def loggingMiddleware (env : LogEnv Ctx Buf) (logger : Logger Ctx) (ginCtx : GinContext Ctx)
    (requestTimeNano : Duration) : List Buf :=
  let chLogger := logger.withChannel "http"
  let log := (chLogger.withContext (some ginCtx.ctx)).withFields (requestFields ginCtx requestTimeNano)
  if ginCtx.errors.length = 0 then log.info env "%s %s %s" (requestArgs ginCtx) else
  ginCtx.errors.flatMap fun e =>
    match e.type with
    | .bind => log.warn env "%s %s %s - bind error - %v" (requestArgs ginCtx ++ [.error e.err])
    | .render => log.warn env "%s %s %s - render error - %v" (requestArgs ginCtx ++ [.error e.err])
    | .other => log.error env (some e.err) "%s %s %s" (requestArgs ginCtx)

/-! ## The records the middleware writes -/

/-- The metadata of a record the middleware writes through `logger` with the call's own fields
`extra`: the channel `http`, the request's context and what the resolvers find in it, and the
request's fields and then `extra` merged into the logger's fields. -/
def recordData (logger : Logger Ctx) (ginCtx : GinContext Ctx) (requestTimeNano : Duration)
    (extra : Fields) : Metadata Ctx :=
  ⟨"http", some ginCtx.ctx,
    mergeMapStringInterface logger.data.contextFields (logger.ctxResolver.flatMap fun r => r ginCtx.ctx),
    mergeMapStringInterface logger.data.fields (requestFields ginCtx requestTimeNano ++ extra),
    logger.data.tags⟩

/-- A record the middleware writes through `logger`, in the logger's format. -/
def requestRecord (env : LogEnv Ctx Buf) (logger : Logger Ctx) (ginCtx : GinContext Ctx)
    (requestTimeNano : Duration) (level msg : String) (err : Option String) (extra : Fields) : Buf :=
  (env.formatters logger.format (env.timestamp logger.timestampFormat) level msg err
    (recordData logger ginCtx requestTimeNano extra)).1

section Records

variable (env : LogEnv Ctx Buf) {logger : Logger Ctx} (ginCtx : GinContext Ctx)
  (requestTimeNano : Duration)

/-- The request's logger writes one record for each call at a level of at least `Info`. -/
theorem log_requestLogger (hl : logger.WellFormed) (hhooks : logger.hooks = [])
    (hlevel : logger.level ≤ levelPriority info) {level : String}
    (hinfo : levelPriority info ≤ levelPriority level) (msg : String) {args : List Value}
    (hargs : args ≠ []) (err : Option String) (extra : Fields) :
    (((logger.withChannel "http").withContext (some ginCtx.ctx)).withFields
        (requestFields ginCtx requestTimeNano)).log env level msg args err extra =
      [requestRecord env logger ginCtx requestTimeNano level (env.sprintf msg args) err extra] := by
  have hd : ((logger.withChannel "http").withContext (some ginCtx.ctx)).withFields
      (requestFields ginCtx requestTimeNano) = { logger with data :=
        ⟨"http", some ginCtx.ctx,
          mergeMapStringInterface logger.data.contextFields (logger.ctxResolver.flatMap fun r => r ginCtx.ctx),
          mergeMapStringInterface logger.data.fields (requestFields ginCtx requestTimeNano),
          logger.data.tags⟩ } := by
    refine (Logger.deriveAll_eq hl [.withChannel "http", .withContext (some ginCtx.ctx),
      .withFields (requestFields ginCtx requestTimeNano)]).trans ?_
    simp only [contextInputs, fieldsInputs, List.append_nil]
    rfl
  have hhooks' : (((logger.withChannel "http").withContext (some ginCtx.ctx)).withFields
      (requestFields ginCtx requestTimeNano)).hooks = [] := hhooks
  rw [Logger.log_of_hooks_nil env hhooks', hd]
  dsimp only
  rw [if_neg (not_lt.2 (hlevel.trans hinfo)), if_pos (List.length_pos.2 hargs),
    mergeMapStringInterface_mergeMapStringInterface]
  rfl

end Records

/-- Through a well-formed logger without hooks at a level of at most `Info`, such as a new one,
the middleware writes one `Info` record for a request whose handlers reported no error, and
otherwise one record for each error, in order: a `Warn` record for a bind or a render error, an
`Error` record with the stack trace for any other. Each record has the channel `http`, the
request's context, and the request's fields, the raw path among them, merged into the logger's
fields. -/
theorem loggingMiddleware_records (env : LogEnv Ctx Buf) {logger : Logger Ctx}
    (hl : logger.WellFormed) (hhooks : logger.hooks = []) (hlevel : logger.level ≤ levelPriority info)
    (ginCtx : GinContext Ctx) (requestTimeNano : Duration) :
    loggingMiddleware env logger ginCtx requestTimeNano =
      if ginCtx.errors = [] then
        [requestRecord env logger ginCtx requestTimeNano info
          (env.sprintf "%s %s %s" (requestArgs ginCtx)) none []]
      else ginCtx.errors.map fun e =>
        match e.type with
        | .bind => requestRecord env logger ginCtx requestTimeNano warn
            (env.sprintf "%s %s %s - bind error - %v" (requestArgs ginCtx ++ [.error e.err])) none []
        | .render => requestRecord env logger ginCtx requestTimeNano warn
            (env.sprintf "%s %s %s - render error - %v" (requestArgs ginCtx ++ [.error e.err])) none []
        | .other => requestRecord env logger ginCtx requestTimeNano Mon.error
            (env.sprintf "%s %s %s" (requestArgs ginCtx)) (some e.err)
            [("stacktrace", .string env.stackTrace)] := by
  have hargs : requestArgs ginCtx ≠ [] := List.cons_ne_nil _ _
  have hargs' (e : GinError) : requestArgs ginCtx ++ [.error e.err] ≠ [] :=
    List.append_ne_nil_of_left_ne_nil hargs _
  rw [loggingMiddleware]
  simp only [List.length_eq_zero]
  split_ifs
  · exact log_requestLogger env ginCtx requestTimeNano hl hhooks hlevel le_rfl _ hargs none []
  · rw [List.map_eq_flatMap]
    refine congrArg _ (funext fun e => ?_)
    cases e.type with
    | bind | render =>
      exact log_requestLogger env ginCtx requestTimeNano hl hhooks hlevel (by decide) _ (hargs' e) none []
    | other =>
      exact log_requestLogger env ginCtx requestTimeNano hl hhooks hlevel (by decide) _ hargs (some e.err) _

theorem loggingMiddleware_records_two_errors :
    loggingMiddleware
        ⟨fun _ _ level _ _ data => ((level, data.fields.lookup "request_path_raw"), none),
          fun msg _ => msg, fun _ => "", ""⟩
        (newLoggerWithInterfaces : Logger Unit)
        ⟨⟨"/users/7".data, [⟨"id".data, "7".data⟩]⟩, (), "api", "HTTP/1.1", "GET", "", "https", "",
          [], 0, "", 400, [⟨.bind, "bad body"⟩, ⟨.other, "db down"⟩]⟩ 0 =
      [("warn", some (.string "/users/:id")), ("error", some (.string "/users/:id"))] :=
  (loggingMiddleware_records _ Logger.wellFormed_newLoggerWithInterfaces rfl le_rfl _ _).trans rfl

end Gosoline.Apiserver
