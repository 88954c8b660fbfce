import Gosoline.Mon.LogFields

/-!
# The logger

A `logger` holds a level, a format, hooks, context resolvers and the metadata of its records:
a channel, a context, context fields, fields and tags. `WithChannel`, `WithContext` and
`WithFields` derive a new logger from a copy of the old one. `Info`, `Debug`, `Warn` and `Error`
write a record through `log` when its level is not below the logger's. The record's fields are
the logger's fields with the call's merged in, and each hook may change the record or fail.

The formatters, `fmt.Sprintf`, the clock, `GetStackTrace`, the hooks, the context resolvers and
the logger options are declared outside the sources we have: the model takes them as
parameters. A formatted record is a buffer of the type `Buf`. A call returns the buffers it
writes to the output, in order. The clock gives one reading, as a fake clock does. Go's
pointers to loggers are values here: `copy` is the identity, and a derived logger never changes
the one it came from.
-/

namespace Gosoline.Mon

/-- `Trace`. -/
def trace : String := "trace"

/-- `Debug`. -/
def debug : String := "debug"

/-- `Info`. -/
def info : String := "info"

/-- `Warn`. -/
def warn : String := "warn"

/-- `Error`. -/
def error : String := "error"

/-- `levels`. -/
def levels : List (String × ℤ) := [(trace, 0), (debug, 1), (info, 2), (warn, 3), (error, 4)]

/-- `levelPriority`, which is also `levels[level]` in `log`: a level missing from the map reads
as zero. -/
def levelPriority (level : String) : ℤ := (levels.lookup level).getD 0

/-- `ChannelDefault`. -/
def channelDefault : String := "default"

/-- `FormatConsole`. -/
def formatConsole : String := "console"

/-- `Metadata`; a `context.Context` is a value of the type `Ctx`, and `Tags` are given by their
entries as `Fields` are. -/
structure Metadata (Ctx : Type) where
  channel : String
  context : Option Ctx
  contextFields : Fields
  fields : Fields
  tags : Fields

/-- A `formatter`: from the timestamp, the level, the message, the error's text and the
metadata, the buffer it returns and its error. -/
abbrev Formatter (Ctx Buf : Type) :=
  String → String → String → Option String → Metadata Ctx → Buf × Option String

/-- A `LoggerHook`: `Fire` gets the level, the message, the error's text and the record's
metadata, which it may change through its pointer, and it may fail. -/
structure LoggerHook (Ctx : Type) where
  fire : String → String → Option String → Metadata Ctx → Metadata Ctx × Option String

/-- `logger`, without its clock, output and output lock. -/
structure Logger (Ctx : Type) where
  ctxResolver : List (Ctx → Fields)
  hooks : List (LoggerHook Ctx)
  level : ℤ
  format : String
  timestampFormat : String
  data : Metadata Ctx

/-- What `log` takes from outside the sources we have: `formatters[format]`, `fmt.Sprintf`, the
clock's time in a layout, and `GetStackTrace(1)`. -/
structure LogEnv (Ctx Buf : Type) where
  formatters : String → Formatter Ctx Buf
  sprintf : String → List Value → String
  timestamp : String → String
  stackTrace : String

variable {Ctx Buf : Type}

/-- `NewLoggerWithInterfaces`, and `NewLogger`, which gives it the real clock and standard
output. -/
def newLoggerWithInterfaces : Logger Ctx :=
  ⟨[], [], levelPriority info, formatConsole, "15:04:05.000", ⟨channelDefault, none, [], [], []⟩⟩

namespace Logger

/-- A `LoggerOption`: it changes the logger it is given, and may fail. -/
abbrev LoggerOption (Ctx : Type) := Logger Ctx → Logger Ctx × Option String

/-- `Option`: the options in order, up to the first that fails, whose error is returned with the
logger as the options before it and the failed one left it. -/
def option (l : Logger Ctx) : List (LoggerOption Ctx) → Logger Ctx × Option String
  | [] => (l, none)
  | opt :: options =>
    match opt l with
    | (l', some err) => (l', some err)
    | (l', none) => option l' options

/-- `WithChannel`. -/
def withChannel (l : Logger Ctx) (channel : String) : Logger Ctx :=
  { l with data := { l.data with channel := channel } }

/-- `WithContext`: a nil context gives the logger itself; otherwise the copy takes the context,
and the fields each resolver finds in it are merged into its context fields, resolver by
resolver. -/
def withContext (l : Logger Ctx) : Option Ctx → Logger Ctx
  | none => l
  | some ctx =>
    { l with data := { l.data with
        context := some ctx
        contextFields := l.ctxResolver.foldl
          (fun contextFields r => mergeMapStringInterface contextFields (r ctx)) l.data.contextFields } }

/-- `WithFields`. -/
def withFields (l : Logger Ctx) (fields : Fields) : Logger Ctx :=
  { l with data := { l.data with fields := mergeMapStringInterface l.data.fields fields } }

section Log

variable (env : LogEnv Ctx Buf)

/-- `err`: the record of a hook's error, at level `Error`, from the logger's own metadata. -/
def err (l : Logger Ctx) (err : String) : Buf :=
  (env.formatters l.format (env.timestamp l.timestampFormat) error err (some err) l.data).1

/-- The loop over the hooks in `log`: each fires on the metadata the ones before it left, and the
error of each that fails is written by `err` at once. -/
def fireHooks (l : Logger Ctx) (level msg : String) (logErr : Option String) :
    List (LoggerHook Ctx) → Metadata Ctx → List Buf × Metadata Ctx
  | [], data => ([], data)
  | h :: hooks, data =>
    let (data, hookErr) := h.fire level msg logErr data
    let (written, data) := l.fireHooks level msg logErr hooks data
    (hookErr.toList.map (l.err env) ++ written, data)

/-- `log`: nothing when the level is below the logger's; otherwise the hooks fire on a copy of
the metadata whose fields have the call's merged in, and the record is formatted from what they
leave. -/
def log (l : Logger Ctx) (level msg : String) (args : List Value) (logErr : Option String)
    (fields : Fields) : List Buf :=
  if levelPriority level < l.level then [] else
  let cpyData := { l.data with fields := mergeMapStringInterface l.data.fields fields }
  let msg := if args.length > 0 then env.sprintf msg args else msg
  let (written, cpyData) := l.fireHooks env level msg logErr l.hooks cpyData
  written ++ [(env.formatters l.format (env.timestamp l.timestampFormat) level msg logErr cpyData).1]

/-- `Info`. -/
def info (l : Logger Ctx) (msg : String) (args : List Value) : List Buf :=
  l.log env Mon.info msg args none []

/-- `Debug`, which returns early when the logger's level is above `Debug`. -/
def debug (l : Logger Ctx) (msg : String) (args : List Value) : List Buf :=
  if l.level > levelPriority Mon.debug then [] else l.log env Mon.debug msg args none []

/-- `Warn`. -/
def warn (l : Logger Ctx) (msg : String) (args : List Value) : List Buf :=
  l.log env Mon.warn msg args none []

/-- `logError`: the record carries the stack trace under `stacktrace`. -/
def logError (l : Logger Ctx) (level : String) (err : Option String) (msg : String)
    (args : List Value) : List Buf :=
  l.log env level msg args err [("stacktrace", .string env.stackTrace)]

/-- `Error`. -/
def error (l : Logger Ctx) (err : Option String) (msg : String) (args : List Value) : List Buf :=
  l.logError env Mon.error err msg args

end Log

end Logger

/-! ## Derived loggers -/

/-- A call that derives a logger from another: `WithChannel`, `WithContext` or `WithFields`. -/
inductive Derivation (Ctx : Type) where
  | withChannel (channel : String)
  | withContext (ctx : Option Ctx)
  | withFields (fields : Fields)

/-- The channel after the derivations: the last one set, or `channel`. -/
def channelAfter (channel : String) : List (Derivation Ctx) → String
  | [] => channel
  | .withChannel channel :: ds => channelAfter channel ds
  | _ :: ds => channelAfter channel ds

/-- The context after the derivations: the last one that is not nil, or `ctx`. -/
def contextAfter (ctx : Option Ctx) : List (Derivation Ctx) → Option Ctx
  | [] => ctx
  | .withContext (some ctx) :: ds => contextAfter (some ctx) ds
  | _ :: ds => contextAfter ctx ds

/-- The maps the derivations merge into the fields, in order. -/
def fieldsInputs : List (Derivation Ctx) → Fields
  | [] => []
  | .withFields fields :: ds => fields ++ fieldsInputs ds
  | _ :: ds => fieldsInputs ds

/-- The maps the resolvers find in the contexts that are not nil, in order. -/
def contextInputs (resolvers : List (Ctx → Fields)) : List (Derivation Ctx) → Fields
  | [] => []
  | .withContext (some ctx) :: ds => resolvers.flatMap (fun r => r ctx) ++ contextInputs resolvers ds
  | _ :: ds => contextInputs resolvers ds

namespace Logger

/-- One derivation. -/
def derive (l : Logger Ctx) : Derivation Ctx → Logger Ctx
  | .withChannel channel => l.withChannel channel
  | .withContext ctx => l.withContext ctx
  | .withFields fields => l.withFields fields

/-- A chain of derivations, each applied to the logger the one before returned. -/
def deriveAll (l : Logger Ctx) (ds : List (Derivation Ctx)) : Logger Ctx := ds.foldl derive l

/-- The context fields and the fields are maps as `mergeMapStringInterface` leaves them. -/
structure WellFormed (l : Logger Ctx) : Prop where
  contextFields : MergedMap l.data.contextFields
  fields : MergedMap l.data.fields

theorem wellFormed_newLoggerWithInterfaces : (newLoggerWithInterfaces : Logger Ctx).WellFormed :=
  ⟨⟨List.nodup_nil, trivial⟩, ⟨List.nodup_nil, trivial⟩⟩

variable {l : Logger Ctx}

/-- The resolvers' loop in `WithContext` merges all they find at once. -/
theorem withContext_contextFields (hl : l.WellFormed) (ctx : Ctx) :
    (l.withContext (some ctx)).data.contextFields =
      mergeMapStringInterface l.data.contextFields (l.ctxResolver.flatMap fun r => r ctx) := by
  show l.ctxResolver.foldl _ _ = _
  rw [← List.foldl_map, foldl_mergeMapStringInterface hl.contextFields]
  rfl

/-- Every derivation keeps a logger well formed. -/
theorem WellFormed.derive (hl : l.WellFormed) : ∀ d : Derivation Ctx, (l.derive d).WellFormed
  | .withChannel _ | .withContext none => ⟨hl.contextFields, hl.fields⟩
  | .withContext (some ctx) =>
    ⟨by rw [Logger.derive, withContext_contextFields hl]; exact mergedMap_mergeMapStringInterface _ _,
      hl.fields⟩
  | .withFields fields => ⟨hl.contextFields, mergedMap_mergeMapStringInterface _ _⟩

theorem WellFormed.deriveAll (hl : l.WellFormed) (ds : List (Derivation Ctx)) :
    (l.deriveAll ds).WellFormed := by
  induction ds generalizing l with
  | nil => exact hl
  | cons d ds ih => exact ih (hl.derive d)

/-- A chain of derivations from a well-formed logger builds the logger that sets, at once, the
last channel and the last context that is not nil, and merges into the context fields and the
fields all that the chain merges, in order. -/
theorem deriveAll_eq (hl : l.WellFormed) (ds : List (Derivation Ctx)) :
    l.deriveAll ds = { l with data :=
      ⟨channelAfter l.data.channel ds, contextAfter l.data.context ds,
        mergeMapStringInterface l.data.contextFields (contextInputs l.ctxResolver ds),
        mergeMapStringInterface l.data.fields (fieldsInputs ds), l.data.tags⟩ } := by
  induction ds generalizing l with
  | nil =>
    rw [contextInputs, fieldsInputs, mergeMapStringInterface_nil_of_mergedMap hl.contextFields,
      mergeMapStringInterface_nil_of_mergedMap hl.fields]
    rfl
  | cons d ds ih =>
    refine (ih (hl.derive d)).trans ?_
    cases d with
    | withChannel channel => rfl
    | withContext ctx =>
      cases ctx with
      | none => rfl
      | some ctx =>
        rw [derive, withContext_contextFields hl, mergeMapStringInterface_mergeMapStringInterface]
        rfl
    | withFields fields =>
      show { l with data := { l.data with
        channel := _, context := _, contextFields := _,
        fields := mergeMapStringInterface (mergeMapStringInterface l.data.fields fields) _ } } = _
      rw [mergeMapStringInterface_mergeMapStringInterface]
      rfl

/-- Any chain of `WithChannel`, `WithContext` and `WithFields` calls from a well-formed logger,
such as a new one, leaves it well formed and builds the logger made at once: level, format,
hooks, resolvers and tags stay, the channel is the last one set, the context is the last one
that is not nil, and the context fields and fields have merged into them, in order, all that
the resolvers found in those contexts and all the maps given to `WithFields`. -/
theorem deriveAll_builds_at_once (hl : l.WellFormed) (ds : List (Derivation Ctx)) :
    (l.deriveAll ds).WellFormed ∧ l.deriveAll ds = { l with data :=
      ⟨channelAfter l.data.channel ds, contextAfter l.data.context ds,
        mergeMapStringInterface l.data.contextFields (contextInputs l.ctxResolver ds),
        mergeMapStringInterface l.data.fields (fieldsInputs ds), l.data.tags⟩ } :=
  ⟨hl.deriveAll ds, deriveAll_eq hl ds⟩

theorem deriveAll_builds_at_once_new :
    (newLoggerWithInterfaces : Logger Unit).deriveAll
        [.withFields [("a", .string "1")], .withChannel "http", .withContext (some ()),
          .withFields [("a", .error "e"), ("b", .ptr none)]] =
      { newLoggerWithInterfaces with data :=
        ⟨"http", some (), [], [("a", .string "e"), ("b", .nil)], []⟩ } :=
  (deriveAll_builds_at_once wellFormed_newLoggerWithInterfaces _).2

section Log

variable (env : LogEnv Ctx Buf)

/-- `Debug`'s early return is `log`'s own filter at level `Debug`. -/
theorem debug_eq_log (msg : String) (args : List Value) :
    l.debug env msg args = l.log env Mon.debug msg args none [] := by
  rw [debug]
  split_ifs with h
  · rw [log, if_pos h]
  · rfl

/-- `log` on a logger without hooks: nothing below its level, and otherwise the one record,
from its metadata with the call's fields merged in. -/
theorem log_of_hooks_nil (hhooks : l.hooks = []) (level msg : String) (args : List Value)
    (logErr : Option String) (fields : Fields) :
    l.log env level msg args logErr fields =
      if levelPriority level < l.level then [] else
        [(env.formatters l.format (env.timestamp l.timestampFormat) level
          (if args.length > 0 then env.sprintf msg args else msg) logErr
          ⟨l.data.channel, l.data.context, l.data.contextFields,
            mergeMapStringInterface l.data.fields fields, l.data.tags⟩).1] := by
  simp only [log, hhooks, fireHooks, List.nil_append]

/-- A logger derived from a well-formed logger without hooks, such as a new one, writes nothing
for a call whose level is below its own, and otherwise exactly one record: formatted in its
format, at the level and with the message of the call, from the channel and context the
derivations set last and from the maps they merged, the call's fields merged last. -/
theorem log_deriveAll (hl : l.WellFormed) (hhooks : l.hooks = []) (ds : List (Derivation Ctx))
    (level msg : String) (args : List Value) (logErr : Option String) (fields : Fields) :
    (l.deriveAll ds).log env level msg args logErr fields =
      if levelPriority level < l.level then [] else
        [(env.formatters l.format (env.timestamp l.timestampFormat) level
          (if args.length > 0 then env.sprintf msg args else msg) logErr
          ⟨channelAfter l.data.channel ds, contextAfter l.data.context ds,
            mergeMapStringInterface l.data.contextFields (contextInputs l.ctxResolver ds),
            mergeMapStringInterface l.data.fields (fieldsInputs ds ++ fields), l.data.tags⟩).1] := by
  have hhooks' : (l.deriveAll ds).hooks = [] := by rw [deriveAll_eq hl ds]; exact hhooks
  rw [log_of_hooks_nil env hhooks', deriveAll_eq hl ds]
  simp only [mergeMapStringInterface_mergeMapStringInterface]

end Log

theorem log_deriveAll_error_new :
    ((newLoggerWithInterfaces : Logger Unit).deriveAll
        [.withFields [("stacktrace", .string "none"), ("user", .struct [("Id", true, .scalar "7")])]]).error
        ⟨fun _ _ _ _ _ data => (data.fields, none), fun msg _ => msg, fun _ => "", "trace"⟩
        (some "failed") "request" [] =
      [[("stacktrace", .string "trace"), ("user", .stringMap [("Id", .scalar "7")])]] :=
  (log_deriveAll ⟨fun _ _ _ _ _ data => (data.fields, none), fun msg _ => msg, fun _ => "", "trace"⟩
    wellFormed_newLoggerWithInterfaces rfl
    [.withFields [("stacktrace", .string "none"), ("user", .struct [("Id", true, .scalar "7")])]]
    Mon.error "request" [] (some "failed") [("stacktrace", .string "trace")]).trans rfl

end Logger

end Gosoline.Mon
