import Mathlib.Data.List.Infix

/-!
# The raw request path

`LoggingMiddleware` logs under `request_path_raw` what `getPathRaw` makes of the request: its
path with the value of each route parameter, taken in the order of `ginCtx.Params`, replaced by
`:` and the parameter's key. `strings.Replace(path, value, key, 1)` replaces the first
occurrence of the value, wherever it is, so the result is the route exactly when, at each
parameter's turn, the value occurs nowhere before the place its parameter matched: not in the
text before it, which by then holds the keys already put back, and not overlapping its start.
A value that also occurs earlier, such as an API version segment, puts the key in the wrong place.

Go strings are modelled as lists of characters.
-/

namespace Gosoline.Apiserver

/-- `strings.Replace(s, old, new, 1)`: `s` with the first occurrence of `old` replaced by `new`.
An empty `old` matches at the start; with no occurrence, or with `old = new`, `s` comes back. -/
def replaceFirst (s old new : List Char) : List Char :=
  if old = new then s else
    match old with
    | [] => new ++ s
    | _ :: _ => go s
where
  /-- The scan for the first occurrence of a non-empty `old`. -/
  go : List Char → List Char
    | [] => []
    | c :: cs => if old.isPrefixOf (c :: cs) then new ++ (c :: cs).drop old.length else c :: go cs

/-- A `gin.Param`: a route parameter's key and the value the request gave it. -/
structure Param where
  key : List Char
  value : List Char
  deriving DecidableEq, Repr

/-- The part of `gin.Context` that `getPathRaw` reads: `Request.URL.Path` and `Params`. -/
structure Context where
  path : List Char
  params : List Param
  deriving DecidableEq, Repr

/-- `getPathRaw`. -/
def getPathRaw (ginCtx : Context) : List Char :=
  ginCtx.params.foldl (fun path p => replaceFirst path p.value (':' :: p.key)) ginCtx.path

/-! ## Replacing the first occurrence -/

section ReplaceFirst

variable {old new pre rest : List Char}

end ReplaceFirst

/-! ## Routes -/

/-- A parameter of a matched route: its key, the value the request gave it, and the static text
after it, up to the next parameter or the end. -/
structure Matched where
  key : List Char
  value : List Char
  tail : List Char
  deriving DecidableEq, Repr

/-- The route template: `head`, then `:key` and the tail of each parameter. -/
def route (head : List Char) (ms : List Matched) : List Char :=
  head ++ ms.flatMap fun m => ':' :: m.key ++ m.tail

/-- The request path the route matched: each parameter's value in its place. -/
def requestPath (head : List Char) (ms : List Matched) : List Char :=
  head ++ ms.flatMap fun m => m.value ++ m.tail

/-- The context gin hands the handlers of such a request. -/
def Matched.context (head : List Char) (ms : List Matched) : Context :=
  ⟨requestPath head ms, ms.map fun m => ⟨m.key, m.value⟩⟩

/-- At each parameter's turn, with the parameters before it already put back as `:key`, its value
does not start before its own place. It is then not empty, since the empty list starts
everywhere. -/
def FirstAtOwnPlace : List Char → List Matched → Prop
  | _, [] => True
  | pre, m :: ms => ¬ m.value <:+: (pre ++ m.value).dropLast ∧
      FirstAtOwnPlace (pre ++ ':' :: m.key ++ m.tail) ms

instance instDecidableFirstAtOwnPlace : (pre : List Char) → (ms : List Matched) →
    Decidable (FirstAtOwnPlace pre ms)
  | _, [] => isTrue trivial
  | pre, m :: ms =>
    have := instDecidableFirstAtOwnPlace (pre ++ ':' :: m.key ++ m.tail) ms
    inferInstanceAs (Decidable (_ ∧ _))

end Gosoline.Apiserver
