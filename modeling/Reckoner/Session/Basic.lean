import Reckoner.Expr.Evaluator
import Reckoner.Parser.Grammar
import Reckoner.Session.Cache

/-!
# Sessions (evaluating many sources with one parser)

A session evaluates one source after another. It uses one parser for all of them and
keeps results, so that a source evaluated before need not be evaluated again. Neither
shows in any result: parsing starts afresh each time, and only results are kept, never
faults. What does show is in the counters and the log.
-/

namespace Reckoner

/-- The value of a tree: that of its root, or the given one if it is empty. -/
def Tree.evaluate (emptyResult : Except Fault Float) : Tree → Except Fault Float
  | none => emptyResult
  | some root => root.evaluate

/-- An evaluator and what it remembers. -/
structure Session where
  parser : Parser
  /-- How many results are kept. -/
  limit : Limit
  /-- The value of an empty expression, if the settings have one. -/
  emptyResult : Except Fault Float
  cache : Cache
  /-- How often a result was found in the cache. -/
  hits : Nat
  /-- How often none was. -/
  misses : Nat

namespace Session

/-- A session that has not been used. -/
def new (strict : Bool) (limit : Limit) (emptyResult : Except Fault Float) : Session :=
  ⟨.new strict, limit, emptyResult, .empty, 0, 0⟩

/-- A new session with the given settings, in which strictness and the size of the cache
may be asked for. -/
def ofSettings (settings : Settings) (strict : Option Bool) (size : Option Int) : Session :=
  .new (settings.strict strict)
    (match size with
      | some n => .ofInt n
      | none => .ofSetting settings.cacheSize)
    settings.emptyResult.toFloat

/-- Look for a kept result, and count whether there is one. -/
def lookUp (source : Text) : Action Session (Option Float) := .of fun s =>
  match s.cache.get? source with
  | some x =>
    ⟨.ok (some x), { s with cache := s.cache.insert source x, hits := s.hits + 1 }, []⟩
  | none => ⟨.ok none, { s with misses := s.misses + 1 }, []⟩

/-- Keep a result, as far as the limit allows. -/
def remember (source : Text) (result : Float) : Action Session Unit := .of fun s =>
  match s.limit with
  | .unusable kind => ⟨.error (.unordered "<=" kind .integer), s, []⟩
  | .off => ⟨.ok (), s, []⟩
  | limit =>
    let cache := s.cache.insert source result
    match cache.overflow? limit with
    | some evicted => ⟨.ok (), { s with cache := cache.dropOldest }, [.evicted evicted]⟩
    | none => ⟨.ok (), { s with cache }, []⟩

/-- Drop all results and start the counters again. -/
def clear : Action Session Unit := .of fun s =>
  ⟨.ok (), { s with cache := .empty, hits := 0, misses := 0 },
    [.dropped s.cache.size s.hits s.misses]⟩

/-- Parse a source. -/
def parse (source : Text) : Action Session Tree :=
  .within (·.parser) (fun s parser => { s with parser }) (Parser.parse source)

/-- The value of a tree; the empty tree has the value that the session has for it. -/
def appraise (tree : Tree) : Action Session Float := do
  let result ← .lift (tree.evaluate (← Action.state).emptyResult)
  if tree.isSome then Action.report (.evaluated result)
  return result

/-- Evaluate a source, or find its result kept. -/
def evaluate (source : Text) : Action Session Float := do
  match ← lookUp source with
  | some result => return result
  | none => do
    let result ← appraise (← parse source)
    remember source result
    return result

end Session

end Reckoner
