import Reckoner.Settings

/-!
# The cache (results by recency)

The cache holds the results of sources, the least recently used first. A source that is
found again moves to the back; when one too many is stored, the one in front goes.
-/

namespace Reckoner

/-- Results of sources, the least recently used first. -/
structure Cache where
  entries : List (Text × Float)
  deriving DecidableEq, Repr

namespace Cache

/-- The cache without results. -/
def empty : Cache := ⟨[]⟩

/-- How many results there are. -/
def size (c : Cache) : Nat := c.entries.length

/-- The sources that have results. -/
def keys (c : Cache) : List Text := c.entries.map (·.1)

/-- The result of a source. -/
def get? (c : Cache) (source : Text) : Option Float := c.entries.lookup source

/-- The cache without the result of a source. -/
def erase (c : Cache) (source : Text) : Cache :=
  ⟨c.entries.filter (·.1 != source)⟩

/-- Make a result the most recently used one. -/
def insert (c : Cache) (source : Text) (result : Float) : Cache :=
  ⟨(c.erase source).entries ++ [(source, result)]⟩

/-- Drop the least recently used result. -/
def dropOldest (c : Cache) : Cache := ⟨c.entries.tail⟩

/-- The source that gives way if the cache holds more than the limit allows. -/
def overflow? (c : Cache) (limit : Limit) : Option Text :=
  match limit with
  | .entries n => if n < c.size then c.keys.head? else none
  | _ => none

end Cache

end Reckoner
