/-!
# Named handles

A session keeps the handles it has made under names chosen by its script. A `Registry` is
that table: an association list in which each name occurs at most once, because `put`
replaces an existing entry in place.
-/

namespace Sluice

/-- Handles of type `α` by name. -/
structure Registry (α : Type) where
  -- the entries, each name at most once
  entries : List (String × α) := []
  deriving Inhabited

namespace Registry

variable {α : Type}

def find? (r : Registry α) (name : String) : Option α :=
  List.lookup name r.entries

/-- Replace the entry of a name in a list, or add it at the end. -/
def putEntry (name : String) (a : α) : List (String × α) → List (String × α)
  | [] => [(name, a)]
  | (k, b) :: rest => if k = name then (name, a) :: rest else (k, b) :: putEntry name a rest

/-- Store a handle under a name, replacing any handle of that name. -/
def put (r : Registry α) (name : String) (a : α) : Registry α :=
  { entries := putEntry name a r.entries }

def remove (r : Registry α) (name : String) : Registry α :=
  { entries := r.entries.filter fun e => e.1 != name }

end Registry

end Sluice
