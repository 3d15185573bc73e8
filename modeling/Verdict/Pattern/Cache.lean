/-!
# Caches of compiled patterns

Callers that look for the same patterns again and again share what compiling them gave.  A lookup
has two sections that no other caller can interrupt: the look into the cache and, if it finds
nothing, putting in what compiling the pattern gave.  `Shared.run` lets the sections of several
callers follow each other in any order.
-/

namespace Verdict.Pattern

structure Cache (α : Type) where
  entries : List (String × Option α)

namespace Cache

variable {α : Type}

def capacity : Nat := 512

def empty : Cache α := ⟨[]⟩

def get? (cache : Cache α) (pattern : String) : Option (Option α) :=
  cache.entries.lookup pattern

/-- Puts a result in, in place of one for the same pattern.  A full cache is emptied before. -/
def insert (cache : Cache α) (pattern : String) (result : Option α) : Cache α :=
  let kept := if capacity ≤ cache.entries.length then [] else cache.entries
  ⟨(pattern, result) :: kept.filter fun entry => entry.1 ≠ pattern⟩

/-- How far a caller has come with its lookup. -/
inductive Lookup (α : Type) where
  | asked (pattern : String)
  /-- The cache had nothing, and this is what compiling gave. -/
  | missed (pattern : String) (result : Option α)
  | answered (pattern : String) (result : Option α)

/-- The next section of a lookup. -/
def advance (compile : String → Option α) (cache : Cache α) : Lookup α → Cache α × Lookup α
  | .asked pattern =>
    match cache.get? pattern with
    | some result => (cache, .answered pattern result)
    | none => (cache, .missed pattern (compile pattern))
  | .missed pattern result => (cache.insert pattern result, .answered pattern result)
  | .answered pattern result => (cache, .answered pattern result)

structure Shared (α : Type) where
  cache : Cache α
  callers : List (Lookup α)

/-- The next section of the caller at an index. -/
def Shared.step (compile : String → Option α) (shared : Shared α) (index : Nat) : Shared α :=
  match shared.callers[index]? with
  | some lookup =>
    let (cache, lookup) := shared.cache.advance compile lookup
    ⟨cache, shared.callers.set index lookup⟩
  | none => shared

def Shared.run (compile : String → Option α) (shared : Shared α) (indices : List Nat) : Shared α :=
  indices.foldl (step compile) shared

end Cache
end Verdict.Pattern
