import RecordTypes.Signature
import RecordTypes.Fault

/-!
# The memo of types

A memo holds one type per signature, stored under the signature's key.  `Memo.resolve` hands out the
stored type or has it built; a build that fails stores nothing, so the next request builds again.
While a build runs, its key is marked.  A memo counts how often it answered from store, built, and
failed to build.
-/

namespace RecordTypes

/-- A stored type with the signature it was built for. -/
structure MemoEntry where
  key : String
  signature : Signature
  type : TypeId
  deriving DecidableEq

/-- What a memo knows of a signature. -/
inductive MemoState where
  | absent
  | building
  | present
  deriving DecidableEq

/-- The types built so far, the newest first. -/
structure Memo where
  entries : List MemoEntry := []
  /-- Keys under which a build runs. -/
  building : List String := []
  /-- Requests answered from store. -/
  hits : Nat := 0
  /-- Builds that succeeded. -/
  misses : Nat := 0
  /-- Builds that failed. -/
  failures : Nat := 0
  deriving DecidableEq

namespace Memo

/-- The entry stored under the key of a signature. -/
def entry? (m : Memo) (s : Signature) : Option MemoEntry := m.entries.find? (·.key = s.key)

/-- The type stored for a signature; an entry of another signature under the same key is a fault. -/
def peek (m : Memo) (s : Signature) : Except Fault (Option TypeId) :=
  match m.entry? s with
  | none => .ok none
  | some e => if e.signature = s then .ok (some e.type) else .error (.keyCollision s.key)

/-- The type stored for a signature. -/
def get? (m : Memo) (s : Signature) : Option TypeId :=
  ((m.entry? s).filter (·.signature = s)).map (·.type)

/-- What the memo knows of a signature. -/
def state (m : Memo) (s : Signature) : MemoState :=
  if (m.entry? s).isSome then .present
  else if m.building.contains s.key then .building
  else .absent

/-- The number of types stored. -/
def length (m : Memo) : Nat := m.entries.length

/-- The types stored. -/
def types (m : Memo) : List TypeId := m.entries.map (·.type)

/-- The memo while a build for a signature runs. -/
def mark (m : Memo) (s : Signature) : Memo := { m with building := s.key :: m.building }

/-- Counts a request answered from store. -/
def hit (m : Memo) : Memo := { m with hits := m.hits + 1 }

/-- Counts a build that failed. -/
def fail (m : Memo) : Memo := { m with failures := m.failures + 1 }

/-- Stores a type that was built. -/
def store (m : Memo) (s : Signature) (t : TypeId) : Memo :=
  { m with entries := ⟨s.key, s, t⟩ :: m.entries, misses := m.misses + 1 }

/-- The type for a signature: the one stored, or else the one that `build` makes.  What is built
with goes through as `state`, and the build sees the memo with the signature marked. -/
def resolve {σ : Type} (m : Memo) (s : Signature) (build : Memo → σ → Except Fault TypeId × σ)
    (state : σ) : Except Fault TypeId × Memo × σ :=
  match m.peek s with
  | .error e => (.error e, m, state)
  | .ok (some t) => (.ok t, m.hit, state)
  | .ok none =>
    match build (m.mark s) state with
    | (.ok t, state') => (.ok t, m.store s t, state')
    | (.error e, state') => (.error e, m.fail, state')

end Memo

end RecordTypes
