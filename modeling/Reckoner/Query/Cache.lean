/-!
# Remembered queries

What is known about the queries that were evaluated, as a dictionary from keys to states. A key has
one entry at most. An entry is changed in its place, or made for its key, and stays until everything
is forgotten.

`Cache.update` makes any of the changes. What is found afterwards is told by `get?_update_self` and
`get?_update_of_ne`.
-/

namespace Reckoner.Query

/-- What is known about a query. -/
structure State where
  query : String
  /-- The text of the value. -/
  result : String
  /-- The evaluation has begun and not ended. -/
  pending : Bool
  /-- The evaluation has ended without a value. -/
  error : Bool
  deriving DecidableEq, Repr

def State.blank (query : String) : State :=
  ⟨query, "", false, false⟩

inductive Change where
  | pending (flag : Bool)
  | result (text : String)
  | error (flag : Bool)
  deriving DecidableEq, Repr

/-- A result and an error end the evaluation. An error keeps the text that was there before. -/
def Change.apply : Change → State → State
  | pending flag, s => { s with pending := flag }
  | result text, s => { s with result := text, pending := false, error := false }
  | error flag, s => { s with error := flag, pending := false }

/-! ## Entries -/

def keys (entries : List (String × State)) : List String :=
  entries.map Prod.fst

/-- Stores a state over the one of the same key, or at the end. -/
def putEntry (key : String) (s : State) : List (String × State) → List (String × State)
  | [] => [(key, s)]
  | (other, t) :: entries =>
    if other = key then (key, s) :: entries else (other, t) :: putEntry key s entries

theorem keys_putEntry (key : String) (s : State) (entries : List (String × State)) :
    keys (putEntry key s entries) =
      if key ∈ keys entries then keys entries else keys entries ++ [key] := by
  induction entries with
  | nil => rfl
  | cons entry entries ih =>
    obtain ⟨other, t⟩ := entry
    by_cases same : other = key
    · simp [putEntry, keys, same]
    · have different : ¬key = other := Ne.symm same
      simp only [putEntry, same, if_false, keys, List.map_cons, List.mem_cons, different,
        false_or] at ih ⊢
      rw [ih]
      by_cases known : key ∈ entries.map Prod.fst <;> simp [known]

theorem nodup_putEntry {key : String} {s : State} {entries : List (String × State)}
    (distinct : (keys entries).Nodup) : (keys (putEntry key s entries)).Nodup := by
  rw [keys_putEntry]
  split
  · exact distinct
  · rename_i new
    refine List.nodup_append.2 ⟨distinct, by simp, ?_⟩
    rintro other known _ single rfl
    exact new (List.mem_singleton.1 single ▸ known)

theorem lookup_putEntry_self (key : String) (s : State) (entries : List (String × State)) :
    (putEntry key s entries).lookup key = some s := by
  induction entries with
  | nil => simp [putEntry]
  | cons entry entries ih =>
    obtain ⟨other, t⟩ := entry
    by_cases same : other = key
    · simp [putEntry, same]
    · have different : (key == other) = false := beq_false_of_ne (Ne.symm same)
      simp [putEntry, same, List.lookup_cons, different, ih]

theorem lookup_putEntry_of_ne {key other : String} (different : other ≠ key) (s : State)
    (entries : List (String × State)) :
    (putEntry key s entries).lookup other = entries.lookup other := by
  have unlike : (other == key) = false := beq_false_of_ne different
  induction entries with
  | nil => simp [putEntry, List.lookup_cons, unlike]
  | cons entry entries ih =>
    obtain ⟨first, t⟩ := entry
    by_cases same : first = key
    · simp [putEntry, same, List.lookup_cons, unlike]
    · simp [putEntry, same, List.lookup_cons, ih]

/-! ## Caches -/

structure Cache where
  entries : List (String × State)
  distinct : (keys entries).Nodup

namespace Cache

def empty : Cache :=
  ⟨[], List.nodup_nil⟩

def size (c : Cache) : Nat :=
  c.entries.length

def get? (c : Cache) (key : String) : Option State :=
  c.entries.lookup key

def getResult (c : Cache) (query : String) : String :=
  (c.get? query).elim "" State.result

def isPending (c : Cache) (query : String) : Bool :=
  (c.get? query).elim false State.pending

def hasError (c : Cache) (query : String) : Bool :=
  (c.get? query).elim false State.error

/-- The entry of a key with a change, or a blank entry with it. -/
def changed (c : Cache) (key : String) (change : Change) : State :=
  change.apply ((c.get? key).getD (.blank key))

def update (c : Cache) (key : String) (change : Change) : Cache :=
  ⟨putEntry key (c.changed key change) c.entries, nodup_putEntry c.distinct⟩

/-! ## Laws -/

variable {c : Cache} {key other : String} {change : Change}

@[simp] theorem get?_empty (key : String) : empty.get? key = none := rfl

@[simp] theorem get?_update_self :
    (c.update key change).get? key = some (c.changed key change) :=
  lookup_putEntry_self ..

theorem get?_update_of_ne (different : other ≠ key) :
    (c.update key change).get? other = c.get? other :=
  lookup_putEntry_of_ne different ..

theorem mem_keys_iff : key ∈ keys c.entries ↔ (c.get? key).isSome := by
  simp [keys, get?, List.lookup_isSome_iff]

/-- Nothing is left of the mark of a pending query after any other change. -/
theorem changed_of_marked (settles : ∀ flag, change ≠ .pending flag) :
    (c.update key (.pending true)).changed key change = c.changed key change := by
  unfold changed
  rw [get?_update_self]
  cases change with
  | pending flag => exact absurd rfl (settles flag)
  | result text => rfl
  | error flag => rfl

end Cache

end Reckoner.Query
