/-
# FlawQuery.OrderedMap -- a map from names that remembers the order of first insertion

Writing to a name that is already present changes the value where it stands; a new name goes to the
end. Every operation is an instance of `alter`, and `keys_alter` says what it does to the order.
-/

namespace FlawQuery

/-- The entries of an ordered map after the value of `key` has been replaced by `f` of the present
value, if any. -/
def alterEntries {α : Type} (key : String) (f : Option α → α) :
    List (String × α) → List (String × α)
  | [] => [(key, f none)]
  | (k, a) :: rest =>
    if k = key then (k, f (some a)) :: rest else (k, a) :: alterEntries key f rest

theorem map_fst_alterEntries {α : Type} (key : String) (f : Option α → α)
    (entries : List (String × α)) :
    (alterEntries key f entries).map Prod.fst =
      if key ∈ entries.map Prod.fst then entries.map Prod.fst
      else entries.map Prod.fst ++ [key] := by
  induction entries with
  | nil => simp [alterEntries]
  | cons e rest ih =>
    obtain ⟨k, a⟩ := e
    by_cases hk : k = key
    · simp [alterEntries, hk]
    · have hk' : ¬ key = k := fun h => hk h.symm
      simp only [alterEntries, hk, if_false, List.map_cons, ih, List.mem_cons, hk', false_or]
      split <;> simp

/-- A map from names to values, in order of first insertion; no name occurs twice. -/
@[ext]
structure OrderedMap (α : Type) where
  entries : List (String × α) := []
  nodup : (entries.map Prod.fst).Nodup := by simp

namespace OrderedMap

variable {α : Type}

/-- The map without entries. -/
def empty : OrderedMap α := {}

/-- The names, in order of first insertion. -/
def keys (m : OrderedMap α) : List String :=
  m.entries.map Prod.fst

/-- The values, in the order of their names. -/
def values (m : OrderedMap α) : List α :=
  m.entries.map Prod.snd

/-- The value of `key`, if it has one. -/
def get? (m : OrderedMap α) (key : String) : Option α :=
  m.entries.lookup key

/-- Replaces the value of `key` by `f` of the present value, if any. -/
def alter (m : OrderedMap α) (key : String) (f : Option α → α) : OrderedMap α where
  entries := alterEntries key f m.entries
  nodup := by
    rw [map_fst_alterEntries]
    split
    · exact m.nodup
    · rename_i h
      exact List.nodup_append.2 ⟨m.nodup, by simp, by
        intro a ha b hb
        rw [List.mem_singleton.1 hb]
        exact fun hab => h (hab ▸ ha)⟩

/-- Writes `a` to `key`; a present key keeps its position. -/
def insert (m : OrderedMap α) (key : String) (a : α) : OrderedMap α :=
  m.alter key fun _ => a

/-- Writes the entries of `other`, in its order. -/
def insertAll (m other : OrderedMap α) : OrderedMap α :=
  other.entries.foldl (fun m e => m.insert e.1 e.2) m

/-- Adds `items` to the end of the list at `key`, which starts empty. -/
def appendAt (m : OrderedMap (List α)) (key : String) (items : List α) : OrderedMap (List α) :=
  m.alter key fun present => present.getD [] ++ items

/-- Appends every list of `other` to the list of the same key, in the order of `other`. -/
def appendAll (m other : OrderedMap (List α)) : OrderedMap (List α) :=
  other.entries.foldl (fun m e => m.appendAt e.1 e.2) m

/-- Both maps give every name the same value, in whatever order. -/
def sameEntries [BEq α] (m other : OrderedMap α) : Bool :=
  m.entries.length == other.entries.length &&
    m.entries.all fun e => other.get? e.1 == some e.2

/-- A write to a present name keeps the order; a new name goes to the end. -/
theorem keys_alter (m : OrderedMap α) (key : String) (f : Option α → α) :
    (m.alter key f).keys = if key ∈ m.keys then m.keys else m.keys ++ [key] :=
  map_fst_alterEntries key f m.entries

end OrderedMap

end FlawQuery
