/-
# FlawQuery.Proofs.MapLaws -- what a run of writes leaves in an ordered map

Every write is an `alter`. Two laws carry all others: two writes to one name are a single write, and
a write to a name that is already present may be moved past a write to another name. From these,
writing the entries of a second map into a first one commutes with each further write to the second
map (`alterAll_alter`), so that a map merged from many small ones is read off as one run of writes:
its names are the written names in order of first encounter, and the value of a name depends on the
writes to that name alone. It also makes both ways of writing one map to another associative, with the
empty map as unit.
-/

import FlawQuery.OrderedMap
import Mathlib.Data.List.Basic

namespace FlawQuery

variable {α β : Type}

/-! ## Writes to a list of entries -/

theorem alterEntries_alterEntries (key : String) (f g : Option α → α)
    (entries : List (String × α)) :
    alterEntries key f (alterEntries key g entries) =
      alterEntries key (fun present => f (some (g present))) entries := by
  induction entries with
  | nil => simp [alterEntries]
  | cons e rest ih =>
      obtain ⟨k, a⟩ := e
      by_cases hk : k = key
      · simp [alterEntries, hk]
      · simp [alterEntries, hk, ih]

/-- A write to a new name goes to the end. -/
theorem alterEntries_of_not_mem {key : String} {entries : List (String × α)}
    (h : key ∉ entries.map Prod.fst) (f : Option α → α) :
    alterEntries key f entries = entries ++ [(key, f none)] := by
  induction entries with
  | nil => rfl
  | cons e rest ih =>
      obtain ⟨k, a⟩ := e
      rw [List.map_cons, List.mem_cons, not_or] at h
      rw [alterEntries, if_neg (Ne.symm h.1), ih h.2, List.cons_append]

/-- The name `k` must be present: otherwise both orders append, and they differ. -/
theorem alterEntries_comm {j k : String} (hjk : j ≠ k) (f g : Option α → α)
    {entries : List (String × α)} (hk : k ∈ entries.map Prod.fst) :
    alterEntries k f (alterEntries j g entries) = alterEntries j g (alterEntries k f entries) := by
  induction entries with
  | nil => simp at hk
  | cons e rest ih =>
      obtain ⟨i, a⟩ := e
      by_cases hik : i = k
      · subst hik
        simp [alterEntries, hjk.symm]
      · have hrest : k ∈ rest.map Prod.fst := by
          rcases List.mem_cons.1 hk with h | h
          · exact absurd h.symm hik
          · exact h
        by_cases hij : i = j
        · subst hij
          simp [alterEntries, hjk]
        · simp [alterEntries, hik, hij, ih hrest]

theorem lookup_cons_if (j k : String) (a : α) (rest : List (String × α)) :
    ((k, a) :: rest).lookup j = if j = k then some a else rest.lookup j := by
  by_cases hj : j = k
  · simp [hj]
  · simp [List.lookup_cons, beq_false_of_ne hj, hj]

/-- Distinct names make every entry the one that is found. -/
theorem lookup_of_mem {k : String} {a : α} {entries : List (String × α)}
    (hnodup : (entries.map Prod.fst).Nodup) (h : (k, a) ∈ entries) :
    entries.lookup k = some a := by
  induction entries with
  | nil => simp at h
  | cons e rest ih =>
      obtain ⟨i, b⟩ := e
      rw [List.map_cons, List.nodup_cons] at hnodup
      rw [lookup_cons_if]
      rcases List.mem_cons.1 h with heq | hrest
      · obtain ⟨rfl, rfl⟩ := Prod.mk.inj heq
        rw [if_pos rfl]
      · have hmem : k ∈ rest.map Prod.fst := List.mem_map_of_mem hrest
        have hki : k ≠ i := fun hki => hnodup.1 (hki ▸ hmem)
        rw [if_neg hki]
        exact ih hnodup.2 hrest

/-- Looking for a value that stands under a name of its own is looking for that name. -/
theorem lookup_map_key (key : α → String) (j : String) (l : List α) :
    (l.map fun a => (key a, a)).lookup j = l.find? (key · = j) := by
  induction l with
  | nil => rfl
  | cons a rest ih =>
      rw [List.map_cons, lookup_cons_if, ih, List.find?_cons]
      by_cases hj : j = key a
      · simp [hj]
      · simp [hj, Ne.symm hj]

theorem lookup_alterEntries (j key : String) (f : Option α → α) (entries : List (String × α)) :
    (alterEntries key f entries).lookup j =
      if j = key then some (f (entries.lookup key)) else entries.lookup j := by
  induction entries with
  | nil => simp [alterEntries, lookup_cons_if]
  | cons e rest ih =>
      obtain ⟨k, a⟩ := e
      by_cases hk : k = key
      · subst hk
        by_cases hj : j = k <;> simp [alterEntries, hj, lookup_cons_if]
      · have hk' : ¬ key = k := fun h => hk h.symm
        simp only [alterEntries, hk, if_false, lookup_cons_if, ih, hk']
        by_cases hj : j = key
        · simp [hj, hk']
        · simp [hj]

/-- An overwriting write leaves old entries and the new one. -/
theorem mem_alterEntries_const {key : String} {a : α} {e : String × α}
    {entries : List (String × α)} (h : e ∈ alterEntries key (fun _ => a) entries) :
    e ∈ entries ∨ e = (key, a) := by
  induction entries with
  | nil => exact Or.inr (List.mem_singleton.1 h)
  | cons d rest ih =>
      obtain ⟨k, b⟩ := d
      by_cases hk : k = key
      · subst hk
        simp only [alterEntries, if_true] at h
        rcases List.mem_cons.1 h with h | h
        · exact Or.inr h
        · exact Or.inl (List.mem_cons_of_mem _ h)
      · simp only [alterEntries, hk, if_false] at h
        rcases List.mem_cons.1 h with h | h
        · exact Or.inl (h ▸ List.mem_cons_self)
        · exact (ih h).imp_left (List.mem_cons_of_mem _)

/-! ## Distinct names in order of first encounter -/

theorem eraseDups_of_nodup {l : List String} (h : l.Nodup) : l.eraseDups = l := by
  induction l with
  | nil => rfl
  | cons a rest ih =>
      rw [List.nodup_cons] at h
      have hfilter : rest.filter (fun b => !b == a) = rest :=
        List.filter_eq_self.2 fun b hb => by
          have hne : b ≠ a := fun hba => h.1 (hba ▸ hb)
          simp [hne]
      rw [List.eraseDups_cons, hfilter, ih h.2]

theorem eraseDups_append_cons_of_mem {a : String} {as : List String} (h : a ∈ as)
    (bs : List String) : (as ++ a :: bs).eraseDups = (as ++ bs).eraseDups := by
  rw [List.eraseDups_append, List.eraseDups_append, List.cons_removeAll]
  simp [h]

namespace OrderedMap

/-! ## Single writes -/

theorem alter_alter (m : OrderedMap α) (key : String) (f g : Option α → α) :
    (m.alter key g).alter key f = m.alter key fun present => f (some (g present)) :=
  OrderedMap.ext (alterEntries_alterEntries key f g m.entries)

theorem alter_comm (m : OrderedMap α) {j k : String} (hjk : j ≠ k) (hk : k ∈ m.keys)
    (f g : Option α → α) : (m.alter j g).alter k f = (m.alter k f).alter j g :=
  OrderedMap.ext (alterEntries_comm hjk f g hk)

theorem get?_alter (m : OrderedMap α) (j key : String) (f : Option α → α) :
    (m.alter key f).get? j = if j = key then some (f (m.get? key)) else m.get? j :=
  lookup_alterEntries j key f m.entries

theorem mem_keys_alter (m : OrderedMap α) (j key : String) (f : Option α → α) :
    j ∈ (m.alter key f).keys ↔ j ∈ m.keys ∨ j = key := by
  rw [keys_alter]
  split
  · rename_i hkey
    exact ⟨Or.inl, fun h => h.elim id fun hj => hj ▸ hkey⟩
  · simp

/-! ## Runs of writes -/

/-- Writes one entry after another; `write` says what an entry makes of the present value. -/
def alterAll (write : β → Option α → α) (m : OrderedMap α) (entries : List (String × β)) :
    OrderedMap α :=
  entries.foldl (fun m e => m.alter e.1 (write e.2)) m

@[simp] theorem alterAll_nil (write : β → Option α → α) (m : OrderedMap α) :
    m.alterAll write [] = m := rfl

@[simp] theorem alterAll_cons (write : β → Option α → α) (m : OrderedMap α) (e : String × β)
    (rest : List (String × β)) :
    m.alterAll write (e :: rest) = (m.alter e.1 (write e.2)).alterAll write rest := rfl

theorem alterAll_append (write : β → Option α → α) (m : OrderedMap α)
    (first second : List (String × β)) :
    m.alterAll write (first ++ second) = (m.alterAll write first).alterAll write second :=
  List.foldl_append

/-- A write to a present name may be made before a run that does not touch the name. -/
theorem alterAll_alter_comm (write : β → Option α → α) {k : String} (f : Option α → α)
    {entries : List (String × β)} (hk : k ∉ entries.map Prod.fst) :
    ∀ m : OrderedMap α, k ∈ m.keys →
      (m.alterAll write entries).alter k f = (m.alter k f).alterAll write entries := by
  induction entries with
  | nil => intro m _; rfl
  | cons e rest ih =>
      intro m hm
      rw [List.map_cons, List.mem_cons, not_or] at hk
      rw [alterAll_cons, alterAll_cons, ih hk.2 _ ((m.mem_keys_alter _ _ _).2 (Or.inl hm)),
        m.alter_comm (Ne.symm hk.1) hm]

/-- Writing the entries of a map after one more write `f` to it is writing its entries and then
making the write `g`, where `g` does to the outer value what `f` did to the inner one. -/
theorem alterAll_alterEntries (write : α → Option α → α) {f g : Option α → α}
    (hnone : ∀ present, write (f none) present = g present)
    (hsome : ∀ a present, write (f (some a)) present = g (some (write a present)))
    (k : String) {entries : List (String × α)} (hnodup : (entries.map Prod.fst).Nodup) :
    ∀ m : OrderedMap α,
      m.alterAll write (alterEntries k f entries) = (m.alterAll write entries).alter k g := by
  induction entries with
  | nil =>
      intro m
      simp only [alterEntries, alterAll_cons, alterAll_nil]
      rw [funext hnone]
  | cons e rest ih =>
      intro m
      obtain ⟨i, a⟩ := e
      rw [List.map_cons, List.nodup_cons] at hnodup
      by_cases hik : i = k
      · subst hik
        -- no later entry bears the name, so the further write may pass them all
        have hpresent : i ∈ (m.alter i (write a)).keys := (m.mem_keys_alter _ _ _).2 (Or.inr rfl)
        simp only [alterEntries, if_true, alterAll_cons]
        rw [alterAll_alter_comm write g hnodup.1 _ hpresent, alter_alter, funext (hsome a)]
      · simp only [alterEntries, hik, if_false, alterAll_cons]
        exact ih hnodup.2 _

theorem insertAll_eq_alterAll (m other : OrderedMap α) :
    m.insertAll other = m.alterAll (fun a _ => a) other.entries := rfl

theorem appendAll_eq_alterAll (m other : OrderedMap (List α)) :
    m.appendAll other =
      m.alterAll (fun items present => present.getD [] ++ items) other.entries := rfl

/-- The last write of a fragment is the last write of the whole. -/
theorem insertAll_insert (m other : OrderedMap α) (key : String) (a : α) :
    m.insertAll (other.insert key a) = (m.insertAll other).insert key a := by
  simp only [insertAll_eq_alterAll, insert, alter]
  exact alterAll_alterEntries (fun a _ => a) (f := fun _ => a) (g := fun _ => a)
    (fun _ => rfl) (fun _ _ => rfl) key other.nodup m

/-- What a fragment adds last to a list is added last to the whole list. -/
theorem appendAll_appendAt (m other : OrderedMap (List α)) (key : String) (items : List α) :
    m.appendAll (other.appendAt key items) = (m.appendAll other).appendAt key items := by
  simp only [appendAll_eq_alterAll, appendAt, alter]
  exact alterAll_alterEntries (fun items present => present.getD [] ++ items)
    (f := fun present => present.getD [] ++ items) (g := fun present => present.getD [] ++ items)
    (fun _ => by simp) (fun _ _ => by simp) key other.nodup m

/-! ## Maps written to maps -/

/-- Writing the entries of a map that has itself been written to is making the writes one after
another, provided that an entry stands for the write that has made it. -/
theorem alterAll_alterAll (write : α → Option α → α)
    (hnone : ∀ a present, write (write a none) present = write a present)
    (hsome : ∀ a b present, write (write b (some a)) present = write b (some (write a present)))
    (m : OrderedMap α) (entries : List (String × α)) :
    ∀ other : OrderedMap α,
      m.alterAll write (other.alterAll write entries).entries =
        (m.alterAll write other.entries).alterAll write entries := by
  induction entries with
  | nil => intro other; rfl
  | cons e rest ih =>
      intro other
      have hfirst : m.alterAll write (other.alter e.1 (write e.2)).entries =
          (m.alterAll write other.entries).alter e.1 (write e.2) :=
        alterAll_alterEntries write (hnone e.2) (fun a => hsome a e.2) e.1 other.nodup m
      rw [alterAll_cons, ih, hfirst, alterAll_cons]

theorem insertAll_assoc (a b c : OrderedMap α) :
    (a.insertAll b).insertAll c = a.insertAll (b.insertAll c) :=
  (alterAll_alterAll (fun a _ => a) (fun _ _ => rfl) (fun _ _ _ => rfl) a c.entries b).symm

theorem appendAll_assoc (a b c : OrderedMap (List α)) :
    (a.appendAll b).appendAll c = a.appendAll (b.appendAll c) :=
  (alterAll_alterAll (fun items present => present.getD [] ++ items) (fun _ _ => by simp)
    (fun _ _ _ => by simp) a c.entries b).symm

/-- Writes to distinct new names go to the end one after another. -/
theorem entries_alterAll_of_new (write : β → Option α → α) {entries : List (String × β)}
    (hnodup : (entries.map Prod.fst).Nodup) :
    ∀ {m : OrderedMap α}, (∀ k ∈ entries.map Prod.fst, k ∉ m.keys) →
      (m.alterAll write entries).entries =
        m.entries ++ entries.map fun e => (e.1, write e.2 none) := by
  induction entries with
  | nil => intro m _; simp
  | cons e rest ih =>
      intro m hnew
      rw [List.map_cons, List.nodup_cons] at hnodup
      have hfirst : (m.alter e.1 (write e.2)).entries = m.entries ++ [(e.1, write e.2 none)] :=
        alterEntries_of_not_mem (hnew e.1 List.mem_cons_self) _
      have hrest : ∀ k ∈ rest.map Prod.fst, k ∉ (m.alter e.1 (write e.2)).keys := by
        intro k hk
        rw [mem_keys_alter, not_or]
        exact ⟨hnew k (List.mem_cons_of_mem _ hk), fun hke => hnodup.1 (hke ▸ hk)⟩
      rw [alterAll_cons, ih hnodup.2 hrest, hfirst, List.append_assoc, List.singleton_append,
        List.map_cons]

/-- A map is what its own entries make of the empty one. -/
theorem empty_alterAll (write : α → Option α → α) (hnone : ∀ a, write a none = a)
    (m : OrderedMap α) : alterAll write .empty m.entries = m := by
  apply OrderedMap.ext
  rw [entries_alterAll_of_new write m.nodup fun _ _ => List.not_mem_nil]
  simp [hnone, empty]

@[simp] theorem empty_insertAll (m : OrderedMap α) : empty.insertAll m = m :=
  empty_alterAll (fun a _ => a) (fun _ => rfl) m

@[simp] theorem empty_appendAll (m : OrderedMap (List α)) : empty.appendAll m = m :=
  empty_alterAll (fun items present => present.getD [] ++ items) (fun _ => rfl) m

@[simp] theorem insertAll_empty (m : OrderedMap α) : m.insertAll empty = m := rfl

@[simp] theorem appendAll_empty (m : OrderedMap (List α)) : m.appendAll empty = m := rfl

/-! ## Reading a run of writes -/

/-- A run of writes leaves the names in order of first encounter. -/
theorem keys_alterAll (write : β → Option α → α) (entries : List (String × β)) :
    ∀ m : OrderedMap α,
      (m.alterAll write entries).keys = (m.keys ++ entries.map Prod.fst).eraseDups := by
  induction entries with
  | nil =>
      intro m
      simp only [alterAll_nil, List.map_nil, List.append_nil]
      exact (eraseDups_of_nodup m.nodup).symm
  | cons e rest ih =>
      intro m
      rw [alterAll_cons, ih, keys_alter, List.map_cons]
      split
      · -- a name that is present already keeps its place
        rename_i hkey
        exact (eraseDups_append_cons_of_mem hkey _).symm
      · rw [List.append_assoc, List.singleton_append]

/-- The value of a name depends on the writes to that name alone. -/
theorem get?_alterAll (write : β → Option α → α) (j : String) (entries : List (String × β)) :
    ∀ m : OrderedMap α,
      (m.alterAll write entries).get? j =
        (entries.filter (·.1 = j)).foldl (fun present e => some (write e.2 present))
          (m.get? j) := by
  induction entries with
  | nil => intro m; rfl
  | cons e rest ih =>
      intro m
      rw [alterAll_cons, ih, get?_alter]
      by_cases hj : e.1 = j
      · subst hj
        simp
      · simp [hj, Ne.symm hj]

theorem foldl_append_some (entries : List (String × List α)) :
    ∀ items : List α,
      entries.foldl (fun present e => some (present.getD [] ++ e.2)) (some items) =
        some (items ++ entries.flatMap Prod.snd) := by
  induction entries with
  | nil => intro items; simp
  | cons e rest ih => intro items; simp [ih]

/-- A run of appending writes leaves under each written name the items of its writes on end. -/
theorem get?_alterAll_append {j : String} {entries : List (String × List α)}
    (hj : j ∈ entries.map Prod.fst) :
    (alterAll (fun items present => present.getD [] ++ items) .empty entries).get? j =
      some ((entries.filter (·.1 = j)).flatMap Prod.snd) := by
  rw [get?_alterAll]
  cases hfilter : entries.filter (·.1 = j) with
  | nil =>
      obtain ⟨e, he, hkey⟩ := List.mem_map.1 hj
      have hmem : e ∈ entries.filter (·.1 = j) := List.mem_filter.2 ⟨he, by simpa using hkey⟩
      rw [hfilter] at hmem
      exact absurd hmem List.not_mem_nil
  | cons e rest =>
      rw [List.foldl_cons, foldl_append_some]
      simp [get?, empty]

/-- A run of overwriting writes leaves under a name what was written to it last. -/
theorem get?_alterAll_const (j : String) (entries : List (String × α)) :
    ∀ m : OrderedMap α, (m.alterAll (fun a _ => a) entries).get? j =
      (entries.reverse.lookup j).or (m.get? j) := by
  induction entries with
  | nil => intro m; rfl
  | cons e rest ih =>
      intro m
      have hwrite : (m.alter e.1 fun _ => e.2).get? j = ([e].lookup j).or (m.get? j) := by
        rw [get?_alter, lookup_cons_if]
        by_cases hj : j = e.1 <;> simp [hj]
      rw [alterAll_cons, ih, hwrite, List.reverse_cons, List.lookup_append, Option.or_assoc]

/-- Whatever a run of overwriting writes leaves was there before or has been written. -/
theorem mem_entries_alterAll_const {e : String × α} {entries : List (String × α)} :
    ∀ {m : OrderedMap α}, e ∈ (m.alterAll (fun a _ => a) entries).entries →
      e ∈ m.entries ∨ e ∈ entries := by
  induction entries with
  | nil => exact Or.inl
  | cons d rest ih =>
      intro m h
      rcases ih h with h | h
      · rcases mem_alterEntries_const h with h | h
        · exact Or.inl h
        · exact Or.inr (h ▸ List.mem_cons_self)
      · exact Or.inr (List.mem_cons_of_mem _ h)

/-- An entry is what its name finds. -/
theorem mem_entries_iff {m : OrderedMap α} {k : String} {a : α} :
    (k, a) ∈ m.entries ↔ m.get? k = some a := by
  constructor
  · exact lookup_of_mem m.nodup
  · intro h
    obtain ⟨before, after, hsplit, _⟩ := List.lookup_eq_some_iff.1 h
    rw [hsplit]
    exact List.mem_append_right _ List.mem_cons_self

/-- The entries are the names with what they look up, in the order of the names. -/
theorem entries_eq_filterMap_get? (m : OrderedMap α) :
    m.entries = m.keys.filterMap fun k => (m.get? k).map (k, ·) := by
  have hentry : ∀ e ∈ m.entries, (m.get? e.1).map (e.1, ·) = some e := by
    intro e he
    rw [mem_entries_iff.1 he]
    rfl
  calc m.entries
      = m.entries.filterMap some := List.filterMap_some.symm
    _ = m.entries.filterMap (fun e => (m.get? e.1).map (e.1, ·)) :=
        List.filterMap_congr fun e he => (hentry e he).symm
    _ = (m.entries.map Prod.fst).filterMap (fun k => (m.get? k).map (k, ·)) := by
        rw [List.filterMap_map]
        rfl

/-- The values are what the names look up, in the order of the names. -/
theorem values_eq_filterMap_get? (m : OrderedMap α) : m.values = m.keys.filterMap m.get? := by
  have hget : ∀ e ∈ m.entries, m.get? e.1 = some e.2 := fun e he => mem_entries_iff.1 he
  calc m.entries.map Prod.snd
      = m.entries.filterMap (fun e => some e.2) := by rw [List.filterMap_eq_map']
    _ = m.entries.filterMap (fun e => m.get? e.1) :=
        List.filterMap_congr fun e he => (hget e he).symm
    _ = (m.entries.map Prod.fst).filterMap m.get? := by rw [List.filterMap_map]; rfl

end OrderedMap

end FlawQuery
