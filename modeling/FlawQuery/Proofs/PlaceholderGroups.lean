/-
# FlawQuery.Proofs.PlaceholderGroups -- which label equality a placeholder group gets

The members of a placeholder group are to share their labels, and a query compares the first two. The
pass files a member once for each time that an edge touches it, so the first two arrivals can be one
and the same vertex. Both lists are put side by side here: the equality of a group relates its first
two arrivals, and these are its first two members unless one member arrives twice at the start.
-/

import FlawQuery.Proofs.CompiledParts

namespace FlawQuery

/-- The first two entries of a list that has them. -/
def firstTwo? : List String → Option (String × String)
  | first :: second :: _ => some (first, second)
  | _ => none

/-- The vertices whose labels a constraint compares. -/
def Constraint.equality? : Constraint → Option (String × String)
  | sameLabels first second => some (first, second)
  | _ => none

theorem mem_of_firstTwo?_eq_some {l : List String} {a b : String} (h : firstTwo? l = some (a, b)) :
    a ∈ l ∧ b ∈ l := by
  match l, h with
  | first :: second :: rest, h =>
      obtain ⟨rfl, rfl⟩ : first = a ∧ second = b := by simpa [firstTwo?] using h
      simp

theorem groupConstraint?_eq_map_firstTwo? (l : List String) :
    Statements.groupConstraint? l = (firstTwo? l).map fun pair => .sameLabels pair.1 pair.2 := by
  match l with
  | [] => rfl
  | [_] => rfl
  | _ :: _ :: _ => rfl

/-- A group asks for the equality of its first two arrivals. -/
theorem groupConstraint?_bind_equality? (l : List String) :
    (Statements.groupConstraint? l).bind Constraint.equality? = firstTwo? l := by
  match l with
  | [] => rfl
  | [_] => rfl
  | _ :: _ :: _ => rfl

/-- A list whose repetitions are dropped never starts with one entry twice. -/
theorem firstTwo?_eraseDups_ne {l : List String} {a b : String}
    (h : firstTwo? l.eraseDups = some (a, b)) : a ≠ b := by
  match l with
  | [] => cases h
  | first :: rest =>
      rw [List.eraseDups_cons] at h
      cases hrest : (rest.filter fun id => !id == first).eraseDups with
      | nil => simp [hrest, firstTwo?] at h
      | cons second others =>
          have hmem : second ∈ rest.filter fun id => !id == first := by
            rw [← List.mem_eraseDups, hrest]
            exact List.mem_cons_self
          have hne : second ≠ first := by simpa using (List.mem_filter.1 hmem).2
          obtain ⟨rfl, rfl⟩ : first = a ∧ second = b := by simpa [hrest, firstTwo?] using h
          exact hne.symm

/-- Dropping repetitions changes the first two entries of a list exactly if it starts with one entry
twice. -/
theorem firstTwo?_eraseDups_iff (l : List String) :
    firstTwo? l = firstTwo? l.eraseDups ↔ ∀ id rest, l ≠ id :: id :: rest := by
  match l with
  | [] => simp
  | [_] => simp [List.eraseDups_cons]
  | first :: second :: rest =>
      constructor
      · rintro h id others heq
        rw [heq] at h
        exact firstTwo?_eraseDups_ne h.symm rfl
      · intro h
        have hne : second ≠ first := fun heq => h first rest (heq ▸ rfl)
        simp [List.eraseDups_cons, hne, firstTwo?]

/-- Where each of several distinct keys yields at most one value, and `belongs` tells the value of one
key from the others, filtering the values leaves the one of that key. -/
theorem filter_filterMap_of_nodup {β : Type} {keys : List String} {value? : String → Option β}
    {belongs : β → Bool} {key : String} (hkeys : keys.Nodup)
    (hbelongs : ∀ k b, value? k = some b → (belongs b = true ↔ k = key)) :
    (keys.filterMap value?).filter belongs = if key ∈ keys then (value? key).toList else [] := by
  induction keys with
  | nil => rfl
  | cons k rest ih =>
      obtain ⟨hfresh, hrest⟩ := List.nodup_cons.1 hkeys
      by_cases hk : k = key
      · -- the other keys differ from `k`, so the induction hypothesis leaves nothing of them
        subst hk
        rw [if_pos List.mem_cons_self]
        cases hvalue : value? k with
        | none => simp [hvalue, ih hrest, hfresh]
        | some b => simp [hvalue, ih hrest, hfresh, (hbelongs k b hvalue).2 rfl]
      · have hmem : key ∈ k :: rest ↔ key ∈ rest := by simp [Ne.symm hk]
        cases hvalue : value? k with
        | none => simp [hvalue, ih hrest, hmem]
        | some b =>
            have hother : belongs b ≠ true := fun h => hk ((hbelongs k b hvalue).1 h)
            simp [hvalue, ih hrest, hmem, hother]

namespace Template

/-! ## The equality of a group -/

/-- The distinct vertices of a group that edges touch, in order of first encounter. -/
def members (t : Template) (group : String) : List String :=
  (t.arrivals group).eraseDups

/-- The label equalities of the compiled query that speak of a member of a group. -/
def equalities (t : Template) (group : String) : List (String × String) :=
  (t.plan.query.constraints.filterMap Constraint.equality?).filter fun e =>
    t.groupOf? e.1 = some group || t.groupOf? e.2 = some group

/-- Only placeholder groups ask for equal labels, each for one pair at most. -/
theorem query_equalities (t : Template) :
    t.plan.query.constraints.filterMap Constraint.equality? =
      t.groups.filterMap fun group => firstTwo? (t.arrivals group) := by
  have hedges : (gather Link.constraints {} t.links).filterMap Constraint.equality? = [] := by
    apply List.filterMap_eq_nil_iff.2
    intro c hc
    obtain ⟨before, e, after, _, hc⟩ := mem_gather_constraints.1 hc
    rcases hc with ⟨_, rfl⟩ | ⟨value, _, rfl⟩
    · rfl
    · rfl
  rw [query_constraints, List.filterMap_append, hedges, List.nil_append, List.filterMap_filterMap]
  apply List.filterMap_congr
  intro group _
  exact groupConstraint?_bind_equality? (t.arrivals group)

theorem arrivals_of_not_mem_groups {t : Template} {group : String} (h : group ∉ t.groups) :
    t.arrivals group = [] :=
  List.eq_nil_iff_forall_not_mem.2 fun _ hid => h (mem_groups_of_mem_arrivals hid)

/-- The equality of a group relates its first two arrivals. They are its first two members, or there
is no second member and no equality, exactly if the arrivals do not start with one vertex twice. -/
theorem equalities_eq_members_iff (t : Template) (group : String) :
    t.equalities group = (firstTwo? (t.arrivals group)).toList ∧
    (t.equalities group = (firstTwo? (t.members group)).toList ↔
      ∀ id rest, t.arrivals group ≠ id :: id :: rest) := by
  have hgroups : t.groups.Nodup := by
    rw [← keys_statements_placeholders]
    exact t.statements.placeholders.nodup
  have hbelongs : ∀ g e, firstTwo? (t.arrivals g) = some e →
      ((t.groupOf? e.1 = some group || t.groupOf? e.2 = some group) = true ↔ g = group) := by
    intro g e he
    -- both vertices of the equality arrived at the group `g`
    obtain ⟨hfirst, hsecond⟩ := mem_of_firstTwo?_eq_some he
    rw [(mem_arrivals.1 hfirst).2, (mem_arrivals.1 hsecond).2]
    simp
  have harrivals : t.equalities group = (firstTwo? (t.arrivals group)).toList := by
    rw [equalities, query_equalities, filter_filterMap_of_nodup hgroups hbelongs]
    by_cases hgroup : group ∈ t.groups
    · rw [if_pos hgroup]
    · rw [if_neg hgroup, arrivals_of_not_mem_groups hgroup]
      rfl
  refine ⟨harrivals, ?_⟩
  have htoList : Function.Injective fun pair : Option (String × String) => pair.toList :=
    Function.LeftInverse.injective fun _ => Option.head?_toList
  rw [harrivals, htoList.eq_iff, members]
  exact firstTwo?_eraseDups_iff (t.arrivals group)

/-- The first of two placeholders is touched twice before the other one is touched. -/
def touchedTwice : Template where
  vertices := [
    { id := "s1", kind := .activity, variant := "S", placeholder := true },
    { id := "s2", kind := .activity, variant := "S", placeholder := true },
    { id := "b", kind := .activity }]
  edges := [{ source := "s1", target := "b" }, { source := "s1", target := "s2" }]
  accepted := by decide +kernel

/-- The labels of `s1` are compared with themselves, and the labels of `s2` are left open. -/
theorem equalities_ne_members_touchedTwice :
    touchedTwice.equalities "S" ≠ (firstTwo? (touchedTwice.members "S")).toList := by
  decide

end Template

end FlawQuery
