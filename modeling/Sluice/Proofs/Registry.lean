import Mathlib
import Sluice.Registry
/-!
# Named handles: lookups and updates

A registry keeps each name at most once, and its updates act on the one entry of a name:
`put` replaces that entry in place (or adds one at the end) and `remove` deletes it. For the
invariants of the sessions built on registries, what matters is the list of stored values
whatever their names. `values_put` and `values_remove` say how an update changes that list:
up to order, one value is exchanged or taken away and the others stay.

* `Registry.Distinct` — no name occurs twice; kept by `put` and `remove`.
* `Registry.values` — the stored values.
* `find?_put_self`, `find?_put_ne`, `find?_remove_self`, `find?_remove_ne`.
-/

namespace Sluice

namespace Registry

variable {α : Type}

def Distinct (r : Registry α) : Prop :=
  (r.entries.map Prod.fst).Nodup

def values (r : Registry α) : List α :=
  r.entries.map Prod.snd

theorem lookup_cons_if (name k : String) (b : α) (rest : List (String × α)) :
    ((k, b) :: rest).lookup name = if name = k then some b else rest.lookup name := by
  by_cases same : name = k
  · subst same
    simp [List.lookup]
  · have hb : (name == k) = false := by simpa using same
    simp [List.lookup, same, hb]

theorem lookup_eq_none_iff' {name : String} {entries : List (String × α)} :
    entries.lookup name = none ↔ name ∉ entries.map Prod.fst := by
  induction entries with
  | nil => simp
  | cons e rest ih =>
    obtain ⟨k, b⟩ := e
    by_cases same : name = k <;> simp [lookup_cons_if, same, ih, eq_comm]

/-- A value found under a name splits the entries at the first entry of that name. -/
theorem find?_eq_some {r : Registry α} {name : String} {a : α} (h : r.find? name = some a) :
    ∃ pre post, r.entries = pre ++ (name, a) :: post ∧ ∀ e ∈ pre, e.1 ≠ name := by
  obtain ⟨entries⟩ := r
  simp only [find?] at h ⊢
  induction entries with
  | nil => simp at h
  | cons e rest ih =>
    obtain ⟨k, b⟩ := e
    by_cases same : name = k
    · subst same
      simp only [lookup_cons_if, if_true, Option.some.injEq] at h
      subst h
      exact ⟨[], rest, rfl, by simp⟩
    · simp only [lookup_cons_if, same, if_false] at h
      obtain ⟨pre, post, hsplit, hpre⟩ := ih h
      refine ⟨(k, b) :: pre, post, by simp [hsplit], ?_⟩
      intro e he
      rcases List.mem_cons.mp he with rfl | he
      · exact Ne.symm same
      · exact hpre e he

theorem putEntry_append {name : String} {a b : α} {pre post : List (String × α)}
    (hpre : ∀ e ∈ pre, e.1 ≠ name) :
    putEntry name a (pre ++ (name, b) :: post) = pre ++ (name, a) :: post := by
  induction pre with
  | nil => simp [putEntry]
  | cons e rest ih =>
    obtain ⟨k, c⟩ := e
    have hk : k ≠ name := hpre (k, c) (by simp)
    simp [putEntry, hk, ih (fun e he => hpre e (by simp [he]))]

theorem putEntry_of_not_mem {name : String} {a : α} {entries : List (String × α)}
    (h : name ∉ entries.map Prod.fst) : putEntry name a entries = entries ++ [(name, a)] := by
  induction entries with
  | nil => rfl
  | cons e rest ih =>
    obtain ⟨k, c⟩ := e
    have hk : k ≠ name := fun same => h (by simp [same])
    simp [putEntry, hk, ih (fun hm => h (by simp_all))]

theorem map_fst_putEntry (name : String) (a : α) (entries : List (String × α)) :
    (putEntry name a entries).map Prod.fst =
      if name ∈ entries.map Prod.fst then entries.map Prod.fst
      else entries.map Prod.fst ++ [name] := by
  induction entries with
  | nil => simp [putEntry]
  | cons e rest ih =>
    obtain ⟨k, c⟩ := e
    by_cases same : k = name
    · simp [putEntry, same]
    · have hne : name ≠ k := fun h => same h.symm
      by_cases mem : name ∈ rest.map Prod.fst <;> simp_all [putEntry]

@[simp]
theorem find?_put_self (r : Registry α) (name : String) (a : α) :
    (r.put name a).find? name = some a := by
  obtain ⟨entries⟩ := r
  simp only [put, find?]
  induction entries with
  | nil => simp [putEntry]
  | cons e rest ih =>
    obtain ⟨k, c⟩ := e
    by_cases same : k = name
    · simp [putEntry, same]
    · simpa [putEntry, same, lookup_cons_if, Ne.symm same] using ih

theorem put_of_find? {r : Registry α} {name : String} {a : α} (h : r.find? name = some a) :
    r.put name a = r := by
  obtain ⟨pre, post, split, before⟩ := find?_eq_some h
  cases r with
  | mk entries =>
    simp only [put] at split ⊢
    rw [split, putEntry_append before]

theorem find?_put_ne (r : Registry α) {name other : String} (a : α) (h : name ≠ other) :
    (r.put name a).find? other = r.find? other := by
  obtain ⟨entries⟩ := r
  simp only [put, find?]
  induction entries with
  | nil => simp [putEntry, lookup_cons_if, Ne.symm h]
  | cons e rest ih =>
    obtain ⟨k, c⟩ := e
    by_cases same : k = name
    · subst same
      simp [putEntry, lookup_cons_if, Ne.symm h]
    · simp [putEntry, same, lookup_cons_if, ih]

@[simp]
theorem find?_remove_self (r : Registry α) (name : String) : (r.remove name).find? name = none := by
  simp only [find?, remove, lookup_eq_none_iff', List.mem_map, List.mem_filter, not_exists,
    not_and]
  intro e member same
  simp [same] at member

theorem find?_remove_ne (r : Registry α) {name other : String} (h : name ≠ other) :
    (r.remove name).find? other = r.find? other := by
  obtain ⟨entries⟩ := r
  simp only [remove, find?]
  induction entries with
  | nil => rfl
  | cons e rest ih =>
    obtain ⟨k, c⟩ := e
    by_cases same : k = name
    · subst same
      simp [lookup_cons_if, Ne.symm h, ih]
    · simp [same, lookup_cons_if, ih]

theorem Distinct.put {r : Registry α} (d : r.Distinct) (name : String) (a : α) :
    (r.put name a).Distinct := by
  unfold Distinct at d ⊢
  rw [Registry.put, map_fst_putEntry]
  split
  · exact d
  · rename_i absent
    exact d.append (List.nodup_singleton name) (by simpa using absent)

theorem Distinct.remove {r : Registry α} (d : r.Distinct) (name : String) :
    (r.remove name).Distinct := by
  unfold Distinct at d ⊢
  exact d.sublist (List.filter_sublist.map _)

theorem mem_values_of_find? {r : Registry α} {name : String} {a : α} (h : r.find? name = some a) :
    a ∈ r.values := by
  obtain ⟨pre, post, hsplit, -⟩ := find?_eq_some h
  simp [values, hsplit]

/-- Replacing the value under a name exchanges one value and keeps the others. -/
theorem values_put {r : Registry α} {name : String} {a b : α} (h : r.find? name = some b) :
    ∃ rest, r.values.Perm (b :: rest) ∧ (r.put name a).values.Perm (a :: rest) := by
  obtain ⟨pre, post, hsplit, hpre⟩ := find?_eq_some h
  refine ⟨pre.map Prod.snd ++ post.map Prod.snd, ?_, ?_⟩
  · simp [values, hsplit]
  · simp [values, Registry.put, hsplit, putEntry_append hpre]

/-- Storing under a new name adds one value at the end. -/
theorem values_put_none {r : Registry α} {name : String} {a : α} (h : r.find? name = none) :
    (r.put name a).values = r.values ++ [a] := by
  have absent : name ∉ r.entries.map Prod.fst := lookup_eq_none_iff'.mp h
  simp [values, Registry.put, putEntry_of_not_mem absent]

/-- Removing a name takes its one value away. -/
theorem values_remove {r : Registry α} (d : r.Distinct) {name : String} {b : α}
    (h : r.find? name = some b) :
    ∃ rest, r.values.Perm (b :: rest) ∧ (r.remove name).values = rest := by
  obtain ⟨pre, post, hsplit, hpre⟩ := find?_eq_some h
  have hpost : ∀ e ∈ post, e.1 ≠ name := by
    intro e he same
    unfold Distinct at d
    rw [hsplit, List.map_append, List.map_cons, List.nodup_append] at d
    exact (List.nodup_cons.mp d.2.1).1 (by simpa [same] using List.mem_map_of_mem (f := Prod.fst) he)
  refine ⟨pre.map Prod.snd ++ post.map Prod.snd, ?_, ?_⟩
  · simp [values, hsplit]
  · have keepPre : pre.filter (fun e => e.1 != name) = pre :=
      List.filter_eq_self.mpr (by simpa using hpre)
    have keepPost : post.filter (fun e => e.1 != name) = post :=
      List.filter_eq_self.mpr (by simpa using hpost)
    simp [values, Registry.remove, hsplit, keepPre, keepPost]

section Counting

variable {r : Registry α} {name : String} {p : α → Bool}

/-- Counting over the values: replacing a value exchanges its count for the new one's. -/
theorem countP_values_put {a b : α} (h : r.find? name = some b) :
    (r.put name a).values.countP p + (p b).toNat = r.values.countP p + (p a).toNat := by
  rcases values_put (a := a) h with ⟨rest, before, after⟩
  rw [after.countP_eq, before.countP_eq, List.countP_cons, List.countP_cons]
  cases p a <;> cases p b <;> simp

theorem countP_values_put_none {a : α} (h : r.find? name = none) :
    (r.put name a).values.countP p = r.values.countP p + (p a).toNat := by
  rw [values_put_none h, List.countP_append, List.countP_singleton]
  cases p a <;> simp

theorem countP_values_remove {b : α} (d : r.Distinct) (h : r.find? name = some b) :
    (r.remove name).values.countP p + (p b).toNat = r.values.countP p := by
  rcases values_remove d h with ⟨rest, before, after⟩
  rw [after, before.countP_eq, List.countP_cons]
  cases p b <;> simp

end Counting

end Registry

end Sluice
