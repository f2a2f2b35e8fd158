/-!
# Lists of named values

The first entry with a name decides what is found under it. So a list behaves as the function that
its entries describe, and a change of the entries with one name as an update of that function.
-/

namespace PidOne

variable {α : Type}

theorem lookup_cons_eq (key other : String) (value : α) (entries : List (String × α)) :
    ((key, value) :: entries).lookup other
      = if other = key then some value else entries.lookup other := by
  rw [List.lookup_cons]
  by_cases hkey : other = key
  · rw [if_pos hkey, beq_iff_eq.mpr hkey]
  · rw [if_neg hkey, beq_false_of_ne hkey]

theorem lookup_cons_self_ne (key : String) (value : α) (entries : List (String × α)) :
    ((key, value) :: entries).lookup key ≠ none := by
  rw [lookup_cons_eq, if_pos rfl]
  exact Option.some_ne_none value

theorem lookup_filter_ne (key other : String) (entries : List (String × α)) :
    (entries.filter fun entry => entry.1 != key).lookup other
      = if other = key then none else entries.lookup other := by
  induction entries with
  | nil => simp
  | cons entry entries ih =>
      obtain ⟨first, value⟩ := entry
      by_cases hfirst : first = key
      · subst hfirst
        rw [List.filter_cons_of_neg (by simp), ih, lookup_cons_eq]
        by_cases hother : other = first
        · rw [if_pos hother, if_pos hother]
        · rw [if_neg hother, if_neg hother, if_neg hother]
      · rw [List.filter_cons_of_pos (by simpa using hfirst), lookup_cons_eq, lookup_cons_eq, ih]
        by_cases hother : other = first
        · subst hother
          rw [if_pos rfl, if_neg hfirst, if_pos rfl]
        · rw [if_neg hother, if_neg hother]

theorem lookup_map_replace (key other : String) (made : α) (entries : List (String × α)) :
    (entries.map fun entry => if entry.1 = key then (key, made) else entry).lookup other
      = if other = key then (entries.lookup other).map fun _ => made
        else entries.lookup other := by
  induction entries with
  | nil => simp
  | cons entry entries ih =>
      obtain ⟨first, value⟩ := entry
      rw [List.map_cons, lookup_cons_eq]
      by_cases hfirst : first = key
      · subst hfirst
        rw [if_pos rfl, lookup_cons_eq, ih]
        by_cases hother : other = first
        · simp [hother]
        · simp [hother]
      · rw [if_neg hfirst, lookup_cons_eq, ih]
        by_cases hother : other = first
        · subst hother
          simp [hfirst]
        · simp [hother]

end PidOne
