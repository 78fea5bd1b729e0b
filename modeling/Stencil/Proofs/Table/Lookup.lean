import Stencil.Table

/-!
# Looking up in tables

What is found under a name after the operations on insertion-ordered tables. Putting changes what is
found under one name only; a table updated by another one finds what the second one holds first.
-/

set_option autoImplicit false

namespace Stencil.Table

variable {κ ν : Type} [BEq κ] [LawfulBEq κ]

/-- A value that is found stands in the table. -/
theorem mem_of_lookup {key : κ} {value : ν} {table : List (κ × ν)}
    (h : table.lookup key = some value) : (key, value) ∈ table := by
  obtain ⟨before, after, rfl, -⟩ := List.lookup_eq_some_iff.1 h
  simp

/-- A table gets shorter when a key that it has is removed. -/
theorem length_remove_lt {key : κ} {value : ν} {table : List (κ × ν)}
    (h : table.lookup key = some value) : (remove key table).length < table.length := by
  have hdrop : ∃ e ∈ table, ¬(!(e.1 == key)) = true := ⟨(key, value), mem_of_lookup h, by simp⟩
  exact List.length_filter_lt_length_iff_exists.2 hdrop

/-- Something is found under the keys of a table, and under nothing else. -/
theorem mem_keys_iff_lookup {key : κ} {table : List (κ × ν)} :
    key ∈ keys table ↔ ∃ value, table.lookup key = some value := by
  constructor
  · intro h
    rw [← Option.isSome_iff_exists, List.lookup_isSome_iff]
    obtain ⟨e, he, rfl⟩ := List.mem_map.1 h
    exact ⟨e, he, beq_self_eq_true _⟩
  · rintro ⟨value, h⟩
    exact List.mem_map.2 ⟨(key, value), mem_of_lookup h, rfl⟩

theorem has_eq_true_iff {key : κ} {table : List (κ × ν)} :
    has key table = true ↔ key ∈ keys table := by
  simp [has, keys]

variable [DecidableEq κ]

/-- What stands first is found first. -/
theorem lookup_cons (name k : κ) (v : ν) (table : List (κ × ν)) :
    ((k, v) :: table).lookup name = if name = k then some v else table.lookup name := by
  rw [List.lookup_cons]
  by_cases h : name = k
  · rw [if_pos h, beq_iff_eq.2 h]
  · rw [if_neg h, beq_eq_false_iff_ne.2 h]

/-- Putting changes what is found under one name only. -/
theorem lookup_put (name key : κ) (value : ν) (table : List (κ × ν)) :
    (put key value table).lookup name =
      if name = key then some value else table.lookup name := by
  induction table with
  | nil => exact lookup_cons name key value []
  | cons e rest ih =>
    rcases e with ⟨k, v⟩
    unfold put
    by_cases hk : k = key
    · rw [if_pos (beq_iff_eq.2 hk), lookup_cons, lookup_cons, hk]
      split <;> rfl
    · rw [if_neg (by simpa using hk), lookup_cons, lookup_cons, ih]
      by_cases h : name = k
      · rw [if_pos h, if_pos h, if_neg (fun hkey => hk (h.symm.trans hkey))]
      · rw [if_neg h, if_neg h]

/-- A new key is put at the end. -/
theorem put_of_lookup_eq_none {key : κ} {table : List (κ × ν)} (h : table.lookup key = none)
    (value : ν) : put key value table = table ++ [(key, value)] := by
  induction table with
  | nil => rfl
  | cons e rest ih =>
    rcases e with ⟨k, v⟩
    rw [lookup_cons] at h
    split at h
    · cases h
    · rename_i hk
      unfold put
      rw [if_neg (by simpa using Ne.symm hk), ih h]
      rfl

/-- After a removal nothing is found under the key, and everything else is found as before. -/
theorem lookup_remove (name key : κ) (table : List (κ × ν)) :
    (remove key table).lookup name = if name = key then none else table.lookup name := by
  induction table with
  | nil => simp [remove]
  | cons e rest ih =>
    rcases e with ⟨k, v⟩
    have hunfold : remove key ((k, v) :: rest) =
        if k = key then remove key rest else (k, v) :: remove key rest := by
      by_cases hk : k = key
      · simp [remove, hk]
      · simp [remove, hk]
    rw [hunfold]
    by_cases hk : k = key
    · rw [if_pos hk, ih, lookup_cons, hk]
      split <;> rfl
    · rw [if_neg hk, lookup_cons, lookup_cons, ih]
      by_cases h : name = k
      · rw [if_pos h, if_pos h, if_neg (fun hkey => hk (h.symm.trans hkey))]
      · rw [if_neg h, if_neg h]

/-! ## Updates -/

theorem mem_keys_put {name key : κ} {value : ν} {table : List (κ × ν)}
    (h : name ∈ keys (put key value table)) : name = key ∨ name ∈ keys table := by
  induction table with
  | nil => simpa [put, keys] using h
  | cons e rest ih =>
    rcases e with ⟨k, v⟩
    unfold put at h
    by_cases hk : k = key
    · rw [if_pos (beq_iff_eq.2 hk)] at h
      exact .inr h
    · rw [if_neg (by simpa using hk)] at h
      rcases List.mem_cons.1 h with rfl | h
      · exact .inr (List.mem_cons_self ..)
      · exact (ih h).imp_right (List.mem_cons_of_mem _)

/-- Putting keeps the keys different. -/
theorem nodup_keys_put {table : List (κ × ν)} (h : (keys table).Nodup) (key : κ) (value : ν) :
    (keys (put key value table)).Nodup := by
  induction table with
  | nil => simp [put, keys]
  | cons e rest ih =>
    rcases e with ⟨k, v⟩
    obtain ⟨hk, hrest⟩ := List.nodup_cons.1 h
    unfold put
    by_cases heq : k = key
    · rw [if_pos (beq_iff_eq.2 heq)]
      exact h
    · rw [if_neg (by simpa using heq)]
      exact List.nodup_cons.2 ⟨fun hmem => (mem_keys_put hmem).elim heq hk, ih hrest⟩

/-- Updating keeps the keys different. -/
theorem nodup_keys_update {base : List (κ × ν)} (h : (keys base).Nodup) (changes : List (κ × ν)) :
    (keys (update base changes)).Nodup := by
  induction changes generalizing base with
  | nil => exact h
  | cons e rest ih => exact ih (nodup_keys_put h e.1 e.2)

/-- An updated table finds what the changes hold, and else what it found before. -/
theorem lookup_update {changes : List (κ × ν)} (h : (keys changes).Nodup) (base : List (κ × ν))
    (name : κ) :
    (update base changes).lookup name = (changes.lookup name).or (base.lookup name) := by
  induction changes generalizing base with
  | nil => rfl
  | cons e rest ih =>
    rcases e with ⟨k, v⟩
    obtain ⟨hk, hrest⟩ := List.nodup_cons.1 h
    have hput : update base ((k, v) :: rest) = update (put k v base) rest := rfl
    rw [hput, ih hrest, lookup_put, lookup_cons]
    by_cases hname : name = k
    · have hnone : rest.lookup k = none := by
        refine List.lookup_eq_none_iff.2 fun e he => ?_
        have hne : k ≠ e.1 := fun heq => hk (List.mem_map.2 ⟨e, he, heq.symm⟩)
        simpa using hne
      rw [hname, hnone, if_pos rfl, if_pos rfl]
      rfl
    · rw [if_neg hname, if_neg hname]

end Stencil.Table

/-! ## Tables with other values -/

namespace Stencil.Table

variable {κ ν μ : Type} (f : ν → μ) (key : κ) (table : List (κ × ν))

/-- A table with its values mapped. -/
def mapValues : List (κ × μ) := table.map (Prod.map id f)

@[simp] theorem keys_mapValues : keys (mapValues f table) = keys table := List.map_map

@[simp] theorem length_mapValues : (mapValues f table).length = table.length := List.length_map _

variable [BEq κ]

theorem lookup_mapValues : (mapValues f table).lookup key = (table.lookup key).map f := by
  induction table with
  | nil => rfl
  | cons e rest ih =>
    show ((e.1, f e.2) :: mapValues f rest).lookup key =
      (((e.1, e.2) :: rest).lookup key).map f
    rw [List.lookup_cons, List.lookup_cons]
    split
    · rfl
    · exact ih

theorem put_mapValues (value : ν) :
    put key (f value) (mapValues f table) = mapValues f (put key value table) := by
  induction table with
  | nil => rfl
  | cons e rest ih =>
    show put key (f value) ((e.1, f e.2) :: mapValues f rest) =
      mapValues f (put key value ((e.1, e.2) :: rest))
    unfold put
    split
    · rfl
    · exact congrArg (List.cons _) ih

theorem remove_mapValues : remove key (mapValues f table) = mapValues f (remove key table) :=
  List.filter_map

theorem update_mapValues (base changes : List (κ × ν)) :
    update (mapValues f base) (mapValues f changes) = mapValues f (update base changes) := by
  induction changes generalizing base with
  | nil => rfl
  | cons e rest ih =>
    have hput : update (mapValues f base) (mapValues f (e :: rest)) =
        update (put e.1 (f e.2) (mapValues f base)) (mapValues f rest) := rfl
    rw [hput, put_mapValues, ih]
    rfl

end Stencil.Table
