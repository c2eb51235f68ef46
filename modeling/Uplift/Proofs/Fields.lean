import Uplift.Fields

set_option autoImplicit false

/-! # Laws of ordered fields

Setting names one after the other leads to a list with each name once (`nodup_keys_ofList`). A list that
has each name once is what it leads to itself (`ofList_of_nodup`). -/

namespace Uplift.Fields

variable {α : Type} {fs : Fields α} {key : String} {value : α}

theorem mem_keys_put {k : String} : k ∈ keys (fs.put key value) ↔ k ∈ keys fs ∨ k = key := by
  induction fs with
  | nil => simp [put, keys]
  | cons e rest ih =>
    obtain ⟨k', v⟩ := e
    rw [put]
    split
    · rename_i hk
      subst hk
      simp only [keys, List.map_cons, List.mem_cons]
      exact ⟨fun h => .inl h, fun h => h.elim id .inl⟩
    · simp only [keys, List.map_cons, List.mem_cons] at ih ⊢
      rw [ih, or_assoc]

theorem nodup_keys_put (h : (keys fs).Nodup) : (keys (fs.put key value)).Nodup := by
  induction fs with
  | nil => simp [put, keys]
  | cons e rest ih =>
    obtain ⟨k, v⟩ := e
    obtain ⟨hk, hrest⟩ := List.nodup_cons.1 h
    rw [put]
    split
    · exact List.nodup_cons.2 ⟨hk, hrest⟩
    · rename_i hne
      refine List.nodup_cons.2 ⟨fun hmem => ?_, ih hrest⟩
      exact (mem_keys_put.1 hmem).elim hk hne

theorem mem_of_mem_put {e : String × α} (h : e ∈ fs.put key value) : e ∈ fs ∨ e = (key, value) := by
  induction fs with
  | nil => simpa [put] using h
  | cons first rest ih =>
    obtain ⟨k, v⟩ := first
    rw [put] at h
    split at h
    · rename_i hk
      subst hk
      rcases List.mem_cons.1 h with rfl | h
      · exact .inr rfl
      · exact .inl (List.mem_cons_of_mem _ h)
    · rcases List.mem_cons.1 h with rfl | h
      · exact .inl List.mem_cons_self
      · exact (ih h).imp (List.mem_cons_of_mem _) id

theorem mem_of_get? (h : fs.get? key = some value) : (key, value) ∈ fs := by
  induction fs with
  | nil => cases h
  | cons e rest ih =>
    obtain ⟨k, v⟩ := e
    rw [get?] at h
    split at h
    · rename_i hk
      rw [hk, Option.some.inj h]
      exact List.mem_cons_self
    · exact List.mem_cons_of_mem _ (ih h)

theorem get?_of_mem (hnodup : (keys fs).Nodup) (h : (key, value) ∈ fs) : fs.get? key = some value := by
  induction fs with
  | nil => cases h
  | cons e rest ih =>
    obtain ⟨k, v⟩ := e
    obtain ⟨hk, hrest⟩ := List.nodup_cons.1 hnodup
    rw [get?]
    rcases List.mem_cons.1 h with heq | h
    · obtain ⟨rfl, rfl⟩ := Prod.mk.inj heq
      exact if_pos rfl
    · have hne : k ≠ key := by
        rintro rfl
        exact hk (List.mem_map.2 ⟨_, h, rfl⟩)
      rw [if_neg hne, ih hrest h]

theorem get?_eq_none_iff : fs.get? key = none ↔ key ∉ keys fs := by
  induction fs with
  | nil => simp [get?, keys]
  | cons e rest ih =>
    obtain ⟨k, v⟩ := e
    by_cases hk : k = key
    · simp [get?, keys, hk]
    · simpa [get?, keys, hk, Ne.symm hk] using ih

theorem keys_put_of_mem (h : key ∈ keys fs) : keys (fs.put key value) = keys fs := by
  induction fs with
  | nil => cases h
  | cons e rest ih =>
    obtain ⟨k, v⟩ := e
    by_cases hk : k = key
    · simp [put, keys, hk]
    · have hrest : key ∈ keys rest := by simpa [keys, Ne.symm hk] using h
      simpa [put, keys, hk] using ih hrest

/-- Where each name occurs once, dropping a name leaves all others. -/
theorem erase_eq_filter (h : (keys fs).Nodup) : fs.erase key = fs.filter (·.1 ≠ key) := by
  induction fs with
  | nil => rfl
  | cons e rest ih =>
    obtain ⟨k, v⟩ := e
    obtain ⟨hk, hrest⟩ := List.nodup_cons.1 h
    by_cases hkey : k = key
    · -- it does not occur in the rest
      have hothers : ∀ e ∈ rest, e.1 ≠ key := by
        rintro ⟨k', v'⟩ he rfl
        exact hk (hkey ▸ List.mem_map.2 ⟨_, he, rfl⟩)
      rw [erase, if_pos hkey, List.filter_cons_of_neg (by simpa using hkey)]
      exact (List.filter_eq_self.2 (by simpa using hothers)).symm
    · rw [erase, if_neg hkey, List.filter_cons_of_pos (by simpa using hkey), ih hrest]

theorem put_put (fs : Fields α) (key : String) (value last : α) :
    (fs.put key value).put key last = fs.put key last := by
  induction fs with
  | nil => simp [put]
  | cons e rest ih =>
    obtain ⟨k, v⟩ := e
    by_cases hk : k = key
    · simp [put, hk]
    · simp [put, hk, ih]

theorem put_of_get? (h : fs.get? key = some value) : fs.put key value = fs := by
  induction fs with
  | nil => cases h
  | cons e rest ih =>
    obtain ⟨k, v⟩ := e
    by_cases hk : k = key
    · obtain rfl : v = value := by simpa [get?, hk] using h
      simp [put, hk]
    · have hrest : get? rest key = some value := by simpa [get?, hk] using h
      simp [put, hk, ih hrest]

/-- Different names are set in any order, unless both are new. -/
theorem put_comm {fs : Fields α} {key other : String} (value last : α) (hne : key ≠ other)
    (h : (fs.get? key).isSome = true) :
    (fs.put key value).put other last = (fs.put other last).put key value := by
  induction fs with
  | nil => cases h
  | cons e rest ih =>
    obtain ⟨k, v⟩ := e
    by_cases hk : k = key
    · subst hk
      simp [put, hne]
    · by_cases hother : k = other
      · subst hother
        simp [put, hk]
      · have hrest : (get? rest key).isSome = true := by simpa [get?, hk] using h
        simp [put, hk, hother, ih hrest]

theorem put_of_notMem (h : key ∉ keys fs) : fs.put key value = fs ++ [(key, value)] := by
  induction fs with
  | nil => rfl
  | cons e rest ih =>
    obtain ⟨k, v⟩ := e
    simp only [keys, List.map_cons, List.mem_cons, not_or] at h
    rw [put, if_neg (Ne.symm h.1), ih h.2, List.cons_append]

theorem get?_map {g : String × α → String × α} (hg : ∀ e, (g e).1 = e.1) (fs : Fields α)
    (key : String) : get? (fs.map g) key = (fs.get? key).map fun v => (g (key, v)).2 := by
  induction fs with
  | nil => rfl
  | cons e rest ih =>
    obtain ⟨k, v⟩ := e
    have hk : g (k, v) = (k, (g (k, v)).2) := Prod.ext (hg (k, v)) rfl
    rw [List.map_cons, hk, get?, get?]
    split
    · rename_i heq
      subst heq
      rfl
    · exact ih

theorem keys_map {g : String × α → String × α} (hg : ∀ e, (g e).1 = e.1) (fs : Fields α) :
    keys (fs.map g) = keys fs := by
  simp only [keys, List.map_map]
  exact List.map_congr_left fun e _ => hg e

/-! ## Lists of settings -/

variable {entries : List (String × α)}

theorem nodup_keys_foldl_put (h : (keys fs).Nodup) :
    (keys (entries.foldl (fun fs e => fs.put e.1 e.2) fs)).Nodup := by
  induction entries generalizing fs with
  | nil => exact h
  | cons e rest ih => exact ih (nodup_keys_put h)

theorem nodup_keys_ofList (entries : List (String × α)) : (keys (ofList entries)).Nodup :=
  nodup_keys_foldl_put List.nodup_nil

theorem mem_of_mem_foldl_put {e : String × α}
    (h : e ∈ entries.foldl (fun fs e => fs.put e.1 e.2) fs) : e ∈ fs ∨ e ∈ entries := by
  induction entries generalizing fs with
  | nil => exact .inl h
  | cons first rest ih =>
    rcases ih h with h | h
    · rcases mem_of_mem_put h with h | rfl
      · exact .inl h
      · exact .inr List.mem_cons_self
    · exact .inr (List.mem_cons_of_mem _ h)

theorem mem_of_mem_ofList {e : String × α} (h : e ∈ ofList entries) : e ∈ entries :=
  (mem_of_mem_foldl_put h).resolve_left List.not_mem_nil

theorem foldl_put_of_nodup (h : (keys (fs ++ entries)).Nodup) :
    entries.foldl (fun fs e => fs.put e.1 e.2) fs = fs ++ entries := by
  induction entries generalizing fs with
  | nil => simp
  | cons e rest ih =>
    obtain ⟨k, v⟩ := e
    have hnew : k ∉ keys fs := by
      simp only [keys, List.map_append, List.map_cons] at h
      exact fun hmem => (List.nodup_append.1 h).2.2 k hmem k List.mem_cons_self rfl
    have hsplit : fs ++ (k, v) :: rest = fs ++ [(k, v)] ++ rest := by simp
    rw [hsplit] at h
    rw [List.foldl_cons, put_of_notMem hnew, ih h, hsplit]

theorem ofList_of_nodup (h : (keys entries).Nodup) : ofList entries = entries :=
  foldl_put_of_nodup h

end Uplift.Fields
