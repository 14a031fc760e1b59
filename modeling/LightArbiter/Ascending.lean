/-!
# Lists with ascending keys

A table from texts to values is kept as a list whose keys ascend strictly, so that there is one list
for each table and its order is that of the keys: by code point, which is also the order of their
bytes in UTF-8.
-/

namespace LightArbiter

variable {α : Type}

/-- The keys of the list ascend strictly. -/
def Ascending (key : α → String) (l : List α) : Prop :=
  l.Pairwise fun a b => key a < key b

/-- The element with a given key. -/
def lookup (key : α → String) (k : String) (l : List α) : Option α :=
  l.find? fun a => key a == k

/-- The list with an element in the place of its key, instead of one with the same key. -/
def put (key : α → String) (a : α) : List α → List α
  | [] => [a]
  | b :: bs =>
    if key a < key b then a :: b :: bs
    else if key a = key b then a :: bs
    else b :: put key a bs

/-! ### Ascending keys -/

section Ascending

variable {key : α → String} {l l' : List α}

theorem Ascending.nodup_map (hl : Ascending key l) : (l.map key).Nodup := by
  refine List.pairwise_map.2 (List.Pairwise.imp ?_ hl)
  intro a b hlt heq
  exact String.lt_irrefl _ (heq ▸ hlt)

/-- The order of a list with ascending keys is determined by its elements. -/
theorem Ascending.eq_of_perm (hl : Ascending key l) (hl' : Ascending key l') (h : l.Perm l') :
    l = l' := by
  refine h.eq_of_pairwise ?_ hl hl'
  intro a b _ _ hlt hlt'
  exact absurd hlt' (String.lt_asymm hlt)

end Ascending

/-! ### What `put` does -/

@[simp] theorem lookup_nil (key : α → String) (k : String) : lookup key k [] = none := rfl

theorem lookup_cons (key : α → String) (k : String) (a : α) (l : List α) :
    lookup key k (a :: l) = if key a = k then some a else lookup key k l := by
  by_cases h : key a = k <;> simp [lookup, h]

/-- After putting an element in, its key leads to it and every other key leads where it did. -/
theorem lookup_put (key : α → String) (k : String) (a : α) (l : List α) :
    lookup key k (put key a l) = if key a = k then some a else lookup key k l := by
  induction l with
  | nil => simp [put, lookup_cons]
  | cons b bs ih =>
    unfold put
    split
    · simp [lookup_cons]
    · split
      · rename_i _ hab
        by_cases h : key a = k
        · simp [lookup_cons, h]
        · have : key b ≠ k := hab ▸ h
          simp [lookup_cons, h, this]
      · rename_i _ hab
        rw [lookup_cons, ih, lookup_cons]
        by_cases hb : key b = k
        · have : key a ≠ k := fun h => hab (h.trans hb.symm)
          simp [hb, this]
        · simp [hb]

theorem mem_put {key : α → String} {a c : α} {l : List α} (h : c ∈ put key a l) :
    c = a ∨ c ∈ l := by
  induction l with
  | nil => simpa [put] using h
  | cons b bs ih =>
    unfold put at h
    split at h
    · simpa using h
    · split at h
      · rcases List.mem_cons.1 h with h | h
        · exact .inl h
        · exact .inr (List.mem_cons_of_mem _ h)
      · rcases List.mem_cons.1 h with h | h
        · exact .inr (h ▸ List.mem_cons_self)
        · exact (ih h).imp_right (List.mem_cons_of_mem _)

/-- Putting an element in keeps the keys ascending. -/
theorem Ascending.put {key : α → String} {a : α} {l : List α} (h : Ascending key l) :
    Ascending key (put key a l) := by
  induction l with
  | nil => exact List.pairwise_singleton ..
  | cons b bs ih =>
    obtain ⟨hb, hbs⟩ := List.pairwise_cons.1 h
    unfold LightArbiter.put
    split
    · rename_i hab
      refine List.pairwise_cons.2 ⟨fun c hc => ?_, h⟩
      rcases List.mem_cons.1 hc with rfl | hc
      · exact hab
      · exact String.lt_trans hab (hb c hc)
    · split
      · rename_i _ hab
        exact List.pairwise_cons.2 ⟨fun c hc => hab ▸ hb c hc, hbs⟩
      · rename_i hlt hne
        refine List.pairwise_cons.2 ⟨fun c hc => ?_, ih hbs⟩
        rcases mem_put hc with rfl | hc
        · rcases String.le_total (key b) (key c) with hle | hle
          · exact Decidable.byContradiction fun hn => hne (String.le_antisymm (String.not_lt.1 hn) hle)
          · exact Decidable.byContradiction fun hn =>
              hne (String.le_antisymm (String.not_lt.1 hn) (String.not_lt.1 hlt))
        · exact hb c hc

/-- Putting an element with a new key in adds it to the elements. -/
theorem put_perm {key : α → String} {a : α} {l : List α} (h : ∀ b ∈ l, key b ≠ key a) :
    (put key a l).Perm (a :: l) := by
  induction l with
  | nil => exact .refl _
  | cons b bs ih =>
    unfold put
    split
    · exact .refl _
    · split
      · rename_i _ hab
        exact absurd hab.symm (h b List.mem_cons_self)
      · exact ((ih fun c hc => h c (List.mem_cons_of_mem _ hc)).cons b).trans (.swap a b bs)

end LightArbiter
