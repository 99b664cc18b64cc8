import Mathlib.Data.List.Nodup

/-! Python's `dict` as the sources use it, on its list of items: assignment replaces the value
of a key where the key already is and adds a new key at the end, so iteration follows first
insertion. The same rule is JavaScript's for properties that are not array indices. -/
namespace Mountaineer

variable {κ β : Type} [DecidableEq κ]

/-- `d[k] = v` on the items of `d`. -/
def assocSet (k : κ) (v : β) : List (κ × β) → List (κ × β)
  | [] => [(k, v)]
  | (k', v') :: rest => if k' = k then (k, v) :: rest else (k', v') :: assocSet k v rest

theorem lookup_cons_of_ne {a k : κ} (h : a ≠ k) (b : β) (es : List (κ × β)) :
    ((k, b) :: es).lookup a = es.lookup a := by
  rw [List.lookup_cons, beq_false_of_ne h]

@[simp] theorem lookup_assocSet_self (k : κ) (v : β) (l : List (κ × β)) :
    (assocSet k v l).lookup k = some v := by
  induction l with
  | nil => simp [assocSet]
  | cons e l ih =>
    obtain ⟨k', v'⟩ := e
    by_cases h : k' = k
    · simp [assocSet, h]
    · simp [assocSet, h, lookup_cons_of_ne (Ne.symm h), ih]

theorem lookup_assocSet_of_ne {k k' : κ} (h : k' ≠ k) (v : β) (l : List (κ × β)) :
    (assocSet k v l).lookup k' = l.lookup k' := by
  induction l with
  | nil => simp [assocSet, lookup_cons_of_ne h]
  | cons e l ih =>
    obtain ⟨j, w⟩ := e
    by_cases hj : j = k
    · subst hj; simp [assocSet, lookup_cons_of_ne h]
    · by_cases hk : k' = j
      · subst hk; simp [assocSet, hj]
      · simp [assocSet, hj, lookup_cons_of_ne hk, ih]

/-- With distinct keys, the items after `d[k] = v` are `(k, v)` and the other items. -/
theorem mem_assocSet_iff {k : κ} {v : β} {l : List (κ × β)} (hl : (l.map Prod.fst).Nodup)
    {e : κ × β} : e ∈ assocSet k v l ↔ e = (k, v) ∨ (e ∈ l ∧ e.1 ≠ k) := by
  induction l with
  | nil => simp [assocSet]
  | cons e' l ih =>
    obtain ⟨j, w⟩ := e'
    simp only [List.map_cons, List.nodup_cons, List.mem_map] at hl
    by_cases hj : j = k
    · subst hj
      have hne : e ∈ l → e.1 ≠ j := fun he h => hl.1 ⟨e, he, h⟩
      simp only [assocSet, if_true, List.mem_cons]
      constructor
      · rintro (h | h)
        exacts [.inl h, .inr ⟨.inr h, hne h⟩]
      · rintro (h | ⟨rfl | h, hk⟩)
        exacts [.inl h, absurd rfl hk, .inr h]
    · simp only [assocSet, hj, if_false, List.mem_cons, ih hl.2]
      aesop

/-- `d[k] = v` adds the item `(k, v)` and keeps or drops each other item. -/
theorem mem_of_mem_assocSet {k : κ} {v : β} {l : List (κ × β)} {e : κ × β}
    (h : e ∈ assocSet k v l) : e = (k, v) ∨ e ∈ l := by
  induction l with
  | nil => simpa [assocSet] using h
  | cons e' l ih =>
    simp only [assocSet] at h
    split_ifs at h
    · rcases List.mem_cons.1 h with h | h
      exacts [.inl h, .inr (List.mem_cons_of_mem _ h)]
    · rcases List.mem_cons.1 h with h | h
      exacts [.inr (h ▸ List.mem_cons_self _ _), (ih h).imp_right (List.mem_cons_of_mem _)]

/-- A value that no item has yet keeps the values distinct through `d[k] = v`. -/
theorem nodup_map_assocSet {γ : Type} (g : κ × β → γ) {k : κ} {v : β} {l : List (κ × β)}
    (hl : (l.map g).Nodup) (hv : g (k, v) ∉ l.map g) : ((assocSet k v l).map g).Nodup := by
  induction l with
  | nil => simp [assocSet]
  | cons e l ih =>
    simp only [List.map_cons, List.nodup_cons, List.mem_cons, not_or] at hl hv
    simp only [assocSet]
    split_ifs
    · exact List.nodup_cons.2 ⟨hv.2, hl.2⟩
    · refine List.nodup_cons.2 ⟨fun he => ?_, ih hl.2 hv.2⟩
      obtain ⟨e', he', hg⟩ := List.mem_map.1 he
      rcases mem_of_mem_assocSet he' with rfl | he'
      exacts [hv.1 hg, hl.1 (List.mem_map.2 ⟨e', he', hg⟩)]

theorem mem_of_lookup_eq_some {k : κ} {v : β} {l : List (κ × β)} (h : l.lookup k = some v) :
    (k, v) ∈ l := by
  obtain ⟨l₁, l₂, rfl, -⟩ := List.lookup_eq_some_iff.1 h
  simp

/-- With distinct keys, an item is in the list exactly when its key reads its value. -/
theorem lookup_eq_some_iff_mem {l : List (κ × β)} (hl : (l.map Prod.fst).Nodup) {k : κ} {v : β} :
    l.lookup k = some v ↔ (k, v) ∈ l := by
  refine ⟨mem_of_lookup_eq_some, fun h => ?_⟩
  induction l with
  | nil => cases h
  | cons e l ih =>
    obtain ⟨j, w⟩ := e
    simp only [List.map_cons, List.nodup_cons] at hl
    rcases List.mem_cons.1 h with h | h
    · cases h
      exact List.lookup_cons_self
    · have hne : k ≠ j := fun hkj => hl.1 (hkj ▸ List.mem_map_of_mem Prod.fst h)
      rw [lookup_cons_of_ne hne]
      exact ih hl.2 h

/-- The items of one dict in two orders read back the same. -/
theorem lookup_perm {l l' : List (κ × β)} (hp : l.Perm l') (hl : (l.map Prod.fst).Nodup)
    (k : κ) : l.lookup k = l'.lookup k :=
  Option.ext fun v => by
    rw [Option.mem_def, Option.mem_def, lookup_eq_some_iff_mem hl,
      lookup_eq_some_iff_mem ((hp.map Prod.fst).nodup_iff.1 hl), hp.mem_iff]

/-- Keeping the items whose key passes `P`: a passing key keeps its value, another has none. -/
theorem lookup_filter_key (P : κ → Bool) (l : List (κ × β)) (k : κ) :
    (l.filter fun e => P e.1).lookup k = if P k then l.lookup k else none := by
  induction l with
  | nil => simp
  | cons e l ih =>
    obtain ⟨j, w⟩ := e
    by_cases hj : k = j
    · subst hj; by_cases hP : P k <;> simp [List.filter_cons, hP, ih]
    · by_cases hP : P j <;> simp [List.filter_cons, hP, ih, lookup_cons_of_ne hj]

theorem keys_assocSet (k : κ) (v : β) (l : List (κ × β)) :
    (assocSet k v l).map Prod.fst =
      if k ∈ l.map Prod.fst then l.map Prod.fst else l.map Prod.fst ++ [k] := by
  induction l with
  | nil => simp [assocSet]
  | cons e l ih =>
    obtain ⟨j, w⟩ := e
    by_cases hj : j = k
    · simp [assocSet, hj]
    · by_cases hk : k ∈ l.map Prod.fst <;> simp_all [assocSet, Ne.symm hj]

theorem nodup_keys_assocSet {k : κ} {v : β} {l : List (κ × β)} (hl : (l.map Prod.fst).Nodup) :
    ((assocSet k v l).map Prod.fst).Nodup := by
  rw [keys_assocSet]; split_ifs with hk
  · exact hl
  · exact hl.append (List.nodup_singleton _) (by simpa using hk)

theorem mem_keys_assocSet (k : κ) (v : β) (l : List (κ × β)) :
    ∀ j, j ∈ (assocSet k v l).map Prod.fst ↔ j = k ∨ j ∈ l.map Prod.fst := by
  intro j; rw [keys_assocSet]; split_ifs with hk
  · exact ⟨.inr, fun h => h.elim (· ▸ hk) id⟩
  · simp [or_comm]

theorem assocSet_of_not_mem {k : κ} (v : β) {l : List (κ × β)} (hk : k ∉ l.map Prod.fst) :
    assocSet k v l = l ++ [(k, v)] := by
  induction l with
  | nil => rfl
  | cons e l ih =>
    simp only [List.map_cons, List.mem_cons, not_or] at hk
    simp [assocSet, Ne.symm hk.1, ih hk.2]

@[simp] theorem assocSet_assocSet_self (k : κ) (v w : β) (l : List (κ × β)) :
    assocSet k v (assocSet k w l) = assocSet k v l := by
  induction l with
  | nil => simp [assocSet]
  | cons e l ih =>
    obtain ⟨j, u⟩ := e
    by_cases hj : j = k <;> simp [assocSet, hj, ih]

/-- Assignments to two keys commute once the second key is present. -/
theorem assocSet_comm {k j : κ} (v w : β) {l : List (κ × β)} (hk : k ∈ l.map Prod.fst)
    (hj : j ≠ k) : assocSet j w (assocSet k v l) = assocSet k v (assocSet j w l) := by
  induction l with
  | nil => simp at hk
  | cons e l ih =>
    obtain ⟨i, u⟩ := e
    by_cases hik : i = k
    · subst hik; simp [assocSet, Ne.symm hj]
    · by_cases hij : i = j
      · subst hij; simp [assocSet, hik]
      · have hk' : k ∈ l.map Prod.fst := by simpa [Ne.symm hik] using hk
        simp [assocSet, hik, hij, ih hk']

/-- `{...m, ...p}`, or `m.update(p)`: the items of `p` assigned in order. -/
def assocMerge (m p : List (κ × β)) : List (κ × β) := p.foldl (fun acc e => assocSet e.1 e.2 acc) m

@[simp] theorem assocMerge_nil (m : List (κ × β)) : assocMerge m [] = m := rfl

@[simp] theorem assocMerge_cons (m : List (κ × β)) (e : κ × β) (p : List (κ × β)) :
    assocMerge m (e :: p) = assocMerge (assocSet e.1 e.2 m) p := rfl

theorem nodup_keys_assocMerge {m : List (κ × β)} (hm : (m.map Prod.fst).Nodup)
    (p : List (κ × β)) : ((assocMerge m p).map Prod.fst).Nodup := by
  induction p generalizing m with
  | nil => exact hm
  | cons e p ih => exact ih (nodup_keys_assocSet hm)

/-- Merging into an object whose key `k` is present, items without `k` commute with `d[k] = v`. -/
theorem assocMerge_assocSet_of_mem {k : κ} (v : β) {X r : List (κ × β)}
    (hX : k ∈ X.map Prod.fst) (hr : k ∉ r.map Prod.fst) :
    assocMerge (assocSet k v X) r = assocSet k v (assocMerge X r) := by
  induction r generalizing X with
  | nil => rfl
  | cons e r ih =>
    simp only [List.map_cons, List.mem_cons, not_or] at hr
    rw [assocMerge_cons, assocMerge_cons, assocSet_comm _ _ hX (Ne.symm hr.1),
      ih ((mem_keys_assocSet _ _ _ k).2 (.inr hX)) hr.2]

theorem assocMerge_nil_left {r : List (κ × β)} (hr : (r.map Prod.fst).Nodup) :
    assocMerge [] r = r := by
  induction r using List.reverseRecOn with
  | nil => rfl
  | append_singleton r e ih =>
    simp only [List.map_append, List.map_singleton, List.nodup_append, List.nodup_singleton,
      List.disjoint_singleton] at hr
    have h : assocMerge [] (r ++ [e]) = assocSet e.1 e.2 (assocMerge [] r) := by
      simp [assocMerge, List.foldl_append]
    rw [h, ih hr.1, assocSet_of_not_mem _ hr.2.2]

theorem assocMerge_concat (m p : List (κ × β)) (e : κ × β) :
    assocMerge m (p ++ [e]) = assocSet e.1 e.2 (assocMerge m p) :=
  List.foldl_append _ _ _ _

/-- Assigning a key the value it already has changes nothing. -/
theorem assocSet_of_lookup_eq_some {k : κ} {v : β} {l : List (κ × β)} (h : l.lookup k = some v) :
    assocSet k v l = l := by
  induction l with
  | nil => cases h
  | cons e l ih =>
    obtain ⟨j, w⟩ := e
    by_cases hj : j = k
    · subst hj
      rw [List.lookup_cons_self, Option.some.injEq] at h
      simp [assocSet, h]
    · rw [lookup_cons_of_ne (Ne.symm hj)] at h
      simp [assocSet, hj, ih h]

theorem lookup_assocMerge_of_not_mem {k : κ} (m : List (κ × β)) {p : List (κ × β)}
    (hk : k ∉ p.map Prod.fst) : (assocMerge m p).lookup k = m.lookup k := by
  induction p generalizing m with
  | nil => rfl
  | cons e p ih =>
    simp only [List.map_cons, List.mem_cons, not_or] at hk
    rw [assocMerge_cons, ih _ hk.2, lookup_assocSet_of_ne hk.1]

theorem mem_keys_assocMerge {k : κ} {m : List (κ × β)} (hk : k ∈ m.map Prod.fst)
    (p : List (κ × β)) : k ∈ (assocMerge m p).map Prod.fst := by
  induction p generalizing m with
  | nil => exact hk
  | cons e p ih => exact ih ((mem_keys_assocSet _ _ _ k).2 (.inr hk))

/-- An assignment to a present key that the merged items assign again is overwritten. -/
theorem assocMerge_assocSet_of_mem_of_mem {k : κ} (v : β) {X r : List (κ × β)}
    (hX : k ∈ X.map Prod.fst) (hr : k ∈ r.map Prod.fst) :
    assocMerge (assocSet k v X) r = assocMerge X r := by
  induction r generalizing X with
  | nil => cases hr
  | cons e r ih =>
    obtain ⟨j, w⟩ := e
    by_cases hj : j = k
    · subst hj
      simp only [assocMerge_cons, assocSet_assocSet_self]
    · have hr' : k ∈ r.map Prod.fst := by simpa [Ne.symm hj] using hr
      simp only [assocMerge_cons]
      rw [assocSet_comm _ _ hX hj, ih ((mem_keys_assocSet _ _ _ k).2 (.inr hX)) hr']

/-- Assigning the same items a second time changes nothing. -/
theorem assocMerge_assocMerge_self (m p : List (κ × β)) :
    assocMerge (assocMerge m p) p = assocMerge m p := by
  induction p generalizing m with
  | nil => rfl
  | cons e p ih =>
    obtain ⟨k, v⟩ := e
    simp only [assocMerge_cons]
    have hX : k ∈ (assocMerge (assocSet k v m) p).map Prod.fst :=
      mem_keys_assocMerge ((mem_keys_assocSet _ _ _ k).2 (.inl rfl)) p
    by_cases hk : k ∈ p.map Prod.fst
    · rw [assocMerge_assocSet_of_mem_of_mem v hX hk, ih]
    · rw [assocMerge_assocSet_of_mem v hX hk, ih, assocSet_of_lookup_eq_some]
      rw [lookup_assocMerge_of_not_mem _ hk, lookup_assocSet_self]

/-- The merge is right-biased: a key of `p` reads from `p`, any other from `m`. -/
theorem lookup_assocMerge (m : List (κ × β)) {p : List (κ × β)} (hp : (p.map Prod.fst).Nodup)
    (k : κ) : (assocMerge m p).lookup k = (p.lookup k).or (m.lookup k) := by
  induction p generalizing m with
  | nil => simp
  | cons e p ih =>
    obtain ⟨j, w⟩ := e
    simp only [List.map_cons, List.nodup_cons] at hp
    rw [assocMerge_cons, ih _ hp.2]
    by_cases hk : k = j
    · subst hk
      have : p.lookup k = none := List.lookup_eq_none_iff.2 fun e he =>
        bne_iff_ne.2 fun h => hp.1 (List.mem_map.2 ⟨e, he, h.symm⟩)
      simp [this]
    · simp [lookup_assocSet_of_ne hk, lookup_cons_of_ne hk]

/-- Results of fallible code compare by their constructor and payload. -/
instance instDecidableEqExcept {ε α : Type} [DecidableEq ε] [DecidableEq α] :
    DecidableEq (Except ε α)
  | .ok a, .ok b => if h : a = b then isTrue (h ▸ rfl) else isFalse fun e => h (Except.ok.inj e)
  | .error a, .error b =>
    if h : a = b then isTrue (h ▸ rfl) else isFalse fun e => h (Except.error.inj e)
  | .ok _, .error _ => isFalse Except.noConfusion
  | .error _, .ok _ => isFalse Except.noConfusion

end Mountaineer
