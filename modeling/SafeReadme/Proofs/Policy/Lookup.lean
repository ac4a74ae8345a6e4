import SafeReadme.Policy.Names

/-!
# Looking names up

What each operation on a table does to the value of every key. The order of the keys matters only
where a key is given a value: behind the place of insertion it cannot stand again.
-/

namespace SafeReadme

theorem lookup_eq_some_of_mem {α : Type} {es : List (String × α)} {key : String} {value : α}
    (hnodup : (es.map Prod.fst).Nodup) (h : (key, value) ∈ es) : es.lookup key = some value := by
  induction es with
  | nil => simp at h
  | cons head rest ih =>
      obtain ⟨k, v⟩ := head
      obtain ⟨hhead, hrest⟩ := List.nodup_cons.1 hnodup
      rcases List.mem_cons.1 h with heq | h
      · cases heq
        simp
      · have hne : (key == k) = false := by
          have hkey : key ∈ rest.map Prod.fst := List.mem_map_of_mem h
          simpa using fun heq : key = k => hhead (heq ▸ hkey)
        rw [List.lookup_cons, hne]
        exact ih hrest h

theorem mem_of_lookup_eq_some {α : Type} {es : List (String × α)} {key : String} {value : α}
    (h : es.lookup key = some value) : (key, value) ∈ es := by
  obtain ⟨before, after, rfl, -⟩ := List.lookup_eq_some_iff.1 h
  simp

theorem lookup_eq_none_of_not_mem {α : Type} {es : List (String × α)} {key : String}
    (h : key ∉ es.map Prod.fst) : es.lookup key = none := by
  rw [List.lookup_eq_none_iff]
  intro e he
  simpa using fun heq : key = e.1 => h (heq ▸ List.mem_map_of_mem he)

namespace NameMap

variable {α : Type}

theorem lookup_eq_none_of_lt {key : String} {es : List (String × α)}
    (h : ∀ e ∈ es, key < e.1) : es.lookup key = none := by
  refine lookup_eq_none_of_not_mem fun hmem => ?_
  obtain ⟨e, he, rfl⟩ := List.mem_map.1 hmem
  exact String.lt_irrefl e.1 (h e he)

theorem lookup_alterEntries_of_ne {key k : String} (f : Option α → α)
    (es : List (String × α)) (h : k ≠ key) :
    (alterEntries key f es).lookup k = es.lookup k := by
  have hk : (k == key) = false := by simpa using h
  induction es with
  | nil => simp [alterEntries, List.lookup_cons, hk]
  | cons head rest ih =>
      obtain ⟨k', v⟩ := head
      simp only [alterEntries]
      split
      · simp [List.lookup_cons, hk]
      · split
        next heq =>
          subst heq
          simp [List.lookup_cons, hk]
        next => simp [List.lookup_cons, ih]

theorem lookup_alterEntries_self {key : String} (f : Option α → α) {es : List (String × α)}
    (h : es.Pairwise (fun a b => a.1 < b.1)) :
    (alterEntries key f es).lookup key = some (f (es.lookup key)) := by
  induction es with
  | nil => simp [alterEntries]
  | cons head rest ih =>
      obtain ⟨k, v⟩ := head
      obtain ⟨hk, hrest⟩ := List.pairwise_cons.1 h
      simp only [alterEntries]
      split
      next hlt =>
        have hnone : List.lookup key ((k, v) :: rest) = none := by
          apply lookup_eq_none_of_lt
          intro e he
          rcases List.mem_cons.1 he with rfl | he
          · exact hlt
          · exact String.lt_trans hlt (hk e he)
        rw [hnone]
        simp
      next =>
        split
        next heq =>
          subst heq
          simp
        next hne =>
          have hne' : (key == k) = false := by simpa using hne
          simp [List.lookup_cons, hne', ih hrest]

@[simp] theorem find?_empty (k : String) : (empty : NameMap α).find? k = none := rfl

theorem find?_alter (m : NameMap α) (key : String) (f : Option α → α) (k : String) :
    (m.alter key f).find? k = if k = key then some (f (m.find? key)) else m.find? k := by
  by_cases h : k = key
  · subst h
    rw [if_pos rfl]
    exact lookup_alterEntries_self f m.ordered
  · rw [if_neg h]
    exact lookup_alterEntries_of_ne f m.entries h

theorem lookup_filter_keys (p : String → Bool) (k : String) (es : List (String × α)) :
    (es.filter (fun e => p e.1)).lookup k = if p k then es.lookup k else none := by
  induction es with
  | nil => simp
  | cons head rest ih =>
      obtain ⟨k', v⟩ := head
      by_cases hk : k = k'
      · subst hk
        by_cases hp : p k
        · simp [hp]
        · rw [List.filter_cons_of_neg (by simpa using hp), ih, if_neg hp, if_neg hp]
      · have hk' : (k == k') = false := by simpa using hk
        by_cases hp : p k' <;> simp [List.lookup_cons, hp, hk', ih]

theorem find?_filterKeys (m : NameMap α) (p : String → Bool) (k : String) :
    (m.filterKeys p).find? k = if p k then m.find? k else none :=
  lookup_filter_keys p k m.entries

theorem lookup_map_values (f : String → α → α) (k : String) (es : List (String × α)) :
    (es.map (fun e => (e.1, f e.1 e.2))).lookup k = (es.lookup k).map (f k) := by
  induction es with
  | nil => simp
  | cons head rest ih =>
      obtain ⟨k', v⟩ := head
      by_cases hk : k = k'
      · subst hk
        simp
      · have hk' : (k == k') = false := by simpa using hk
        simp [List.lookup_cons, hk', ih]

theorem find?_mapValues (m : NameMap α) (f : String → α → α) (k : String) :
    (m.mapValues f).find? k = (m.find? k).map (f k) :=
  lookup_map_values f k m.entries

theorem contains_filterKeys (m : NameMap α) (p : String → Bool) (k : String) :
    (m.filterKeys p).contains k = (p k && m.contains k) := by
  unfold contains
  rw [find?_filterKeys]
  by_cases hp : p k <;> simp [hp]

theorem contains_mapValues (m : NameMap α) (f : String → α → α) (k : String) :
    (m.mapValues f).contains k = m.contains k := by
  unfold contains
  rw [find?_mapValues, Option.isSome_map]

theorem contains_alter (m : NameMap α) (key : String) (f : Option α → α) (k : String) :
    (m.alter key f).contains k = (k == key || m.contains k) := by
  unfold contains
  rw [find?_alter]
  by_cases h : k = key
  · simp [h]
  · simp [h]

theorem contains_iff_mem_keys (m : NameMap α) (k : String) :
    m.contains k = true ↔ k ∈ m.keys := by
  unfold contains find? keys
  rw [List.lookup_isSome_iff, List.mem_map]
  constructor
  · rintro ⟨e, he, heq⟩
    exact ⟨e, he, (beq_iff_eq.1 heq).symm⟩
  · rintro ⟨e, he, heq⟩
    exact ⟨e, he, beq_iff_eq.2 heq.symm⟩

end NameMap

namespace NameSet

theorem contains_add (s : NameSet) (name k : String) :
    (s.add name).contains k = (k == name || s.contains k) :=
  NameMap.contains_alter s name _ k

theorem contains_addAll (s : NameSet) (names : List String) (k : String) :
    (s.addAll names).contains k = (names.contains k || s.contains k) := by
  induction names generalizing s with
  | nil => rfl
  | cons name rest ih =>
      have hstep : s.addAll (name :: rest) = (s.add name).addAll rest := rfl
      rw [hstep, ih, contains_add, List.contains_cons]
      cases k == name <;> cases rest.contains k <;> rfl

theorem contains_union (s t : NameSet) (k : String) :
    (s.union t).contains k = (s.contains k || t.contains k) := by
  have hkeys : t.keys.contains k = t.contains k := by
    rw [Bool.eq_iff_iff, List.contains_iff_mem, NameMap.contains_iff_mem_keys]
  rw [union, contains_addAll, hkeys, Bool.or_comm]

theorem contains_lowered (names : List String) (k : String) :
    (lowered names).contains k = (names.map String.toLower).contains k := by
  rw [lowered, contains_addAll]
  exact Bool.or_false _

end NameSet

end SafeReadme
