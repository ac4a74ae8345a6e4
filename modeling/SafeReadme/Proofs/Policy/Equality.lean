import SafeReadme.Policy.Basic
import SafeReadme.Proofs.Policy.Lookup

/-!
# Tables that answer alike

The keys of a table are in order, so nothing but the answers to lookups tells two tables apart. Sets
of names are equal if they have the same members, and tables of sets if they have the same tags with
the same names.
-/

namespace SafeReadme

namespace NameMap

variable {α : Type}

theorem nodup_keys (m : NameMap α) : m.keys.Nodup := by
  refine (List.pairwise_map.2 m.ordered).imp ?_
  intro a b hlt heq
  exact String.lt_irrefl b (heq ▸ hlt)

theorem nodup_entries (m : NameMap α) : m.entries.Nodup := by
  refine m.ordered.imp ?_
  intro a b hlt heq
  exact String.lt_irrefl b.1 (heq ▸ hlt)

theorem find?_eq_some_iff (m : NameMap α) (key : String) (value : α) :
    m.find? key = some value ↔ (key, value) ∈ m.entries :=
  ⟨mem_of_lookup_eq_some, lookup_eq_some_of_mem m.nodup_keys⟩

theorem eq_of_perm {m m' : NameMap α} (h : m.entries.Perm m'.entries) : m = m' := by
  have hentries : m.entries = m'.entries := by
    refine h.eq_of_pairwise ?_ m.ordered m'.ordered
    intro a b _ _ hlt hgt
    exact absurd (String.lt_trans hlt hgt) (String.lt_irrefl a.1)
  cases m
  cases m'
  simpa using hentries

theorem eq_of_find? {m m' : NameMap α} (h : ∀ key, m.find? key = m'.find? key) : m = m' := by
  apply eq_of_perm
  -- No entry comes twice, so the same members are enough for the same entries up to order.
  refine (List.perm_ext_iff_of_nodup m.nodup_entries m'.nodup_entries).2 ?_
  rintro ⟨key, value⟩
  rw [← find?_eq_some_iff, ← find?_eq_some_iff, h]

theorem eq_of_contains {s s' : NameSet} (h : ∀ name, s.contains name = s'.contains name) :
    s = s' := by
  apply eq_of_find?
  intro name
  have hname := h name
  unfold contains at hname
  cases hs : s.find? name <;> cases hs' : s'.find? name <;> simp_all

/-! ## Tables of sets -/

/-- Whether a name is in the set of a tag. -/
def lists (table : NameMap NameSet) (tag name : String) : Bool :=
  ((table.find? tag).getD empty).contains name

@[simp] theorem contains_empty (key : String) : (empty : NameMap α).contains key = false := rfl

@[simp] theorem lists_empty (tag name : String) :
    (empty : NameMap NameSet).lists tag name = false := rfl

theorem lists_filterKeys (table : NameMap NameSet) (p : String → Bool) (tag name : String) :
    (table.filterKeys p).lists tag name = (p tag && table.lists tag name) := by
  unfold lists
  rw [find?_filterKeys]
  cases p tag <;> simp

theorem eq_of_lists {table table' : NameMap NameSet}
    (hcontains : ∀ tag, table.contains tag = table'.contains tag)
    (hlists : ∀ tag, table.contains tag = true →
      ∀ name, table.lists tag name = table'.lists tag name) : table = table' := by
  apply eq_of_find?
  intro tag
  have htag := hcontains tag
  have hnames := hlists tag
  unfold contains at htag hnames
  unfold lists at hnames
  cases hfind : table.find? tag with
  | none =>
      rw [hfind, Option.isSome_none] at htag
      exact (Option.not_isSome_iff_eq_none.1 (by simp [← htag])).symm
  | some names =>
      rw [hfind, Option.isSome_some] at htag
      obtain ⟨names', hfind'⟩ := Option.isSome_iff_exists.1 htag.symm
      rw [hfind, hfind'] at hnames
      rw [hfind', Option.some.injEq]
      exact eq_of_contains (hnames rfl)

end NameMap

/-- An attribute is allowed where its element is, by the set of the element or by that of all. -/
theorem Policy.allowsAttribute_eq (p : Policy) (tag name : String) :
    p.allowsAttribute tag name =
      (p.allowsElement tag && (p.elements.lists tag name || p.globalAttributes.contains name)) := by
  unfold allowsAttribute allowsElement NameMap.lists
  cases hfind : p.elements.find? tag <;> simp [NameMap.contains, hfind]

end SafeReadme
