import Mathlib.Data.List.Perm.Basic
import SafeReadme.Proofs.Policy.Equality
import SafeReadme.Proofs.Policy.WellFormed

/-!
# Tables with their keys in lower case

Lower case changes no name that is in lower case already. Where no two keys of a table differ only
in case, all keys keep their values, but not always their places.
-/

namespace SafeReadme

/-! ## Names in lower case -/

theorem toList_toLower (name : String) : name.toLower.toList = name.toList.map Char.toLower := by
  have hname := Url.toLower_ofList name.toList
  rw [String.ofList_toList] at hname
  rw [hname, String.toList_ofList]

theorem IsLowered.toLower_eq {name : String} (h : IsLowered name) : name.toLower = name := by
  have hself : name.toList.map Char.toLower = name.toList.map id := by
    refine List.map_congr_left fun c hc => Text.toLower_eq_self fun hupper => ?_
    rw [← Text.isUpper_iff, h c hc] at hupper
    cases hupper
  rw [← String.toList_inj, toList_toLower, hself, List.map_id]

@[simp] theorem toLower_toLower (name : String) : name.toLower.toLower = name.toLower :=
  (isLowered_toLower name).toLower_eq

/-! ## Tables in lower case -/

namespace NameMap

variable {α β : Type}

def lowerKeys (f : α → β) (m : NameMap α) : NameMap β :=
  m.entries.foldr (fun entry lowered => lowered.insert entry.1.toLower (f entry.2)) empty

/-- No two keys differ only in letter case. -/
def DistinctKeys (m : NameMap α) : Prop :=
  (m.keys.map String.toLower).Nodup

instance (m : NameMap α) : Decidable m.DistinctKeys :=
  inferInstanceAs (Decidable (m.keys.map String.toLower).Nodup)

theorem perm_alterEntries {key : String} {es : List (String × α)} (f : Option α → α)
    (h : ∀ entry ∈ es, entry.1 ≠ key) : (alterEntries key f es).Perm ((key, f none) :: es) := by
  induction es with
  | nil => exact .refl _
  | cons head rest ih =>
      obtain ⟨k, v⟩ := head
      have hne : key ≠ k := (h (k, v) List.mem_cons_self).symm
      rw [alterEntries, if_neg hne]
      split
      · exact .refl _
      · have hrest := ih fun entry hentry => h entry (List.mem_cons_of_mem _ hentry)
        exact (hrest.cons (k, v)).trans (.swap _ _ _)

/-- Keys that do not clash in lower case keep their values. -/
theorem perm_lowerKeys {m : NameMap α} (f : α → β) (h : m.DistinctKeys) :
    (m.lowerKeys f).entries.Perm (m.entries.map fun entry => (entry.1.toLower, f entry.2)) := by
  unfold DistinctKeys keys at h
  unfold lowerKeys
  -- The induction is on entries: the tail of a table's entries is no table.
  generalize m.entries = es at h ⊢
  induction es with
  | nil => exact .refl _
  | cons entry rest ih =>
      rw [List.map_cons, List.map_cons, List.nodup_cons] at h
      rw [List.foldr_cons, List.map_cons]
      have hrest := ih h.2
      refine (perm_alterEntries _ fun e he heq => h.1 ?_).trans (hrest.cons _)
      obtain ⟨given, hgiven, rfl⟩ := List.mem_map.1 (hrest.mem_iff.1 he)
      exact List.mem_map.2 ⟨given.1, List.mem_map_of_mem hgiven, heq⟩

theorem entries_lowerKeys_eq_iff {m : NameMap α} (f : α → β) (h : m.DistinctKeys) :
    (m.lowerKeys f).entries = (m.entries.map fun entry => (entry.1.toLower, f entry.2)) ↔
      (m.keys.map String.toLower).Pairwise (· < ·) := by
  have hkeys : (m.keys.map String.toLower).Pairwise (· < ·) ↔
      (m.entries.map fun entry => (entry.1.toLower, f entry.2)).Pairwise (·.1 < ·.1) := by
    rw [keys, List.pairwise_map, List.pairwise_map, List.pairwise_map]
  rw [hkeys]
  -- Two lists in order with the same members are the same.
  refine ⟨fun heq => heq ▸ (m.lowerKeys f).ordered, fun hordered => ?_⟩
  refine (perm_lowerKeys f h).eq_of_pairwise ?_ (m.lowerKeys f).ordered hordered
  intro a b _ _ hlt hgt
  exact absurd (String.lt_trans hlt hgt) (String.lt_irrefl a.1)

theorem perm_keys_lowerKeys {m : NameMap α} (f : α → β) (h : m.DistinctKeys) :
    (m.lowerKeys f).keys.Perm (m.keys.map String.toLower) := by
  have hkeys := (perm_lowerKeys f h).map Prod.fst
  rw [List.map_map] at hkeys
  rw [keys, keys, List.map_map]
  exact hkeys

theorem mem_entries_lowerKeys {m : NameMap α} {f : α → β} (h : m.DistinctKeys)
    {entry : String × β} :
    entry ∈ (m.lowerKeys f).entries ↔
      ∃ given ∈ m.entries, (given.1.toLower, f given.2) = entry := by
  rw [(perm_lowerKeys f h).mem_iff, List.mem_map]

theorem isLowered_of_mem_lowerKeys {m : NameMap α} {f : α → β} (h : m.DistinctKeys)
    {entry : String × β} (hentry : entry ∈ (m.lowerKeys f).entries) : IsLowered entry.1 := by
  obtain ⟨given, -, rfl⟩ := (mem_entries_lowerKeys h).1 hentry
  exact isLowered_toLower given.1

theorem distinctKeys_lowerKeys {m : NameMap α} (f : α → β) (h : m.DistinctKeys) :
    (m.lowerKeys f).DistinctKeys := by
  have hkeys : (m.lowerKeys f).keys.map String.toLower = (m.lowerKeys f).keys.map id := by
    refine List.map_congr_left fun key hkey => ?_
    obtain ⟨entry, hentry, rfl⟩ := List.mem_map.1 hkey
    exact (isLowered_of_mem_lowerKeys h hentry).toLower_eq
  rw [DistinctKeys, hkeys, List.map_id]
  exact nodup_keys _

end NameMap

end SafeReadme
