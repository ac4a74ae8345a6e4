/-!
# Tables and sets of names

A table keeps its keys in strictly increasing order, so that two tables with the same entries are
equal, and listing the keys lists them sorted.
-/

namespace SafeReadme

structure NameMap (α : Type) where
  entries : List (String × α)
  ordered : entries.Pairwise (fun a b => a.1 < b.1)
  deriving DecidableEq

namespace NameMap

variable {α : Type}

/-- Gives `key` the value that `f` makes of its value so far, and keeps the order. -/
def alterEntries (key : String) (f : Option α → α) : List (String × α) → List (String × α)
  | [] => [(key, f none)]
  | (k, v) :: rest =>
      if key < k then (key, f none) :: (k, v) :: rest
      else if key = k then (k, f (some v)) :: rest
      else (k, v) :: alterEntries key f rest

theorem key_of_mem_alterEntries {key : String} {f : Option α → α} {es : List (String × α)}
    {e : String × α} (h : e ∈ alterEntries key f es) : e.1 = key ∨ ∃ e' ∈ es, e.1 = e'.1 := by
  induction es with
  | nil => simp [alterEntries] at h; simp [h]
  | cons head rest ih =>
      obtain ⟨k, v⟩ := head
      simp only [alterEntries] at h
      split at h
      · rcases List.mem_cons.1 h with rfl | h
        · exact .inl rfl
        · exact .inr ⟨e, h, rfl⟩
      · split at h
        · rcases List.mem_cons.1 h with rfl | h
          · exact .inr ⟨(k, v), List.mem_cons_self, rfl⟩
          · exact .inr ⟨e, List.mem_cons_of_mem _ h, rfl⟩
        · rcases List.mem_cons.1 h with rfl | h
          · exact .inr ⟨(k, v), List.mem_cons_self, rfl⟩
          · rcases ih h with h | ⟨e', he', h⟩
            · exact .inl h
            · exact .inr ⟨e', List.mem_cons_of_mem _ he', h⟩

theorem ordered_alterEntries (key : String) (f : Option α → α) {es : List (String × α)}
    (h : es.Pairwise (fun a b => a.1 < b.1)) :
    (alterEntries key f es).Pairwise (fun a b => a.1 < b.1) := by
  induction es with
  | nil => simp [alterEntries]
  | cons head rest ih =>
      obtain ⟨k, v⟩ := head
      obtain ⟨hk, hrest⟩ := List.pairwise_cons.1 h
      simp only [alterEntries]
      split
      next hlt =>
        refine List.pairwise_cons.2 ⟨fun e he => ?_, h⟩
        rcases List.mem_cons.1 he with rfl | he
        · exact hlt
        · exact String.lt_trans hlt (hk e he)
      next hnlt =>
        split
        · exact List.pairwise_cons.2 ⟨hk, hrest⟩
        next hne =>
          refine List.pairwise_cons.2 ⟨fun e he => ?_, ih hrest⟩
          rcases key_of_mem_alterEntries he with h | ⟨e', he', h⟩
          · have hle : k ≤ key := String.not_lt.1 hnlt
            show k < e.1
            rw [h]
            exact Decidable.byContradiction fun hc =>
              hne (String.le_antisymm (String.not_lt.1 hc) hle)
          · show k < e.1
            rw [h]
            exact hk e' he'

def empty : NameMap α :=
  ⟨[], .nil⟩

instance : Inhabited (NameMap α) := ⟨empty⟩

def alter (m : NameMap α) (key : String) (f : Option α → α) : NameMap α :=
  ⟨alterEntries key f m.entries, ordered_alterEntries key f m.ordered⟩

def insert (m : NameMap α) (key : String) (value : α) : NameMap α :=
  m.alter key fun _ => value

def find? (m : NameMap α) (key : String) : Option α :=
  m.entries.lookup key

def contains (m : NameMap α) (key : String) : Bool :=
  (m.find? key).isSome

def filterKeys (m : NameMap α) (p : String → Bool) : NameMap α :=
  ⟨m.entries.filter (fun e => p e.1), m.ordered.filter _⟩

def erase (m : NameMap α) (key : String) : NameMap α :=
  m.filterKeys (· != key)

def mapValues (m : NameMap α) (f : String → α → α) : NameMap α :=
  ⟨m.entries.map (fun e => (e.1, f e.1 e.2)), List.pairwise_map.2 m.ordered⟩

def keys (m : NameMap α) : List String :=
  m.entries.map (·.1)

end NameMap

abbrev NameSet : Type := NameMap Unit

namespace NameSet

def add (s : NameSet) (name : String) : NameSet :=
  s.insert name ()

def addAll (s : NameSet) (names : List String) : NameSet :=
  names.foldl add s

def union (s t : NameSet) : NameSet :=
  s.addAll t.keys

def lowered (names : List String) : NameSet :=
  addAll NameMap.empty (names.map String.toLower)

end NameSet

end SafeReadme
