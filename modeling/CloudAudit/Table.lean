/-! A table of texts under text keys, in increasing order of the keys. -/
namespace CloudAudit

structure Table where
  entries : List (String × String)
  sorted : entries.Pairwise (fun a b => a.1 < b.1)
deriving DecidableEq

namespace Table

/-- A value under a key that is there already replaces the one it finds. -/
def place (key value : String) : List (String × String) → List (String × String)
  | [] => [(key, value)]
  | (k, v) :: rest =>
    if key < k then (key, value) :: (k, v) :: rest
    else if key = k then (key, value) :: rest
    else (k, v) :: place key value rest

theorem mem_place {key value : String} {entries : List (String × String)}
    {entry : String × String} (member : entry ∈ place key value entries) :
    entry = (key, value) ∨ entry ∈ entries := by
  induction entries with
  | nil => simpa [place] using member
  | cons head rest ih =>
    obtain ⟨k, v⟩ := head
    rw [place] at member
    split at member
    · simpa using member
    · split at member
      · rcases List.mem_cons.1 member with rfl | inside
        · exact .inl rfl
        · exact .inr (.tail _ inside)
      · rcases List.mem_cons.1 member with rfl | inside
        · exact .inr (.head _)
        · exact (ih inside).imp id (.tail _)

theorem place_sorted (key value : String) {entries : List (String × String)}
    (sorted : entries.Pairwise (fun a b => a.1 < b.1)) :
    (place key value entries).Pairwise (fun a b => a.1 < b.1) := by
  induction entries with
  | nil => simp [place]
  | cons head rest ih =>
    obtain ⟨k, v⟩ := head
    obtain ⟨above, ordered⟩ := List.pairwise_cons.1 sorted
    rw [place]
    split
    case isTrue less =>
      refine List.pairwise_cons.2 ⟨fun entry inside => ?_, List.pairwise_cons.2 ⟨above, ordered⟩⟩
      rcases List.mem_cons.1 inside with rfl | inside
      · exact less
      · exact String.lt_trans less (above entry inside)
    case isFalse notLess =>
      split
      case isTrue same =>
        subst same
        exact List.pairwise_cons.2 ⟨above, ordered⟩
      case isFalse differs =>
        refine List.pairwise_cons.2 ⟨fun entry inside => ?_, ih ordered⟩
        rcases mem_place inside with rfl | inside
        · exact String.not_le.1 fun le => differs (String.le_antisymm le (String.not_lt.1 notLess))
        · exact above entry inside

def empty : Table := ⟨[], .nil⟩

def insert (table : Table) (key value : String) : Table :=
  ⟨place key value table.entries, place_sorted key value table.sorted⟩

def get? (table : Table) (key : String) : Option String := table.entries.lookup key

def contains (table : Table) (key : String) : Bool := (table.get? key).isSome

def size (table : Table) : Nat := table.entries.length

def isEmpty (table : Table) : Bool := table.entries.isEmpty

theorem get?_eq_some_iff (table : Table) (key value : String) :
    table.get? key = some value ↔ (key, value) ∈ table.entries := by
  rw [get?, List.lookup_eq_some_iff]
  constructor
  · rintro ⟨before, after, split, _⟩
    simp [split]
  · intro member
    obtain ⟨before, after, split⟩ := List.append_of_mem member
    refine ⟨before, after, split, ?_⟩
    intro entry earlier
    have ordered := split ▸ table.sorted
    have less := (List.pairwise_append.1 ordered).2.2 entry earlier (key, value) (.head _)
    simpa using (String.ne_of_lt less).symm

theorem lookup_entry (key value other : String) (rest : List (String × String)) :
    List.lookup other ((key, value) :: rest) =
      if other = key then some value else rest.lookup other := by
  by_cases same : other = key
  · simp [same]
  · rw [List.lookup_cons, beq_false_of_ne same, if_neg same]

theorem lookup_place (key value other : String) (entries : List (String × String)) :
    (place key value entries).lookup other =
      if other = key then some value else entries.lookup other := by
  induction entries with
  | nil => rw [place, lookup_entry]
  | cons head rest ih =>
    obtain ⟨k, v⟩ := head
    rw [place]
    split
    case isTrue => rw [lookup_entry]
    case isFalse =>
      split
      case isTrue same =>
        rw [lookup_entry, lookup_entry, same]
        by_cases found : other = k <;> simp [found]
      case isFalse differs =>
        rw [lookup_entry, lookup_entry, ih]
        by_cases found : other = k <;> simp [found, Ne.symm differs]

/-- An insertion changes what is found under its key, and nothing else. -/
theorem get?_insert (table : Table) (key value other : String) :
    (table.insert key value).get? other =
      if other = key then some value else table.get? other :=
  lookup_place key value other table.entries

end Table

end CloudAudit
