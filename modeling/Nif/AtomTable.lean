import Nif.Bytes
import Nif.Interface

/-!
**The table of atom names.**

Every environment of a host shares one table. An atom is the position of its name, so the same name
is the same atom everywhere, and a name once entered keeps its position.

* `intern`: the position of a name, entered at the end if it is new; refused if it is too long, or
  new while the table is full.
* `index?`, `name?`: the two directions of the table, each with its own record, a map and a vector.
* `limit_of_intern`: entering a name keeps the limit.
-/

namespace Nif

/-- Why a name gets no atom. -/
inductive AtomRefusal where
  /-- The name has this many bytes, more than an atom may have. -/
  | tooLong (bytes : Nat)
  /-- The table holds this many atoms, its limit. -/
  | tableFull (limit : Nat)
deriving DecidableEq

def AtomRefusal.message : AtomRefusal → String
  | .tooLong bytes => s!"atom name of {bytes} bytes exceeds the maximum atom length"
  | .tableFull limit => s!"atom table is full ({limit} atoms)"

/-- Distinct names in the order they were entered, at most `limit` of them, and the positions by
name. -/
structure AtomTable where
  limit : Nat
  /-- The names; an atom is a position in this list. -/
  names : List Bytes := []
  /-- The position of each name, the latest name first. -/
  byName : List (Bytes × Nat) := []
  /-- The positions are those at which the names stand. -/
  agrees : ∀ name, byName.lookup name = names.idxOf? name := by exact fun _ => rfl
  nodup : names.Nodup := by simp
  size_le : names.length ≤ limit := by simp
  short : ∀ name ∈ names, name.length ≤ Interface.maxAtomLength := by simp

namespace AtomTable

/-- A table without names. -/
def empty (limit : Nat) : AtomTable := { limit }

def size (table : AtomTable) : Nat := table.names.length

/-- The position of a name that is in the table. -/
def index? (table : AtomTable) (name : Bytes) : Option Nat := table.byName.lookup name

def name? (table : AtomTable) (index : Nat) : Option Bytes := table.names[index]?

/-- A name is found where it stands. -/
theorem index?_eq_idxOf? (table : AtomTable) (name : Bytes) :
    table.index? name = table.names.idxOf? name := table.agrees name

theorem index?_eq_none_iff {table : AtomTable} {name : Bytes} :
    table.index? name = none ↔ name ∉ table.names := by
  simp [index?_eq_idxOf?, List.idxOf?_eq_none_iff]

/-- One more name, at the end of the names and with its position. -/
def append (table : AtomTable) (name : Bytes) (absent : name ∉ table.names)
    (room : table.size < table.limit) (fits : name.length ≤ Interface.maxAtomLength) :
    AtomTable where
  limit := table.limit
  names := table.names ++ [name]
  byName := (name, table.size) :: table.byName
  agrees := by
    intro other
    have last : (table.names ++ [name]).idxOf? other =
        (table.names.idxOf? other).or (([name].idxOf? other).map (· + table.size)) :=
      List.findIdx?_append
    rw [last]
    by_cases same : other = name
    · subst same
      simp [List.idxOf?_eq_none_iff.mpr absent, List.idxOf?_cons]
    · have apart : (other == name) = false := beq_eq_false_iff_ne.mpr same
      rw [List.lookup_cons, apart, table.agrees]
      simp [List.idxOf?_cons, Ne.symm same]
  nodup := by
    rw [List.nodup_append]
    refine ⟨table.nodup, by simp, ?_⟩
    intro other member last lastMember
    obtain rfl := List.mem_singleton.mp lastMember
    exact fun equal => absent (equal ▸ member)
  size_le := by
    simp only [List.length_append, List.length_cons, List.length_nil]
    exact room
  short := by
    intro other member
    rcases List.mem_append.mp member with old | new
    · exact table.short other old
    · exact List.mem_singleton.mp new ▸ fits

/-- The position of the name, and the table that holds it there. The length is checked first, and a
name that is already in the table is found even when the table is full. -/
def intern (table : AtomTable) (name : Bytes) : Except AtomRefusal (Nat × AtomTable) :=
  if fits : name.length ≤ Interface.maxAtomLength then
    match found : table.index? name with
    | some index => .ok (index, table)
    | none =>
      if room : table.size < table.limit then
        .ok (table.size, table.append name (index?_eq_none_iff.mp found) room fits)
      else .error (.tableFull table.limit)
  else .error (.tooLong name.length)

/-- The limit of a table never changes. -/
theorem limit_of_intern {table after : AtomTable} {name : Bytes} {index : Nat}
    (interned : table.intern name = .ok (index, after)) : after.limit = table.limit := by
  unfold intern at interned
  split at interned
  · split at interned
    · obtain ⟨-, rfl⟩ := Prod.mk.inj (Except.ok.inj interned)
      rfl
    · split at interned
      · obtain ⟨-, rfl⟩ := Prod.mk.inj (Except.ok.inj interned)
        rfl
      · cases interned
  · cases interned

end AtomTable

end Nif
