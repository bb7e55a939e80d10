/-!
**Binary search in increasing tables.**

* `countUpTo`: how many entries of an increasing table do not exceed a value;
* `countUpTo_le`: there are no more of them than entries.
-/

namespace MessageRefs.Table

/-- Halves the stretch from `low` to `high` until the first entry above `value` is found. -/
def search (table : Array Nat) (value low high : Nat) (inside : high ≤ table.size) : Nat :=
  if stretch : low < high then
    let middle := (low + high) / 2
    if table[middle] ≤ value then search table value (middle + 1) high inside
    else search table value low middle (by omega)
  else low
termination_by high - low

/-- The number of entries of an increasing table that do not exceed a value. -/
def countUpTo (table : Array Nat) (value : Nat) : Nat :=
  search table value 0 table.size (Nat.le_refl _)

theorem search_le (table : Array Nat) (value low high : Nat) (inside : high ≤ table.size)
    (ordered : low ≤ high) : search table value low high inside ≤ high := by
  fun_induction search table value low high inside with
  | case1 low high inside stretch middle _ ih => exact ih (by omega)
  | case2 low high inside stretch middle _ ih => exact Nat.le_trans (ih (by omega)) (by omega)
  | case3 low high inside closed => omega

/-- A table holds at least as many entries as are counted. -/
theorem countUpTo_le (table : Array Nat) (value : Nat) : countUpTo table value ≤ table.size :=
  search_le table value 0 table.size _ (Nat.zero_le _)

/-- Whether a value lies in the set whose ranges begin and cease, in turn, at the entries of an
increasing table. -/
def holds (bounds : Array Nat) (value : Nat) : Bool :=
  countUpTo bounds value % 2 == 1

end MessageRefs.Table
