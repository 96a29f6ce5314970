import Mathlib.Data.List.Nodup
import Mathlib.Data.List.Perm.Subperm

set_option autoImplicit false
set_option relaxedAutoImplicit false

namespace ServiceCli

theorem exists_unused {α : Type} {candidate : Nat → α} (differ : Function.Injective candidate)
    (used : List α) (start : Nat) : ∃ k ≤ used.length, candidate (start + k) ∉ used := by
  by_contra all
  push Not at all
  have shifted : Function.Injective fun k => candidate (start + k) := by
    intro i j same
    have := differ same
    omega
  have nodup : ((List.range (used.length + 1)).map fun k => candidate (start + k)).Nodup :=
    List.nodup_range.map shifted
  have among : ((List.range (used.length + 1)).map fun k => candidate (start + k)) ⊆ used := by
    intro name member
    obtain ⟨k, below, rfl⟩ := List.mem_map.mp member
    exact all k (Nat.lt_succ_iff.mp (List.mem_range.mp below))
  have fits := (List.subperm_of_subset nodup among).length_le
  rw [List.length_map, List.length_range] at fits
  omega

end ServiceCli
