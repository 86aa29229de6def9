import Mathlib.Data.List.Perm.Basic
import Mathlib.Data.List.Nodup

/-!
# Values in the order in which they are first seen

Tables of a report list values in the order of their first occurrence, each once: `List.eraseDups` of all
values that occur. One more value behind the others is either among them, and nothing changes, or it comes
last.
-/

set_option autoImplicit false

namespace Lexis.FirstSeen

variable {values others : List String} {value : String}

theorem nodup_eraseDups : ∀ values : List String, values.eraseDups.Nodup
  | [] => List.nodup_nil
  | value :: values => by
    rw [List.eraseDups_cons]
    exact List.nodup_cons.mpr ⟨by simp, nodup_eraseDups (values.filter fun other => !other == value)⟩
termination_by values => values.length
decreasing_by
  have := List.length_filter_le (fun other => !other == value) values
  simp only [List.length_cons]
  omega

theorem eraseDups_concat_of_mem (seen : value ∈ values) :
    (values ++ [value]).eraseDups = values.eraseDups := by
  rw [List.eraseDups_append]
  simp [List.removeAll, seen]

theorem eraseDups_concat_of_not_mem (new : value ∉ values) :
    (values ++ [value]).eraseDups = values.eraseDups ++ [value] := by
  rw [List.eraseDups_append]
  simp [List.removeAll, new, List.eraseDups_cons]

/-- In another order the same values are seen. -/
theorem eraseDups_perm (perm : values.Perm others) : values.eraseDups.Perm others.eraseDups := by
  refine (List.perm_ext_iff_of_nodup (nodup_eraseDups values) (nodup_eraseDups others)).mpr fun value => ?_
  rw [List.mem_eraseDups, List.mem_eraseDups]
  exact perm.mem_iff

end Lexis.FirstSeen
