import AdminConsole.Navigation
import Mathlib.Data.List.Nodup

/-!
# What a table guarantees

A list of entries is a table if each entry has a requirement and no key stands twice
(`firstDefect_eq_none_iff`). So a key names one entry, and every entry is open to whoever holds all
permissions.
-/

namespace AdminConsole.Navigation

section
variable {e : Entry} {entries : List Entry} {seen : List String}

/-- Behind an entry without a defect its key counts as seen. -/
theorem firstDefect_cons (hrequired : e.required ≠ []) (hnew : e.key ∉ seen) :
    firstDefect seen (e :: entries) = firstDefect (e.key :: seen) entries := by
  simp [firstDefect, hrequired, hnew]

/-- A list has no defect behind the keys `seen` if its entries have requirements and its keys are new and
different from each other. -/
theorem firstDefect_eq_none_iff :
    firstDefect seen entries = none ↔ (∀ e ∈ entries, e.required ≠ []) ∧
      (entries.map Entry.key).Nodup ∧ ∀ e ∈ entries, e.key ∉ seen := by
  induction entries generalizing seen with
  | nil => simp [firstDefect]
  | cons e entries ih =>
    by_cases hrequired : e.required = []
    · simp [firstDefect, hrequired]
    by_cases hseen : e.key ∈ seen
    · simp [firstDefect, hrequired, hseen]
    rw [firstDefect_cons hrequired hseen, ih]
    simp only [List.mem_cons, forall_eq_or_imp, List.map_cons, List.nodup_cons, List.mem_map, not_or,
      not_exists, not_and]
    -- That the key of the first entry does not come again is what it counts as seen for.
    constructor
    · rintro ⟨hothers, hnodup, hnew⟩
      exact ⟨⟨hrequired, hothers⟩, ⟨fun e' he' => (hnew e' he').1, hnodup⟩, hseen,
        fun e' he' => (hnew e' he').2⟩
    · rintro ⟨⟨-, hothers⟩, ⟨honce, hnodup⟩, -, hnew⟩
      exact ⟨hothers, hnodup, fun e' he' => ⟨honce e' he', hnew e' he'⟩⟩

end

namespace Table

variable {t : Table} {e e' : Entry}

theorem required_ne_nil (h : e ∈ t.entries) : e.required ≠ [] :=
  (firstDefect_eq_none_iff.1 t.sound).1 e h

theorem keys_nodup : t.keys.Nodup := (firstDefect_eq_none_iff.1 t.sound).2.1

theorem eq_of_key (h : e ∈ t.entries) (h' : e' ∈ t.entries) (hkey : e.key = e'.key) : e = e' :=
  List.inj_on_of_nodup_map keys_nodup h h' hkey

end Table

end AdminConsole.Navigation
