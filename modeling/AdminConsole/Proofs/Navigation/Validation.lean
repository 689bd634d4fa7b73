import AdminConsole.Proofs.Navigation.Table

/-!
# Which lists are tables

An entry keeps a list from being a table if it requires nothing or if its key has come before it. A list without
such an entry is the table of just its entries, and a key finds the one entry that has it. Of any other list the
first such entry is reported, and that it requires nothing rather than that its key is repeated:
`ofEntries_exact`.
-/

namespace AdminConsole.Navigation

/-- Each entry requires something, and no two have the same key. -/
structure Fit (entries : List Entry) : Prop where
  required : ∀ e ∈ entries, e.required ≠ []
  keys : entries.Pairwise fun e e' => e.key ≠ e'.key

/-- Behind the keys `seen` the entry at the place `i` is at fault: it requires nothing, or its key has come before
it. -/
structure AtFault (seen : List String) (entries : List Entry) (i : Nat) (e : Entry) : Prop where
  entry : entries[i]? = some e
  fault : e.required = [] ∨ e.key ∈ seen ++ (entries.take i).map Entry.key

/-- No entry that comes earlier is at fault. -/
def FirstFault (seen : List String) (entries : List Entry) (e : Entry) : Prop :=
  ∃ i, AtFault seen entries i e ∧ ∀ j < i, ∀ e', ¬AtFault seen entries j e'

/-- What is reported of an entry at fault. That it requires nothing comes before a repeated key. -/
def Entry.defect (e : Entry) : Defect :=
  if e.required = [] then .noRequirement e.key else .duplicateKey e.key

section
variable {a e : Entry} {entries : List Entry} {seen : List String} {d : Defect} {i : Nat}

/-! ## The first entry and the others -/

theorem atFault_zero :
    AtFault seen (a :: entries) 0 e ↔ e = a ∧ (a.required = [] ∨ a.key ∈ seen) := by
  constructor
  · rintro ⟨hentry, hfault⟩
    obtain rfl : a = e := by simpa using hentry
    exact ⟨rfl, by simpa using hfault⟩
  · rintro ⟨rfl, hfault⟩
    exact ⟨rfl, by simpa using hfault⟩

theorem atFault_succ :
    AtFault seen (a :: entries) (i + 1) e ↔ AtFault (a.key :: seen) entries i e := by
  have hkeys : e.key ∈ seen ++ ((a :: entries).take (i + 1)).map Entry.key ↔
      e.key ∈ a.key :: seen ++ (entries.take i).map Entry.key := by
    simp only [List.take_succ_cons, List.map_cons, List.cons_append, List.mem_append, List.mem_cons]
    exact or_left_comm
  constructor
  · rintro ⟨hentry, hfault⟩
    exact ⟨by simpa using hentry, hfault.imp_right hkeys.1⟩
  · rintro ⟨hentry, hfault⟩
    exact ⟨by simpa using hentry, hfault.imp_right hkeys.2⟩

theorem firstFault_cons_of_fault (h : a.required = [] ∨ a.key ∈ seen) :
    FirstFault seen (a :: entries) e ↔ e = a := by
  constructor
  · rintro ⟨i, hi, hfirst⟩
    cases i with
    | zero => exact (atFault_zero.1 hi).1
    | succ i => exact absurd (atFault_zero.2 ⟨rfl, h⟩) (hfirst 0 (Nat.succ_pos i) a)
  · rintro rfl
    exact ⟨0, atFault_zero.2 ⟨rfl, h⟩, fun j hj => absurd hj (Nat.not_lt_zero j)⟩

theorem firstFault_cons_of_fine (h : ¬(a.required = [] ∨ a.key ∈ seen)) :
    FirstFault seen (a :: entries) e ↔ FirstFault (a.key :: seen) entries e := by
  constructor
  · rintro ⟨i, hi, hfirst⟩
    cases i with
    | zero => exact absurd (atFault_zero.1 hi).2 h
    | succ i =>
      refine ⟨i, atFault_succ.1 hi, fun j hj e' he' => ?_⟩
      exact hfirst (j + 1) (Nat.succ_lt_succ hj) e' (atFault_succ.2 he')
  · rintro ⟨i, hi, hfirst⟩
    refine ⟨i + 1, atFault_succ.2 hi, fun j hj e' he' => ?_⟩
    cases j with
    | zero => exact h (atFault_zero.1 he').2
    | succ j => exact hfirst j (Nat.lt_of_succ_lt_succ hj) e' (atFault_succ.1 he')

/-- The defect that is found is that of the first entry at fault. -/
theorem firstDefect_eq_some_iff :
    firstDefect seen entries = some d ↔ ∃ e, FirstFault seen entries e ∧ d = e.defect := by
  induction entries generalizing seen with
  | nil =>
    constructor
    · nofun
    · rintro ⟨e, ⟨i, hi, -⟩, -⟩
      simpa using hi.entry
  | cons a entries ih =>
    by_cases hrequired : a.required = []
    · have hfirst : firstDefect seen (a :: entries) = some a.defect := by
        simp [firstDefect, Entry.defect, hrequired]
      simp only [firstFault_cons_of_fault (Or.inl hrequired), exists_eq_left, hfirst, Option.some.injEq]
      exact eq_comm
    by_cases hseen : a.key ∈ seen
    · have hfirst : firstDefect seen (a :: entries) = some a.defect := by
        simp [firstDefect, Entry.defect, hrequired, hseen]
      simp only [firstFault_cons_of_fault (Or.inr hseen), exists_eq_left, hfirst, Option.some.injEq]
      exact eq_comm
    have hfine : ¬(a.required = [] ∨ a.key ∈ seen) := not_or.2 ⟨hrequired, hseen⟩
    simp only [firstDefect_cons hrequired hseen, ih, firstFault_cons_of_fine hfine]

theorem firstDefect_eq_none_iff_fit : firstDefect [] entries = none ↔ Fit entries := by
  rw [firstDefect_eq_none_iff]
  constructor
  · rintro ⟨hrequired, hkeys, -⟩
    exact ⟨hrequired, List.pairwise_map.1 hkeys⟩
  · rintro ⟨hrequired, hkeys⟩
    exact ⟨hrequired, List.pairwise_map.2 hkeys, fun _ _ => List.not_mem_nil⟩

end

namespace Table

variable {t : Table} {e : Entry} {entries : List Entry} {d : Defect} {key : String}

theorem ofEntries_eq_ok_iff : ofEntries entries = .ok t ↔ t.entries = entries := by
  unfold ofEntries
  split
  · rename_i d hd
    constructor
    · nofun
    · rintro rfl
      cases t.sound.symm.trans hd
  · rename_i hnone
    constructor
    · intro h
      cases h
      rfl
    · rintro rfl
      rfl

theorem ofEntries_eq_error_iff : ofEntries entries = .error d ↔ firstDefect [] entries = some d := by
  unfold ofEntries
  split
  · rename_i d' hd'
    simp [hd']
  · rename_i hnone
    simp [hnone]

theorem exists_ofEntries_iff : (∃ t, ofEntries entries = .ok t) ↔ Fit entries := by
  rw [← firstDefect_eq_none_iff_fit]
  constructor
  · rintro ⟨t, ht⟩
    exact ofEntries_eq_ok_iff.1 ht ▸ t.sound
  · intro h
    exact ⟨⟨entries, h⟩, ofEntries_eq_ok_iff.2 rfl⟩

/-- A key finds the entry that has it. -/
theorem get?_eq_some_iff : t.get? key = some e ↔ e ∈ t.entries ∧ e.key = key := by
  constructor
  · intro h
    exact ⟨List.mem_of_find?_eq_some h, by simpa using List.find?_some h⟩
  · rintro ⟨hmem, hkey⟩
    cases hget : t.get? key with
    | none => exact absurd (beq_iff_eq.2 hkey) (List.find?_eq_none.1 hget e hmem)
    | some e' =>
      have hkey' : e'.key = key := by simpa using List.find?_some hget
      rw [eq_of_key (List.mem_of_find?_eq_some hget) hmem (hkey'.trans hkey.symm)]

theorem get?_eq_none_iff : t.get? key = none ↔ ∀ e ∈ t.entries, e.key ≠ key := by
  simp [get?, List.find?_eq_none]

end Table

/-- The report is on a broken invariant: that the entry requires nothing, if that is so, and else that its key has
come before. -/
structure Reports (d : Defect) (e : Entry) : Prop where
  defect : d = e.defect
  message : d.message = "invariant violated: " ++
    if e.required = [] then "navigation entry '" ++ e.key ++ "' has no required permissions"
    else "duplicate navigation key '" ++ e.key ++ "'"

theorem reports_iff {d : Defect} {e : Entry} : Reports d e ↔ d = e.defect := by
  refine ⟨Reports.defect, ?_⟩
  rintro rfl
  refine ⟨rfl, ?_⟩
  by_cases h : e.required = []
  · rw [Entry.defect, if_pos h, if_pos h, ← String.append_assoc, ← String.append_assoc]
    rfl
  · rw [Entry.defect, if_neg h, if_neg h, ← String.append_assoc, ← String.append_assoc]
    rfl

/-- A list of entries is a table exactly if each entry requires something and no two have the same key. The table
has just these entries in their order, and a key finds the one that has it. Any other list is refused for its first
entry at fault. -/
theorem ofEntries_exact (entries : List Entry) :
    ((∃ t, Table.ofEntries entries = .ok t) ↔ Fit entries) ∧
    (∀ t, Table.ofEntries entries = .ok t ↔ t.entries = entries) ∧
    (∀ (t : Table) key, (∀ e, t.get? key = some e ↔ e ∈ t.entries ∧ e.key = key) ∧
      (t.get? key = none ↔ ∀ e ∈ t.entries, e.key ≠ key)) ∧
    ∀ d, Table.ofEntries entries = .error d ↔ ∃ e, FirstFault [] entries e ∧ Reports d e := by
  refine ⟨Table.exists_ofEntries_iff, fun _ => Table.ofEntries_eq_ok_iff, ?_, ?_⟩
  · intro t key
    exact ⟨fun _ => Table.get?_eq_some_iff, Table.get?_eq_none_iff⟩
  · intro d
    simp only [Table.ofEntries_eq_error_iff, firstDefect_eq_some_iff, reports_iff]

end AdminConsole.Navigation
