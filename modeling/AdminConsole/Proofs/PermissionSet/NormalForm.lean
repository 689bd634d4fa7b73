import AdminConsole.Proofs.PermissionSet.Canonical
import AdminConsole.Proofs.PermissionSet.Separation

/-!
# The set of the identifiers that were added

A granted set keeps of its history which identifiers were added to it, as text or as permissions, and nothing of
their order or of how often each of them came. This holds unless a stored set was read: `build_isSetOf_added`.
-/

namespace AdminConsole.PermissionSet

/-! ## What a history adds -/

/-- The identifiers that a call adds. -/
def Operation.identifiers : Operation → List String
  | new => []
  | ofNames names => names
  | ofPermissions ps => ps.map Permission.wire
  | insert p => [p.wire]
  | insertName name => [name]
  | load _ => []

/-- The identifiers added by the last call that replaced the set and by those that came after it. -/
def added (ops : List Operation) : List String :=
  ops.foldl (fun names op => if op.replaces then op.identifiers else names ++ op.identifiers) []

/-- No call of the history reads a stored set. -/
def Unstored (ops : List Operation) : Prop := ∀ v, Operation.load v ∉ ops

/-- The list has the permissions that are granted in the order of the catalog, and after them the other identifiers
in the order of their code points, none of them twice. -/
def Arranges (names : List String) (granted : Permission → Prop) (other : String → Prop) : Prop :=
  ∃ (known : List Permission) (others : List String), names = known.map Permission.wire ++ others ∧
    known.Sublist Permission.all ∧ others.Pairwise (· < ·) ∧
    (∀ p, p ∈ known ↔ granted p) ∧ ∀ name, name ∈ others ↔ other name

/-- The set answers as that of the identifiers in the list does. -/
structure IsSetOf (s : PermissionSet) (names : List String) : Prop where
  contains_iff : ∀ p, s.contains p = true ↔ p.wire ∈ names
  answer?_insert : ∀ p, s.answer? (.insert p) = some (decide (p.wire ∉ names))
  answer?_insertName : ∀ name, s.answer? (.insertName name) = some (decide (name ∉ names))
  /-- Every identifier is listed once. -/
  count_names : ∀ name, s.names.count name = if name ∈ names then 1 else 0
  arranges : Arranges s.names (fun p => p.wire ∈ names)
    fun name => name ∈ names ∧ ∀ p : Permission, p.wire ≠ name
  ofNames_names : ofNames s.names = s

/-- The set keeps its parts separate, and they hold the identifiers in the list. -/
structure Holds (s : PermissionSet) (names : List String) : Prop where
  separated : s.Separated
  mem_names : ∀ name, name ∈ s.names ↔ name ∈ names

section
variable {s s' : PermissionSet} {p : Permission} {name : String} {names names' : List String} {op : Operation}
  {ops : List Operation}

@[simp] theorem added_append_singleton : added (ops ++ [op]) =
    if op.replaces then op.identifiers else added ops ++ op.identifiers := by
  simp [added]

theorem arranges_names : Arranges s.names (· ∈ s) (· ∈ s.unrecognized) :=
  ⟨s.known.toList, s.unrecognized.toList, rfl, sublist_all_iff.2 s.known.increasing, s.unrecognized.increasing,
    fun _ => Iff.rfl, fun _ => Iff.rfl⟩

/-! ## One call -/

theorem mem_names_insert : name ∈ (s.insert p).names ↔ name = p.wire ∨ name ∈ s.names := by
  have h : s.insertName p.wire = s.insert p := by simp [insertName]
  rw [← h, mem_names_insertName]

theorem mem_names_ofPermissions {ps : List Permission} :
    name ∈ (ofPermissions ps).names ↔ name ∈ ps.map Permission.wire := by
  have hknown : ∀ p, p ∈ (ofPermissions ps).known.toList ↔ p ∈ ps := fun _ => OrderedSet.mem_ofList
  have hother : (ofPermissions ps).unrecognized.toList = [] := rfl
  simp [PermissionSet.names, hknown, hother]

theorem holds_ofNames : (ofNames names).Holds names := ⟨separated_ofNames, fun _ => mem_names_ofNames⟩

theorem Holds.perform (h : s.Holds names) (hload : ∀ v, op ≠ .load v) :
    (s.perform op).Holds (if op.replaces then op.identifiers else names ++ op.identifiers) := by
  cases op with
  | new => exact ⟨separated_empty, fun _ => Iff.rfl⟩
  | ofNames names => exact holds_ofNames
  | ofPermissions ps => exact ⟨separated_ofPermissions, fun _ => mem_names_ofPermissions⟩
  | insert p =>
    refine ⟨separated_insert.2 h.separated, fun name => mem_names_insert.trans ?_⟩
    simp [Operation.replaces, Operation.identifiers, h.mem_names, or_comm]
  | insertName other =>
    refine ⟨separated_insertName.2 h.separated, fun name => mem_names_insertName.trans ?_⟩
    simp [Operation.replaces, Operation.identifiers, h.mem_names, or_comm]
  | load v => exact absurd rfl (hload v)

/-! ## A whole history -/

theorem holds_build (h : Unstored ops) : (build ops).Holds (added ops) := by
  induction ops using List.reverseRecOn with
  | nil => exact ⟨separated_empty, fun _ => Iff.rfl⟩
  | append_singleton ops op ih =>
    rw [build_append_singleton, added_append_singleton]
    have hbefore : Unstored ops := fun v hv => h v (List.mem_append_left _ hv)
    refine (ih hbefore).perform ?_
    rintro v rfl
    exact h v (List.mem_append_right _ List.mem_cons_self)

/-! ## What the identifiers decide -/

theorem Holds.contains_iff (h : s.Holds names) : s.contains p = true ↔ p.wire ∈ names :=
  (h.separated.consistent.contains_iff p).trans (h.mem_names p.wire)

theorem Holds.mem_iff (h : s.Holds names) : p ∈ s ↔ p.wire ∈ names :=
  PermissionSet.contains_iff.symm.trans h.contains_iff

/-- Of the identifiers that the server lists, those of the catalog are granted. -/
theorem mem_ofNames : p ∈ ofNames names ↔ p.wire ∈ names := holds_ofNames.mem_iff

theorem Holds.lacksName_eq (h : s.Holds names) : s.lacksName name = decide (name ∉ names) := by
  have hlacks := (h.separated.consistent.lacksName_iff name).trans (h.mem_names name)
  rw [Bool.eq_iff_iff, decide_eq_true_iff, ← hlacks, Bool.not_eq_false]

theorem Holds.count_names (h : s.Holds names) : s.names.count name = if name ∈ names then 1 else 0 := by
  split
  · rename_i hname
    exact List.count_eq_one_of_mem h.separated.nodup ((h.mem_names name).2 hname)
  · rename_i hname
    exact List.count_eq_zero_of_not_mem (mt (h.mem_names name).1 hname)

theorem Holds.mem_unrecognized_iff (h : s.Holds names) :
    name ∈ s.unrecognized ↔ name ∈ names ∧ ∀ p : Permission, p.wire ≠ name := by
  rw [OrderedSet.mem_def, h.separated.mem_unrecognized_iff, h.mem_names, Permission.ofWire?_eq_none_iff]

theorem Holds.arranges (h : s.Holds names) : Arranges s.names (fun p => p.wire ∈ names)
    fun name => name ∈ names ∧ ∀ p : Permission, p.wire ≠ name := by
  obtain ⟨known, others, hnames, hknown, hothers, hgranted, hother⟩ := arranges_names (s := s)
  refine ⟨known, others, hnames, hknown, hothers, fun p => ?_, fun name => ?_⟩
  · exact (hgranted p).trans h.mem_iff
  · exact (hother name).trans h.mem_unrecognized_iff

theorem Holds.ofNames_names (h : s.Holds names) : ofNames s.names = s :=
  separated_ofNames.ext h.separated fun _ => mem_names_ofNames

theorem Holds.isSetOf (h : s.Holds names) : s.IsSetOf names where
  contains_iff _ := h.contains_iff
  answer?_insert p := by
    have hcontains : s.contains p = decide (p.wire ∈ names) := by
      rw [Bool.eq_iff_iff, decide_eq_true_iff, h.contains_iff]
    rw [answer?, hcontains, decide_not]
  answer?_insertName _ := congrArg some h.lacksName_eq
  count_names _ := h.count_names
  arranges := h.arranges
  ofNames_names := h.ofNames_names

theorem Holds.eq_iff (h : s.Holds names) (h' : s'.Holds names') :
    s = s' ↔ ∀ name, name ∈ names ↔ name ∈ names' := by
  constructor
  · rintro rfl name
    rw [← h.mem_names, h'.mem_names]
  · intro hsame
    refine h.separated.ext h'.separated fun name => ?_
    rw [h.mem_names, h'.mem_names, hsame]

end

/-- A history that reads no stored set leaves the set of the identifiers that it has added, whatever their order and
however often each was added, as text or as a permission. So two histories leave the same set exactly if they have
added the same identifiers. -/
theorem build_isSetOf_added (ops ops' : List Operation) (h : Unstored ops) (h' : Unstored ops') :
    (build ops).IsSetOf (added ops) ∧
      (build ops = build ops' ↔ ∀ name, name ∈ added ops ↔ name ∈ added ops') :=
  ⟨(holds_build h).isSetOf, (holds_build h).eq_iff (holds_build h')⟩

/-- Identifiers that are listed, added one by one, repeated and given as permissions make the same set, and what was
there before a replacement is gone. -/
theorem build_isSetOf_added_mixedCalls :
    let ops : List Operation :=
      [.ofNames ["X_B", "VIEW_MEMBERS", "X_B"], .insertName "VIEW_MEMBERS", .insert .initConfig, .insertName "x_a"]
    let ops' : List Operation :=
      [.insertName "X_C", .ofPermissions [.viewMembers, .initConfig, .viewMembers], .insertName "x_a",
        .insertName "X_B"]
    Unstored ops ∧ Unstored ops' ∧ (build ops).IsSetOf (added ops) ∧ build ops = build ops' ∧
      (build ops).names = ["INIT_CONFIG", "VIEW_MEMBERS", "X_B", "x_a"] := by
  intro ops ops'
  have hops : Unstored ops := by simp [Unstored, ops]
  have hops' : Unstored ops' := by simp [Unstored, ops']
  obtain ⟨hset, hequal⟩ := build_isSetOf_added ops ops' hops hops'
  refine ⟨hops, hops', hset, hequal.2 fun name => ?_, by decide⟩
  have hadded : added ops = ["X_B", "VIEW_MEMBERS", "X_B", "VIEW_MEMBERS", "INIT_CONFIG", "x_a"] := rfl
  have hadded' : added ops' = ["VIEW_MEMBERS", "INIT_CONFIG", "VIEW_MEMBERS", "x_a", "X_B"] := rfl
  rw [hadded, hadded']
  simp only [List.mem_cons, List.not_mem_nil, or_false]
  tauto

end AdminConsole.PermissionSet
