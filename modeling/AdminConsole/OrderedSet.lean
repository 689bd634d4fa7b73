/-!
# Sets kept as strictly increasing lists

A set of elements of a linearly ordered type, stored as the one list that names its members in
increasing order. Because the list is unique, two sets with the same members are equal, and the
order in which members were added leaves no trace.

`mem_insert` says what an insertion adds, `ext` that membership determines the set.
-/

namespace AdminConsole

/-- A finite set, as the strictly increasing list of its members. -/
structure OrderedSet (α : Type) [LT α] where
  /-- The members in increasing order. -/
  toList : List α
  increasing : toList.Pairwise (· < ·) := by exact .nil
deriving DecidableEq, Repr

namespace OrderedSet

section
variable {α : Type} [LT α]

/-- The set without members. -/
def empty : OrderedSet α := ⟨[], .nil⟩

instance : Inhabited (OrderedSet α) := ⟨empty⟩

instance : Membership α (OrderedSet α) := ⟨fun s a => a ∈ s.toList⟩

def size (s : OrderedSet α) : Nat := s.toList.length

def isEmpty (s : OrderedSet α) : Bool := s.toList.isEmpty

def contains [DecidableEq α] (s : OrderedSet α) (a : α) : Bool := decide (a ∈ s.toList)

theorem mem_def {a : α} {s : OrderedSet α} : a ∈ s ↔ a ∈ s.toList := .rfl

@[simp] theorem not_mem_empty {a : α} : ¬ a ∈ (empty : OrderedSet α) := by simp [mem_def, empty]

@[simp] theorem contains_iff [DecidableEq α] {s : OrderedSet α} {a : α} :
    s.contains a = true ↔ a ∈ s := by simp [contains, mem_def]

end

section
variable {α : Type} [LT α] [DecidableLT α]

/-- Puts `a` before the first larger element; an equal element stays and `a` is dropped. -/
def insertList (a : α) : List α → List α
  | [] => [a]
  | b :: rest =>
    if a < b then a :: b :: rest
    else if b < a then b :: insertList a rest
    else b :: rest

variable [LE α] [Std.IsLinearOrder α] [Std.LawfulOrderLT α]

theorem mem_insertList {a c : α} : ∀ {l : List α}, c ∈ insertList a l ↔ c = a ∨ c ∈ l
  | [] => by simp [insertList]
  | b :: rest => by
    unfold insertList
    split
    · simp
    · split
      · simp only [List.mem_cons, mem_insertList (l := rest)]
        constructor
        · rintro (h | h | h) <;> simp [h]
        · rintro (h | h | h) <;> simp [h]
      · rename_i h₁ h₂
        have : a = b := Std.le_antisymm (Std.not_lt.1 h₂) (Std.not_lt.1 h₁)
        subst this
        simp

theorem insertList_increasing {a : α} :
    ∀ {l : List α}, l.Pairwise (· < ·) → (insertList a l).Pairwise (· < ·)
  | [], _ => by simp [insertList]
  | b :: rest, h => by
    have hb := (List.pairwise_cons.1 h).1
    have hr := (List.pairwise_cons.1 h).2
    unfold insertList
    split
    · rename_i hab
      refine List.pairwise_cons.2 ⟨fun c hc => ?_, h⟩
      rcases List.mem_cons.1 hc with rfl | hc
      · exact hab
      · exact Std.lt_trans hab (hb c hc)
    · split
      · rename_i hba
        refine List.pairwise_cons.2 ⟨fun c hc => ?_, insertList_increasing hr⟩
        rcases mem_insertList.1 hc with rfl | hc
        · exact hba
        · exact hb c hc
      · exact h

/-- The set with `a` added; a member is not added twice. -/
def insert (s : OrderedSet α) (a : α) : OrderedSet α :=
  ⟨insertList a s.toList, insertList_increasing s.increasing⟩

/-- The set of the elements of a list, in whatever order and however often they are listed. -/
def ofList (l : List α) : OrderedSet α := l.foldl insert empty

@[simp] theorem mem_insert {s : OrderedSet α} {a c : α} : c ∈ s.insert a ↔ c = a ∨ c ∈ s :=
  mem_insertList

theorem mem_foldl_insert {c : α} :
    ∀ {l : List α} {s : OrderedSet α}, c ∈ l.foldl insert s ↔ c ∈ l ∨ c ∈ s
  | [], _ => by simp
  | a :: l, s => by
    rw [List.foldl_cons, mem_foldl_insert (l := l), mem_insert, List.mem_cons]
    constructor
    · rintro (h | h | h) <;> simp [h]
    · rintro ((h | h) | h) <;> simp [h]

@[simp] theorem mem_ofList {l : List α} {c : α} : c ∈ ofList l ↔ c ∈ l := by
  simp [ofList, mem_foldl_insert]

end

section
variable {α : Type} [LT α] [LE α] [Std.IsLinearOrder α] [Std.LawfulOrderLT α]

theorem not_mem_of_head_lt {a b : α} {l : List α} (h : (b :: l).Pairwise (· < ·)) (hab : a < b) :
    ¬ a ∈ b :: l := by
  intro ha
  rcases List.mem_cons.1 ha with rfl | ha
  · exact Std.lt_irrefl hab
  · exact Std.lt_irrefl (Std.lt_trans hab ((List.pairwise_cons.1 h).1 a ha))

theorem list_ext : ∀ {l m : List α}, l.Pairwise (· < ·) → m.Pairwise (· < ·) →
    (∀ a, a ∈ l ↔ a ∈ m) → l = m
  | [], [], _, _, _ => rfl
  | [], b :: _, _, _, h => absurd ((h b).2 (by simp)) (by simp)
  | a :: _, [], _, _, h => absurd ((h a).1 (by simp)) (by simp)
  | a :: l, b :: m, hl, hm, h => by
    have hab : a = b := by
      refine Classical.byContradiction fun hne => ?_
      by_cases hlt : a < b
      · exact not_mem_of_head_lt hm hlt ((h a).1 (by simp))
      · refine not_mem_of_head_lt hl (Std.not_le.1 fun hle => hne ?_) ((h b).2 (by simp))
        exact Std.le_antisymm hle (Std.not_lt.1 hlt)
    subst hab
    have htail : ∀ c, c ∈ l ↔ c ∈ m := by
      intro c
      have hcl := (List.pairwise_cons.1 hl).1 c
      have hcm := (List.pairwise_cons.1 hm).1 c
      constructor
      · intro hc
        rcases List.mem_cons.1 ((h c).1 (by simp [hc])) with rfl | hc'
        · exact absurd (hcl hc) Std.lt_irrefl
        · exact hc'
      · intro hc
        rcases List.mem_cons.1 ((h c).2 (by simp [hc])) with rfl | hc'
        · exact absurd (hcm hc) Std.lt_irrefl
        · exact hc'
    rw [list_ext (List.pairwise_cons.1 hl).2 (List.pairwise_cons.1 hm).2 htail]

omit [Std.IsLinearOrder α] in
theorem nodup (s : OrderedSet α) : s.toList.Nodup := by
  refine s.increasing.imp ?_
  rintro a _ h rfl
  exact Std.lt_irrefl h

/-- Sets with the same members are equal. -/
theorem ext {s t : OrderedSet α} (h : ∀ a, a ∈ s ↔ a ∈ t) : s = t := by
  obtain ⟨l, hl⟩ := s
  obtain ⟨m, hm⟩ := t
  have : l = m := list_ext hl hm h
  subst this
  rfl

end

end OrderedSet

end AdminConsole
