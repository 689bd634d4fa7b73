import AdminConsole.Json.Decode

/-!
# What the readers accept

Each reader is a function that fails; here stands which values it accepts and what it makes of them.
-/

namespace AdminConsole.Json

variable {α β ε : Type} {a : α} {b : β} {name : String} {members : List (String × Json)}
  {d : Decoder α} {v : Json}

/-- A reading in two steps succeeds if both do. -/
theorem bind_eq_ok_iff {x : Except ε α} {f : α → Except ε β} :
    x >>= f = .ok b ↔ ∃ a, x = .ok a ∧ f a = .ok b := by
  cases x with
  | ok a => simp [bind, Except.bind]
  | error e => simp [bind, Except.bind]

theorem map_eq_ok_iff {x : Except ε α} {f : α → β} :
    f <$> x = .ok b ↔ ∃ a, x = .ok a ∧ f a = b := by
  cases x with
  | ok a => simp [Functor.map, Except.map]
  | error e => simp [Functor.map, Except.map]

theorem Decoder.string_eq_ok_iff {s : String} : Decoder.string v = .ok s ↔ v = str s := by
  cases v <;> simp [Decoder.string]

/-- If the items are exactly what `write` makes of them, so is the list. -/
theorem Decoder.list_eq_ok_iff {write : α → Json} {l : List α}
    (exact : ∀ v a, d v = .ok a ↔ v = write a) :
    Decoder.list d v = .ok l ↔ v = arr (l.map write) := by
  cases v with
  | arr items =>
    simp only [Decoder.list, arr.injEq]
    induction items generalizing l with
    | nil => cases l <;> simp [List.mapM_nil, pure, Except.pure]
    | cons item items ih =>
      simp only [List.mapM_cons, bind_eq_ok_iff, exact, ih]
      cases l <;> simp [pure, Except.pure]
  | null | bool _ | int _ | str _ | obj _ => simp [Decoder.list]

theorem Decoder.strings_eq_ok_iff {l : List String} :
    Decoder.list Decoder.string v = .ok l ↔ v = strings l :=
  Decoder.list_eq_ok_iff fun _ _ => Decoder.string_eq_ok_iff

theorem optional_eq_ok_some_iff :
    optional d name members = .ok (some a) ↔ ∃ v, member? name members = some v ∧ d v = .ok a := by
  unfold optional
  cases member? name members with
  | none => simp
  | some v => simp [map_eq_ok_iff]

theorem present_eq_ok_iff {x : Option α} : present name x = .ok a ↔ x = some a := by
  cases x <;> simp [present]

theorem optionalItem_eq_ok_some_iff {i : Nat} {items : List Json} :
    optionalItem d i items = .ok (some a) ↔ ∃ v, items[i]? = some v ∧ d v = .ok a := by
  unfold optionalItem
  cases items[i]? with
  | none => simp
  | some v => simp [map_eq_ok_iff]

theorem noMoreThan_eq_ok_iff {fields : Nat} {items : List Json} {u : Unit} :
    noMoreThan fields items = .ok u ↔ items.length ≤ fields := by
  unfold noMoreThan
  split
  · simp; omega
  · simp; omega

end AdminConsole.Json
