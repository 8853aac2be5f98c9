import Mathlib.Data.List.Forall2

/-!
Steps that may fail, one after the other: the whole succeeds when every step does, and fails as
the first step that fails.
-/

namespace Supervision.Outcome

variable {ε α β : Type}

theorem bind_eq_ok_iff {step : Except ε α} {next : α → Except ε β} {result : β} :
    (step >>= next) = .ok result ↔ ∃ value, step = .ok value ∧ next value = .ok result := by
  cases step <;> simp [bind, Except.bind]

theorem bind_eq_error_iff {step : Except ε α} {next : α → Except ε β} {error : ε} :
    (step >>= next) = .error error ↔
      step = .error error ∨ ∃ value, step = .ok value ∧ next value = .error error := by
  cases step <;> simp [bind, Except.bind]

theorem pure_eq_ok_iff {value result : α} : (pure value : Except ε α) = .ok result ↔ value = result := by
  simp [pure, Except.pure]

theorem pure_ne_error {value : α} {error : ε} : (pure value : Except ε α) ≠ .error error := by
  simp [pure, Except.pure]

theorem exists_eq_ok_of_isOk {step : Except ε α} (succeeds : step.isOk = true) :
    ∃ value, step = .ok value := by
  cases step with
  | error error => exact absurd succeeds Bool.false_ne_true
  | ok value => exact ⟨value, rfl⟩

theorem exists_eq_ok_of_any {step : Except ε α} {test : α → Bool}
    (passes : step.toOption.any test = true) : ∃ value, step = .ok value ∧ test value = true := by
  cases step with
  | error error => exact absurd passes Bool.false_ne_true
  | ok value => exact ⟨value, rfl, passes⟩

def check (step : Except ε α) : Except ε Unit :=
  step.map fun _ => ()

theorem check_eq_ok_iff {step : Except ε α} : check step = .ok () ↔ ∃ value, step = .ok value := by
  cases step <;> simp [check, Except.map]

theorem check_eq_error_iff {step : Except ε α} {error : ε} :
    check step = .error error ↔ step = .error error := by
  cases step <;> simp [check, Except.map]

theorem check_pure {value : α} : check (pure value : Except ε α) = pure () :=
  rfl

theorem check_bind {step : Except ε α} {next : α → Except ε β} :
    check (step >>= next) = step >>= fun value => check (next value) := by
  cases step <;> rfl

theorem check_then {step : Except ε α} {next : Except ε β} :
    (check step >>= fun _ => next) = step >>= fun _ => next := by
  cases step <;> rfl

theorem mapError_eq_ok_iff {ε' : Type} {step : Except ε α} {change : ε → ε'} {result : α} :
    step.mapError change = .ok result ↔ step = .ok result := by
  cases step <;> simp [Except.mapError]

theorem mapError_bind {ε' : Type} {step : Except ε α} {next : α → Except ε β} {change : ε → ε'} :
    (step >>= next).mapError change =
      step.mapError change >>= fun value => (next value).mapError change := by
  cases step <;> rfl

/-- All items pass up to one, at a position counted from zero, that stops. -/
def StopsAt (passes : α → Prop) (stops : Nat → α → Prop) (items : List α) : Prop :=
  ∃ before item after, items = before ++ item :: after ∧
    (∀ earlier ∈ before, passes earlier) ∧ stops before.length item

theorem not_stopsAt_nil {passes : α → Prop} {stops : Nat → α → Prop} :
    ¬StopsAt passes stops [] := by
  rintro ⟨before, item, after, equal, -⟩
  simp at equal

theorem stopsAt_cons_iff {passes : α → Prop} {stops : Nat → α → Prop} {first : α}
    {items : List α} :
    StopsAt passes stops (first :: items) ↔
      stops 0 first ∨ passes first ∧ StopsAt passes (fun position => stops (position + 1)) items := by
  constructor
  · rintro ⟨before, item, after, equal, earlier, stopped⟩
    cases before with
    | nil =>
        obtain ⟨rfl, -⟩ := List.cons.inj equal
        exact Or.inl stopped
    | cons other before =>
        obtain ⟨rfl, rfl⟩ := List.cons.inj equal
        obtain ⟨passed, others⟩ := List.forall_mem_cons.mp earlier
        exact Or.inr ⟨passed, before, item, after, rfl, others, stopped⟩
  · rintro (stopped | ⟨passed, before, item, after, rfl, others, stopped⟩)
    · exact ⟨[], first, items, rfl, by simp, stopped⟩
    · exact ⟨first :: before, item, after, rfl, List.forall_mem_cons.mpr ⟨passed, others⟩, stopped⟩

theorem exists_not_iff_stopsAt {passes : α → Prop} {items : List α} :
    (∃ item ∈ items, ¬passes item) ↔ StopsAt passes (fun _ item => ¬passes item) items := by
  induction items with
  | nil => simp [not_stopsAt_nil]
  | cons first items ih =>
      rw [stopsAt_cons_iff, ← ih, List.exists_mem_cons_iff]
      by_cases passed : passes first <;> simp [passed]

theorem stopsAt_iff_getElem? {passes : α → Prop} {stops : Nat → α → Prop} {items : List α} :
    StopsAt passes stops items ↔
      ∃ index item, items[index]? = some item ∧
        (∀ earlier < index, ∀ other, items[earlier]? = some other → passes other) ∧
        stops index item := by
  constructor
  · rintro ⟨before, item, after, rfl, passed, stopped⟩
    refine ⟨before.length, item, by simp, ?_, stopped⟩
    intro earlier less other found
    rw [List.getElem?_append_left less] at found
    exact passed other (List.mem_of_getElem? found)
  · rintro ⟨index, item, found, passed, stopped⟩
    obtain ⟨inside, rfl⟩ := List.getElem?_eq_some_iff.mp found
    refine ⟨items.take index, items[index], items.drop (index + 1), ?_, ?_, ?_⟩
    · rw [← List.drop_eq_getElem_cons inside, List.take_append_drop]
    · intro other member
      obtain ⟨earlier, bound, rfl⟩ := List.mem_take_iff_getElem.mp member
      have less : earlier < index := by omega
      exact passed earlier less _ (List.getElem?_eq_getElem (by omega))
    · rwa [List.length_take_of_le (Nat.le_of_lt inside)]

/-- In a list in order, where the position does not matter, the first item that does not pass is
the least one. -/
theorem stopsAt_iff_least {passes stops : α → Prop} {before : α → α → Prop} {items : List α}
    (ordered : items.Pairwise before) (asymmetric : ∀ left right, before left right → ¬before right left) :
    StopsAt passes (fun _ => stops) items ↔
      ∃ item ∈ items, stops item ∧ ∀ other ∈ items, ¬passes other → ¬before other item := by
  constructor
  · rintro ⟨front, item, back, rfl, passed, stopped⟩
    obtain ⟨-, later, -⟩ := List.pairwise_append.mp ordered
    refine ⟨item, by simp, stopped, fun other member bad => ?_⟩
    rcases List.mem_append.mp member with earlier | member
    · exact absurd (passed other earlier) bad
    · rcases List.mem_cons.mp member with rfl | member
      · exact fun circle => asymmetric _ _ circle circle
      · exact asymmetric _ _ ((List.pairwise_cons.mp later).1 other member)
  · rintro ⟨item, member, stopped, least⟩
    obtain ⟨front, back, rfl⟩ := List.append_of_mem member
    refine ⟨front, item, back, rfl, fun earlier inside => ?_, stopped⟩
    by_contra bad
    exact least earlier (by simp [inside]) bad
      ((List.pairwise_append.mp ordered).2.2 earlier inside item List.mem_cons_self)

theorem exists_forall₂_iff {related : α → β → Prop} {items : List α} :
    (∃ values, List.Forall₂ related items values) ↔ ∀ item ∈ items, ∃ value, related item value := by
  induction items with
  | nil => simp
  | cons first items ih =>
      rw [List.forall_mem_cons, ← ih]
      constructor
      · rintro ⟨values, all⟩
        obtain ⟨value, others, here, later, -⟩ := List.forall₂_cons_left_iff.mp all
        exact ⟨⟨value, here⟩, others, later⟩
      · rintro ⟨⟨value, here⟩, others, later⟩
        exact ⟨value :: others, .cons here later⟩

theorem forall₂_map_map_of_forall {γ : Type} {related : β → γ → Prop} {first : α → β}
    {second : α → γ} (items : List α) (all : ∀ item, related (first item) (second item)) :
    List.Forall₂ related (items.map first) (items.map second) := by
  rw [List.forall₂_map_left_iff, List.forall₂_map_right_iff, List.forall₂_same]
  exact fun item _ => all item

theorem forall₂_append_iff {related : α → β → Prop} {first second : List α} {values : List β} :
    List.Forall₂ related (first ++ second) values ↔
      ∃ front back, List.Forall₂ related first front ∧ List.Forall₂ related second back ∧
        front ++ back = values := by
  constructor
  · intro all
    refine ⟨values.take first.length, values.drop first.length, ?_, ?_,
      List.take_append_drop _ _⟩
    · exact (List.forall₂_take_append _ _ _ all.flip).flip
    · exact (List.forall₂_drop_append _ _ _ all.flip).flip
  · rintro ⟨front, back, left, right, rfl⟩
    exact List.rel_append left right

/-- Values of items that are spread out are the values of each, one part after the other. -/
theorem forall₂_flatMap_iff {γ : Type} {related : β → γ → Prop} {spread : α → List β}
    {items : List α} {values : List γ} :
    List.Forall₂ related (items.flatMap spread) values ↔
      ∃ parts, List.Forall₂ (fun item part => List.Forall₂ related (spread item) part) items parts ∧
        parts.flatten = values := by
  induction items generalizing values with
  | nil => simp [eq_comm]
  | cons first items ih =>
      rw [List.flatMap_cons, forall₂_append_iff]
      simp only [ih, List.forall₂_cons_left_iff]
      constructor
      · rintro ⟨front, back, here, ⟨parts, later, rfl⟩, rfl⟩
        exact ⟨front :: parts, ⟨front, parts, here, later, rfl⟩, rfl⟩
      · rintro ⟨_, ⟨front, parts, here, later, rfl⟩, rfl⟩
        exact ⟨front, parts.flatten, here, ⟨parts, later, rfl⟩, rfl⟩

theorem forall₂_eq_ok_iff {step : α → Except ε β} {items : List α} {values : List β} :
    List.Forall₂ (fun item value => step item = .ok value) items values ↔
      items.map step = values.map .ok := by
  rw [← List.forall₂_eq_eq_eq, List.forall₂_map_left_iff, List.forall₂_map_right_iff]

theorem map_eq_map_of_forall₂ {γ : Type} {related : α → β → Prop} {left : α → γ} {right : β → γ}
    {items : List α} {values : List β} (all : List.Forall₂ related items values)
    (agree : ∀ item value, related item value → right value = left item) :
    values.map right = items.map left := by
  induction all with
  | nil => rfl
  | cons here _ ih => rw [List.map_cons, List.map_cons, agree _ _ here, ih]

theorem forM_eq_error_iff {items : List α} {step : α → Except ε Unit} {error : ε} :
    items.forM step = .error error ↔
      StopsAt (fun item => step item = .ok ()) (fun _ item => step item = .error error) items := by
  induction items with
  | nil => simp [List.forM, pure_ne_error, not_stopsAt_nil]
  | cons first items ih =>
      have single : (∃ value, step first = .ok value) ↔ step first = .ok () :=
        ⟨fun ⟨(), passed⟩ => passed, fun passed => ⟨(), passed⟩⟩
      rw [stopsAt_cons_iff, ← ih, ← single]
      exact bind_eq_error_iff.trans (by simp)

end Supervision.Outcome
