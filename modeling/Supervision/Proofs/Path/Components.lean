import Supervision.Path
import Supervision.Text.Split

/-!
Components of paths: the one that stands for the anchor, and one for each piece between slashes
that is neither empty nor a single dot. The path above another has all its components but the last.
-/

namespace Supervision.Path

open Text

theorem same_iff {left right : PathText} :
    same left right = true ↔ components left = components right :=
  beq_iff_eq

/-! Anchors. -/

/-- A path starts with its anchor. A leading dot is one only in front of a slash or of nothing. -/
theorem anchor_cases (path : PathText) :
    (∃ rest, path = .char '/' :: rest ∧ anchor path = [.char '/']) ∨
      (∃ rest, path = .char '.' :: rest ∧ (∀ c ∈ rest.head?, c = .char '/') ∧
        anchor path = [.char '.']) ∨
      anchor path = [] := by
  unfold anchor
  split
  · exact Or.inl ⟨_, rfl, rfl⟩
  · exact Or.inr (Or.inl ⟨_, rfl, by simp, rfl⟩)
  · exact Or.inr (Or.inl ⟨[], rfl, by simp, rfl⟩)
  · exact Or.inr (Or.inr rfl)

theorem anchor_append_drop (path : PathText) :
    anchor path ++ path.drop (anchor path).length = path := by
  rcases anchor_cases path with ⟨rest, rfl, anchorIs⟩ | ⟨rest, rfl, -, anchorIs⟩ | anchorIs <;>
    rw [anchorIs] <;> rfl

/-- What comes after a slash has no part in the anchor, and neither has the slash unless it is the
first character. -/
theorem anchor_append_slash {front : PathText} (nonempty : front ≠ []) (rest : PathText) :
    anchor (front ++ .char '/' :: rest) = anchor front := by
  match front with
  | [] => exact absurd rfl nonempty
  | [c] =>
      by_cases slash : c = .char '/'
      · rw [slash]
        rfl
      · by_cases dot : c = .char '.'
        · rw [dot]
          rfl
        · simp [anchor, slash, dot]
  | c :: d :: front =>
      by_cases slash : c = .char '/'
      · rw [slash]
        rfl
      · by_cases dot : c = .char '.' ∧ d = .char '/'
        · rw [dot.1, dot.2]
          rfl
        · simp_all [anchor]

theorem anchor_append_of_endsInSlash {front : PathText} (ends : front.getLast? = some (.char '/'))
    (rest : PathText) : anchor (front ++ rest) = anchor front := by
  obtain ⟨before, rfl⟩ := List.getLast?_eq_some_iff.mp ends
  cases before with
  | nil => rfl
  | cons c before =>
      have nonempty := List.cons_ne_nil c before
      rw [List.append_assoc, List.singleton_append, anchor_append_slash nonempty,
        anchor_append_slash nonempty]

/-! Components. -/

def anchored : PathText → List Component
  | [.char '/'] => [.root]
  | [.char '.'] => [.here]
  | _ => []

def body (text : PathText) : List Component :=
  (splitWhere (· = .char '/') text).filterMap componentOf

theorem components_eq (path : PathText) : components path = anchored (anchor path) ++ body path := by
  unfold components
  rcases anchor_cases path with ⟨_, -, anchorIs⟩ | ⟨_, -, -, anchorIs⟩ | anchorIs <;>
    rw [anchorIs] <;> rfl

theorem body_append_slash (front rest : PathText) :
    body (front ++ .char '/' :: rest) = body front ++ body rest := by
  rw [body, splitWhere_append (by simp), List.filterMap_append]
  rfl

theorem body_of_not_mem {piece : PathText} (uncut : .char '/' ∉ piece) :
    body piece = (componentOf piece).toList := by
  have single : splitWhere (· = .char '/') piece = [piece] :=
    splitWhere_eq_singleton fun c member => decide_eq_false (ne_of_mem_of_not_mem member uncut)
  rw [body, single]
  cases named : componentOf piece <;> simp [named]

theorem components_append_slash {front : PathText} (nonempty : front ≠ []) (rest : PathText) :
    components (front ++ .char '/' :: rest) = components front ++ body rest := by
  rw [components_eq, components_eq, anchor_append_slash nonempty, body_append_slash,
    List.append_assoc]

structure Names (piece : PathText) (component : Component) : Prop where
  uncut : .char '/' ∉ piece
  named : componentOf piece = some component

theorem names_of {piece : PathText} (uncut : .char '/' ∉ piece) (nonempty : piece ≠ [])
    (notDot : piece ≠ [.char '.']) : ∃ component, Names piece component := by
  by_cases up : piece = [.char '.', .char '.']
  · exact ⟨.up, uncut, by rw [up]; rfl⟩
  · exact ⟨.name piece, uncut, by simp [componentOf, nonempty, notDot, up]⟩

theorem Names.ne_root {piece : PathText} {component : Component} (names : Names piece component) :
    component ≠ .root := by
  have named := names.named
  rintro rfl
  unfold componentOf at named
  split at named
  · cases named
  · split at named <;> cases named

theorem Names.anchor_eq_nil {piece : PathText} {component : Component}
    (names : Names piece component) : anchor piece = [] := by
  rcases anchor_cases piece with ⟨rest, rfl, -⟩ | ⟨rest, rfl, starts, -⟩ | anchorIs
  · exact absurd List.mem_cons_self names.uncut
  · cases rest with
    | nil => cases names.named
    | cons c rest =>
        obtain rfl : c = .char '/' := starts c rfl
        exact absurd (by simp) names.uncut
  · exact anchorIs

theorem Names.exists_head {piece : PathText} {component : Component} (names : Names piece component) :
    ∃ c ∈ piece.head?, c ≠ .char '/' := by
  cases piece with
  | nil => cases names.named
  | cons c piece =>
      refine ⟨c, rfl, ?_⟩
      rintro rfl
      exact names.uncut List.mem_cons_self

theorem Names.anchor_cons_dot {piece : PathText} {component : Component}
    (names : Names piece component) : anchor (.char '.' :: piece) = [] := by
  obtain ⟨c, head, notSlash⟩ := names.exists_head
  rcases anchor_cases (.char '.' :: piece) with ⟨_, equal, -⟩ | ⟨_, equal, starts, -⟩ | anchorIs
  · cases (List.cons.inj equal).1
  · obtain rfl := (List.cons.inj equal).2
    exact absurd (starts c head) notSlash
  · exact anchorIs

theorem Names.anchor_append {piece : PathText} {component : Component} (names : Names piece component)
    {front : PathText} (ends : ∀ c ∈ front.getLast?, c = .char '/') :
    anchor (front ++ piece) = anchor front := by
  cases ending : front.getLast? with
  | none =>
      obtain rfl := List.getLast?_eq_none_iff.mp ending
      exact names.anchor_eq_nil
  | some c =>
      obtain rfl : c = .char '/' := ends c ending
      exact anchor_append_of_endsInSlash ending piece

theorem Names.components_append {piece : PathText} {component : Component}
    (names : Names piece component) {front : PathText} (ends : ∀ c ∈ front.getLast?, c = .char '/') :
    components (front ++ piece) = components front ++ [component] := by
  have last : body piece = [component] := by
    rw [body_of_not_mem names.uncut, names.named]
    rfl
  have inner : body (front ++ piece) = body front ++ [component] := by
    cases ending : front.getLast? with
    | none =>
        obtain rfl := List.getLast?_eq_none_iff.mp ending
        exact last
    | some c =>
        obtain rfl : c = .char '/' := ends c ending
        obtain ⟨before, rfl⟩ := List.getLast?_eq_some_iff.mp ending
        rw [List.append_assoc, List.singleton_append, body_append_slash, body_append_slash, last]
        exact congrArg (· ++ [component]) (List.append_nil _).symm
  rw [components_eq, components_eq, names.anchor_append ends, inner, List.append_assoc]

/-! The path above. -/

theorem anchor_before_slash {start text silent : PathText}
    (begins : anchor (start ++ (text ++ .char '/' :: silent)) = start) :
    start ++ text ≠ [] ∧ anchor (start ++ text) = start := by
  have nonempty : start ++ text ≠ [] := by
    intro empty
    obtain ⟨rfl, rfl⟩ := List.append_eq_nil_iff.mp empty
    cases begins
  rw [← List.append_assoc, anchor_append_slash nonempty] at begins
  exact ⟨nonempty, begins⟩

theorem components_dropSilent {start reversed : PathText}
    (begins : anchor (start ++ reversed.reverse) = start) :
    anchor (start ++ (dropSilent reversed).reverse) = start ∧
      components (start ++ (dropSilent reversed).reverse) =
        components (start ++ reversed.reverse) := by
  -- With each slash the path gets shorter and keeps its anchor.
  have shorter : ∀ {rest silent : PathText}, body silent = [] →
      anchor (start ++ (rest.reverse ++ .char '/' :: silent)) = start →
      anchor (start ++ rest.reverse) = start ∧
        components (start ++ (rest.reverse ++ .char '/' :: silent)) =
          components (start ++ rest.reverse) := by
    intro rest silent nothing longer
    obtain ⟨nonempty, same⟩ := anchor_before_slash longer
    rw [← List.append_assoc, components_append_slash nonempty, nothing, List.append_nil]
    exact ⟨same, rfl⟩
  fun_induction dropSilent reversed with
  | case1 rest ih =>
      rw [List.reverse_cons] at begins ⊢
      obtain ⟨same, equal⟩ := @shorter rest [] rfl begins
      rw [equal]
      exact ih same
  | case2 rest ih =>
      rw [List.reverse_cons, List.reverse_cons, List.append_assoc, List.singleton_append] at begins ⊢
      obtain ⟨same, equal⟩ := @shorter rest [.char '.'] rfl begins
      rw [equal]
      exact ih same
  | case3 =>
      -- A dot right behind the anchor is silent only if the anchor is a slash.
      rcases anchor_cases (start ++ [.char '.']) with
        ⟨_, _, anchorIs⟩ | ⟨_, _, _, anchorIs⟩ | anchorIs
      · obtain rfl := anchorIs.symm.trans begins
        decide
      · obtain rfl := anchorIs.symm.trans begins
        cases anchorIs
      · obtain rfl := anchorIs.symm.trans begins
        cases anchorIs
  | case4 => exact ⟨begins, rfl⟩

theorem names_of_dropSilent {reversed piece rest : PathText}
    (left : dropSilent reversed = piece ++ rest) (nonempty : piece ++ rest ≠ [])
    (uncut : .char '/' ∉ piece) (stops : ∀ c ∈ rest.head?, c = .char '/') :
    ∃ component, Names piece.reverse component := by
  fun_induction dropSilent reversed with
  | case1 rest ih => exact ih left
  | case2 rest ih => exact ih left
  | case3 => exact absurd left.symm nonempty
  | case4 path notSlash notDotSlash notDot =>
      subst left
      refine names_of (by simpa using uncut) ?_ ?_
      · intro empty
        obtain rfl := List.reverse_eq_nil_iff.mp empty
        cases rest with
        | nil => exact nonempty rfl
        | cons c rest =>
            obtain rfl : c = .char '/' := stops c rfl
            exact notSlash rest rfl
      · intro dot
        obtain rfl : piece = [.char '.'] := by simpa using dot
        cases rest with
        | nil => exact notDot rfl
        | cons c rest =>
            obtain rfl : c = .char '/' := stops c rfl
            exact notDotSlash rest rfl

theorem Names.ends_before {piece start before : PathText} {component : Component}
    (names : Names piece component) (begins : anchor (start ++ before.reverse ++ piece) = start)
    (stops : ∀ c ∈ before.head?, c = .char '/') :
    ∀ c ∈ (start ++ before.reverse).getLast?, c = .char '/' := by
  cases before with
  | nil =>
      rw [List.reverse_nil, List.append_nil] at begins ⊢
      -- The start is an anchor, and a dot in front of the piece would be none.
      rcases anchor_cases (start ++ piece) with ⟨_, -, anchorIs⟩ | ⟨_, -, -, anchorIs⟩ | anchorIs
      · obtain rfl := anchorIs.symm.trans begins
        simp
      · obtain rfl := anchorIs.symm.trans begins
        cases names.anchor_cons_dot.symm.trans begins
      · obtain rfl := anchorIs.symm.trans begins
        simp
  | cons c before =>
      obtain rfl : c = .char '/' := stops c rfl
      simp

/-- Without the characters up to its last slash, and what is silent before that, a path has all its
components but the last. -/
theorem components_above {start reversed left : PathText} (found : dropSilent reversed = left)
    (nonempty : left ≠ []) (begins : anchor (start ++ left.reverse) = start) :
    ∃ last, components (start ++ left.reverse) =
      components (start ++ (dropSilent (left.dropWhile (· ≠ .char '/'))).reverse) ++ [last] := by
  -- Backwards, the last piece goes up to the first slash.
  obtain ⟨cutAt, uncut, stops⟩ := takeWhile_dropWhile_iff.mp
    ⟨rfl, (rfl : left.dropWhile (· ≠ .char '/') = _)⟩
  generalize left.takeWhile (· ≠ .char '/') = piece at cutAt uncut
  generalize left.dropWhile (· ≠ .char '/') = before at cutAt stops ⊢
  replace stops : ∀ c ∈ before.head?, c = .char '/' := by simpa using stops
  subst cutAt
  obtain ⟨last, names⟩ := names_of_dropSilent found nonempty
    (fun member => by simpa using uncut (.char '/') member) stops
  rw [List.reverse_append, ← List.append_assoc] at begins ⊢
  have ends := names.ends_before begins stops
  rw [names.anchor_append ends] at begins
  obtain ⟨-, silent⟩ := components_dropSilent begins
  exact ⟨last, by rw [names.components_append ends, silent]⟩

/-- The path above has all components but the last. There is one unless the path is empty or the
root. -/
theorem parent?_cases (path : PathText) :
    (parent? path = none ∧ (components path = [] ∨ components path = [.root])) ∨
      ∃ directory last, parent? path = some directory ∧
        components path = components directory ++ [last] := by
  have whole := anchor_append_drop path
  rw [← (path.drop (anchor path).length).reverse_reverse] at whole
  obtain ⟨begins, equal⟩ := components_dropSilent (congrArg anchor whole)
  rw [whole] at equal
  cases left : dropSilent (path.drop (anchor path).length).reverse with
  | nil =>
      have found : parent? path = if anchor path = [.char '.'] then some [] else none := by
        simp only [parent?, left]
      rw [left, List.reverse_nil, List.append_nil] at equal
      rcases anchor_cases path with ⟨_, -, anchorIs⟩ | ⟨_, -, -, anchorIs⟩ | anchorIs
      · rw [anchorIs] at equal found
        exact Or.inl ⟨found, Or.inr equal.symm⟩
      · rw [anchorIs] at equal found
        exact Or.inr ⟨[], .here, found, equal.symm⟩
      · rw [anchorIs] at equal found
        exact Or.inl ⟨found, Or.inl equal.symm⟩
  | cons c rest =>
      have found : parent? path = some (anchor path ++
          (dropSilent ((c :: rest).dropWhile (· ≠ .char '/'))).reverse) := by
        simp only [parent?, left]
      rw [left] at begins equal
      obtain ⟨last, above⟩ := components_above left (List.cons_ne_nil c rest) begins
      exact Or.inr ⟨_, last, found, equal.symm.trans above⟩

end Supervision.Path
