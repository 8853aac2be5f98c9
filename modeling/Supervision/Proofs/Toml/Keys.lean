import Mathlib.Data.List.Nodup
import Supervision.Toml.Document

/-!
Keys of a document: none comes up twice at the top, since a statement either adds a key that is not
there yet or changes what is under a key in its place.
-/

namespace Supervision.Toml

def Children.Distinct (children : Children) : Prop :=
  (children.map Prod.fst).Nodup

variable {children : Children} {key : Text}

namespace Children

theorem distinct_nil : Distinct [] :=
  List.nodup_nil

theorem Distinct.concat (distinct : children.Distinct) (absent : children.lookup key = none)
    (child : Node) : Distinct (children ++ [(key, child)]) := by
  have outside : key ∉ children.map Prod.fst := by
    intro member
    obtain ⟨entry, inside, rfl⟩ := List.mem_map.mp member
    simpa using List.lookup_eq_none_iff.mp absent entry inside
  rw [Distinct, List.map_append, List.map_singleton, ← List.concat_eq_append]
  exact List.Nodup.concat outside distinct

theorem map_fst_replace {old : Node} (present : children.lookup key = some old) (child : Node) :
    (children.replace key child).map Prod.fst = children.map Prod.fst := by
  induction children with
  | nil => cases present
  | cons entry children ih =>
      by_cases same : entry.1 = key
      · simp [replace, same]
      · have other : (key == entry.1) = false := beq_eq_false_iff_ne.mpr (Ne.symm same)
        rw [List.lookup_cons, other] at present
        simp [replace, same, ih present]

theorem Distinct.replace (distinct : children.Distinct) {old : Node}
    (present : children.lookup key = some old) (child : Node) :
    (children.replace key child).Distinct := by
  rwa [Distinct, map_fst_replace present]

theorem Distinct.remove (distinct : children.Distinct) (key : Text) :
    (children.remove key).Distinct :=
  distinct.sublist (List.filter_sublist.map _)

/-- What is done to a table keeps its keys apart. -/
def Keeps {Found : Type} (change : Bool → Children → Option (Found × Children)) : Prop :=
  ∀ ⦃atDotted children found changed⦄, Distinct children →
    change atDotted children = some (found, changed) → Distinct changed

/-- Only the table at the end of the path and those that lead to it are changed. -/
theorem Keeps.alter {Found : Type} {change : Bool → Children → Option (Found × Children)}
    (keeps : Keeps change) (isDotted : Bool) (path : List Text) :
    Keeps (Children.alter isDotted change path) := by
  intro atDotted children found changed distinct altered
  cases path with
  | nil => exact keeps distinct altered
  | cons key path =>
      simp only [Children.alter] at altered
      split at altered
      case h_1 absent =>
        obtain ⟨⟨_, inner⟩, -, equal⟩ := Option.bind_eq_some_iff.mp altered
        obtain ⟨-, rfl⟩ := Prod.mk.inj (Option.some.inj equal)
        exact distinct.concat absent _
      case h_2 => cases altered
      case h_3 elements present =>
        split at altered
        · obtain ⟨⟨_, inner⟩, -, equal⟩ := Option.bind_eq_some_iff.mp altered
          obtain ⟨-, rfl⟩ := Prod.mk.inj (Option.some.inj equal)
          exact distinct.replace present _
        · cases altered
      case h_4 present =>
        split at altered
        · cases altered
        · obtain ⟨⟨_, inner⟩, -, equal⟩ := Option.bind_eq_some_iff.mp altered
          obtain ⟨-, rfl⟩ := Prod.mk.inj (Option.some.inj equal)
          exact distinct.replace present _

theorem Distinct.assign {path : List Text} {value : Value} {changed : Children}
    (distinct : children.Distinct) (assigned : assign path value children = some changed) :
    changed.Distinct := by
  obtain ⟨key, -, assigned⟩ := Option.bind_eq_some_iff.mp assigned
  dsimp only at assigned
  obtain ⟨⟨_, after⟩, altered, equal⟩ := Option.bind_eq_some_iff.mp assigned
  obtain rfl := Option.some.inj equal
  refine Keeps.alter ?_ true path.dropLast distinct altered
  intro atDotted inner _ added apart adds
  dsimp only at adds
  split at adds
  case isTrue => cases adds
  case isFalse free =>
    obtain ⟨-, rfl⟩ := Prod.mk.inj (Option.some.inj adds)
    have absent : inner.lookup key = none := by
      rw [Bool.or_eq_true, not_or, Option.not_isSome_iff_eq_none] at free
      exact free.2
    exact apart.concat absent _

end Children

namespace Draft

theorem keeps_place (isList : Bool) (key : Text) (finished : Node) :
    Children.Keeps fun _ => place isList key finished := by
  intro _ children _ changed distinct placed
  simp only [place] at placed
  split at placed
  case h_1 absent | h_3 absent =>
    obtain ⟨-, rfl⟩ := Prod.mk.inj (Option.some.inj placed)
    exact distinct.concat absent _
  case h_2 present =>
    obtain ⟨-, rfl⟩ := Prod.mk.inj (Option.some.inj placed)
    exact distinct.replace present _
  case h_4 => cases placed

theorem keeps_reserve (key : Text) : Children.Keeps fun _ => reserve key := by
  intro _ children _ changed distinct reserved
  simp only [reserve] at reserved
  split at reserved
  case h_1 absent =>
    obtain ⟨-, rfl⟩ := Prod.mk.inj (Option.some.inj reserved)
    exact distinct.concat absent _
  case h_2 =>
    obtain ⟨-, rfl⟩ := Prod.mk.inj (Option.some.inj reserved)
    exact distinct
  case h_3 => cases reserved

theorem keeps_claim (key : Text) : Children.Keeps fun _ => claim key := by
  intro _ children _ changed distinct claimed
  simp only [claim] at claimed
  split at claimed
  case h_1 =>
    obtain ⟨-, rfl⟩ := Prod.mk.inj (Option.some.inj claimed)
    exact distinct
  case h_2 =>
    obtain ⟨-, rfl⟩ := Prod.mk.inj (Option.some.inj claimed)
    exact distinct.remove key
  case h_3 => cases claimed

structure Distinct (draft : Draft) : Prop where
  root : draft.root.Distinct
  current : draft.path = [] → draft.current.Distinct

theorem distinct_start : start.Distinct :=
  ⟨Children.distinct_nil, fun _ => Children.distinct_nil⟩

theorem Distinct.close {draft : Draft} {root : Children} (distinct : draft.Distinct)
    (closed : draft.close = some root) : root.Distinct := by
  unfold Draft.close at closed
  split at closed
  case h_1 none =>
    obtain rfl := Option.some.inj closed
    exact distinct.current (List.getLast?_eq_none_iff.mp none)
  case h_2 key _ =>
    obtain ⟨⟨_, after⟩, altered, equal⟩ := Option.bind_eq_some_iff.mp closed
    obtain rfl := Option.some.inj equal
    exact (keeps_place draft.isList key _).alter false _ distinct.root altered

theorem Distinct.openHeader {draft opened : Draft} {isList : Bool} {path : List Text}
    (distinct : draft.Distinct) (opens : draft.openHeader isList path = some opened) :
    opened.Distinct := by
  obtain ⟨root, closed, opens⟩ := Option.bind_eq_some_iff.mp opens
  obtain ⟨key, last, opens⟩ := Option.bind_eq_some_iff.mp opens
  obtain ⟨⟨current, after⟩, altered, equal⟩ := Option.bind_eq_some_iff.mp opens
  obtain rfl := Option.some.inj equal
  have keeps : Children.Keeps fun _ : Bool => if isList then reserve key else claim key := by
    cases isList
    · exact keeps_claim key
    · exact keeps_reserve key
  refine ⟨keeps.alter false _ (distinct.close closed) altered, ?_⟩
  rintro rfl
  cases last

theorem Distinct.add {draft changed : Draft} {statement : Statement} (distinct : draft.Distinct)
    (added : draft.add statement = some changed) : changed.Distinct := by
  cases statement with
  | header isList path => exact distinct.openHeader added
  | pair path value =>
      obtain ⟨current, assigned, equal⟩ := Option.bind_eq_some_iff.mp added
      obtain rfl := Option.some.inj equal
      exact ⟨distinct.root, fun top => (distinct.current top).assign assigned⟩

theorem Distinct.addAll {draft changed : Draft} {found : List Statement}
    (distinct : draft.Distinct) (added : draft.addAll found = some changed) : changed.Distinct := by
  induction found generalizing draft with
  | nil =>
      obtain rfl := Option.some.inj added
      exact distinct
  | cons statement others ih =>
      obtain ⟨next, first, later⟩ := Option.bind_eq_some_iff.mp added
      exact ih (distinct.add first) later

end Draft

theorem map_fst_entriesOf (children : Children) :
    (entriesOf children).map Prod.fst = children.map Prod.fst := by
  induction children with
  | nil => rfl
  | cons entry children ih => simp [entriesOf, ih]

theorem map_fst_unmarkEntries {entries unmarked : List (Text × Value)}
    (found : unmarkEntries entries = some unmarked) :
    unmarked.map Prod.fst = entries.map Prod.fst := by
  induction entries generalizing unmarked with
  | nil =>
      obtain rfl := Option.some.inj found
      rfl
  | cons entry entries ih =>
      obtain ⟨value, -, found⟩ := Option.bind_eq_some_iff.mp found
      obtain ⟨others, later, equal⟩ := Option.bind_eq_some_iff.mp found
      obtain rfl := Option.some.inj equal
      rw [List.map_cons, List.map_cons, ih later]

theorem nodup_keys_of_parse {text : Text} {table : List (Text × Value)}
    (parsed : parse text = some table) : (table.map Prod.fst).Nodup := by
  obtain ⟨⟨found, rest⟩, -, parsed⟩ := Option.bind_eq_some_iff.mp parsed
  obtain ⟨draft, added, parsed⟩ := Option.bind_eq_some_iff.mp parsed
  obtain ⟨root, closed, unmarked⟩ := Option.bind_eq_some_iff.mp parsed
  rw [map_fst_unmarkEntries unmarked, map_fst_entriesOf]
  exact (Draft.distinct_start.addAll added).close closed

end Supervision.Toml
