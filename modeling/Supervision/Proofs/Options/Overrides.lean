import Supervision.Options.Override
import Supervision.Proofs.Deployment.Calls

/-!
Overrides, one after the other up to the first bad one. Under every key stands in the end what the
last of them puts there, or what was there before.
-/

namespace Supervision

open Text Outcome

def BadOverride (raw : Text) : Prop :=
  '=' ∉ raw ∨ ∃ key value, raw = key ++ '=' :: value ∧ '=' ∉ key ∧ trim key = []

/-- The override puts the value under the key: the key stands before the first `=`, blanks at both
ends aside, and the value is all that follows. -/
def Overrides (raw key value : Text) : Prop :=
  key ≠ [] ∧ ∃ front, '=' ∉ front ∧ trim front = key ∧ raw = front ++ '=' :: value

theorem overrides_iff {raw key value : Text} :
    Overrides raw key value ↔
      ∃ front, splitOnce '=' raw = some (front, value) ∧ trim front = key ∧ key ≠ [] := by
  simp only [Overrides, splitOnce_eq_some_iff]
  constructor
  · rintro ⟨named, front, absent, trimmed, equal⟩
    exact ⟨front, ⟨absent, equal⟩, trimmed, named⟩
  · rintro ⟨front, ⟨absent, equal⟩, trimmed, named⟩
    exact ⟨named, front, absent, trimmed, equal⟩

theorem Overrides.unique {raw key value otherKey otherValue : Text}
    (overrides : Overrides raw key value) (again : Overrides raw otherKey otherValue) :
    otherKey = key ∧ otherValue = value := by
  obtain ⟨front, cut, rfl, -⟩ := overrides_iff.mp overrides
  obtain ⟨otherFront, otherCut, rfl, -⟩ := overrides_iff.mp again
  rw [cut, Option.some.injEq, Prod.mk.injEq] at otherCut
  obtain ⟨rfl, rfl⟩ := otherCut
  exact ⟨rfl, rfl⟩

/-- What the last override that is about the key puts there, if any is about it. -/
inductive LastValue (key : Text) : List Text → Option Text → Prop
  | none {overrides : List Text} : (∀ raw ∈ overrides, ∀ value, ¬Overrides raw key value) →
      LastValue key overrides none
  | some (before : List Text) {after : List Text} {raw value : Text} : Overrides raw key value →
      (∀ later ∈ after, ∀ other, ¬Overrides later key other) →
      LastValue key (before ++ raw :: after) (some value)

namespace Options

variable {options other : Options} {key value raw : Text}

/-! Option sets with the same values. -/

theorem mem_entries_iff : (key, value) ∈ options.entries ↔ options.get? key = some value := by
  obtain ⟨entries, ordered⟩ := options
  unfold get?
  induction entries with
  | nil => simp
  | cons first entries ih =>
      obtain ⟨firstKey, firstValue⟩ := first
      obtain ⟨below, later⟩ := List.pairwise_cons.mp ordered
      rw [List.mem_cons, lookup_cons_ite, ih later]
      by_cases same : key = firstKey
      · subst same
        -- The key is not among the later ones, which come after it.
        have fresh : ¬entries.lookup key = some value := by
          intro again
          have above := below (key, value) ((ih later).mpr again)
          rw [precedes_irrefl] at above
          cases above
        simp [fresh, eq_comm]
      · simp [same]

theorem eq_of_get? (same : ∀ key, other.get? key = options.get? key) : other = options := by
  have distinct : ∀ set : Options, set.entries.Nodup := fun set =>
    set.ordered.imp fun above equal => by simp [equal, precedes_irrefl] at above
  have perm : other.entries.Perm options.entries :=
    (List.perm_ext_iff_of_nodup (distinct other) (distinct options)).mpr fun entry =>
      mem_entries_iff.trans (by rw [same, ← mem_entries_iff])
  have entries : other.entries = options.entries := by
    refine perm.eq_of_pairwise (fun left right _ _ before after => ?_) other.ordered options.ordered
    have circle := precedes_trans before after
    rw [precedes_irrefl] at circle
    cases circle
  obtain ⟨_, _⟩ := other
  obtain ⟨_, _⟩ := options
  cases entries
  rfl

theorem insert_comm {otherKey otherValue : Text} (different : key ≠ otherKey) :
    (options.insert key value).insert otherKey otherValue =
      (options.insert otherKey otherValue).insert key value := by
  refine eq_of_get? fun name => ?_
  simp only [get?_insert]
  by_cases atKey : name = key
  · rw [if_pos atKey, if_neg (atKey ▸ different), if_pos atKey]
  · rw [if_neg atKey, if_neg atKey]

/-! One override. -/

theorem override_eq_ok_iff {changed : Options} :
    options.override raw = .ok changed ↔
      ∃ key value, Overrides raw key value ∧ changed = options.insert key value := by
  simp only [overrides_iff]
  unfold override
  rcases splitOnce '=' raw with _ | ⟨front, value⟩
  · simp
  · by_cases blank : trim front = []
    · simp [blank]
    · simp only [List.isEmpty_iff, blank, ↓reduceIte, Except.ok.injEq]
      constructor
      · rintro rfl
        exact ⟨trim front, value, ⟨front, rfl, rfl, blank⟩, rfl⟩
      · rintro ⟨key, value, ⟨front, cut, rfl, -⟩, rfl⟩
        rw [Option.some.injEq, Prod.mk.injEq] at cut
        obtain ⟨rfl, rfl⟩ := cut
        rfl

theorem override_eq_insert (about : Overrides raw key value) (options : Options) :
    options.override raw = .ok (options.insert key value) :=
  override_eq_ok_iff.mpr ⟨key, value, about, rfl⟩

theorem exists_override_error_iff (options : Options) (raw : Text) :
    (∃ cause, options.override raw = .error cause) ↔ BadOverride raw := by
  rcases cut : splitOnce '=' raw with _ | ⟨key, value⟩
  · have plain := splitOnce_eq_none_iff.mp cut
    exact iff_of_true ⟨.overrideWithoutValue raw, by rw [override, cut]⟩ (Or.inl plain)
  · have parts := splitOnce_eq_some_iff.mp cut
    by_cases blank : trim key = []
    · exact iff_of_true ⟨.overrideWithoutKey raw, by simp [override, cut, blank]⟩
        (Or.inr ⟨key, value, parts.2, parts.1, blank⟩)
    · refine iff_of_false (by simp [override, cut, blank]) ?_
      rintro (plain | ⟨other, rest, equal, absent, blankToo⟩)
      · exact plain (parts.2 ▸ by simp)
      · have same := splitOnce_eq_some_iff.mpr ⟨absent, equal⟩
        obtain ⟨rfl, -⟩ := Prod.mk.inj (Option.some.inj (cut.symm.trans same))
        exact blank blankToo

theorem badOverride_iff : BadOverride raw ↔ ∀ key value, ¬Overrides raw key value := by
  rw [← exists_override_error_iff empty]
  cases applied : empty.override raw with
  | error cause =>
      refine iff_of_true ⟨cause, rfl⟩ fun key value about => ?_
      rw [override_eq_insert about] at applied
      cases applied
  | ok changed =>
      obtain ⟨key, value, about, -⟩ := override_eq_ok_iff.mp applied
      refine iff_of_false ?_ fun noKey => noKey key value about
      rintro ⟨cause, ⟨⟩⟩

/-- The same override of options that are changed in place. -/
def overrideInPlace (raw : Text) : ExceptT OptionError (StateM Options) Unit :=
  match splitOnce '=' raw with
  | none => throw (.overrideWithoutValue raw)
  | some (key, value) =>
      if (trim key).isEmpty then throw (.overrideWithoutKey raw)
      else modify fun options => options.insert (trim key) value

theorem ending_overrideInPlace (raw : Text) (options : Options) :
    ending (overrideInPlace raw) options =
      match options.override raw with
      | .ok changed => (.ok (), changed)
      | .error cause => (.error cause, options) := by
  unfold overrideInPlace override
  rcases splitOnce '=' raw with _ | ⟨front, value⟩
  · rfl
  · by_cases blank : (trim front).isEmpty = true
    · simp only [blank]
      rfl
    · simp only [blank]
      rfl

theorem ending_overrideInPlace_cases (options : Options) (raw : Text) :
    (BadOverride raw ∧ ∃ cause, ending (overrideInPlace raw) options = (.error cause, options)) ∨
      ¬BadOverride raw ∧ ∃ changed, ending (overrideInPlace raw) options = (.ok (), changed) := by
  rw [ending_overrideInPlace, ← exists_override_error_iff options raw]
  rcases options.override raw with cause | changed
  · exact Or.inl ⟨⟨cause, rfl⟩, cause, rfl⟩
  · refine Or.inr ⟨?_, changed, rfl⟩
    rintro ⟨cause, ⟨⟩⟩

/-! A run of them. -/

theorem exists_overrideAll_error_iff (options : Options) (overrides : List Text) :
    (∃ cause, options.overrideAll overrides = .error cause) ↔ ∃ raw ∈ overrides, BadOverride raw := by
  induction overrides generalizing options with
  | nil => simp [overrideAll]
  | cons raw overrides ih =>
      rw [List.exists_mem_cons_iff, ← exists_override_error_iff options, overrideAll]
      rcases options.override raw with cause | changed
      · simp [bind, Except.bind]
      · simp [bind, Except.bind, ih]

theorem ending_forM_cons (overrides : List Text) :
    ending ((raw :: overrides).forM overrideInPlace) options =
      match options.override raw with
      | .ok changed => ending (overrides.forM overrideInPlace) changed
      | .error cause => (.error cause, options) := by
  have unfolded : (raw :: overrides).forM overrideInPlace =
    (overrideInPlace raw >>= fun _ => overrides.forM overrideInPlace) := rfl
  rw [unfolded, ending_bind, ending_overrideInPlace]
  rcases options.override raw with cause | changed
  · rfl
  · rfl

/-- In place or not, the same comes of a run. -/
theorem overrideAll_eq_ending (options : Options) (overrides : List Text) :
    options.overrideAll overrides =
      (ending (overrides.forM overrideInPlace) options).1.map fun _ =>
        (ending (overrides.forM overrideInPlace) options).2 := by
  induction overrides generalizing options with
  | nil => rfl
  | cons raw overrides ih =>
      rw [overrideAll, ending_forM_cons]
      rcases options.override raw with cause | changed
      · rfl
      · exact ih changed

theorem exists_ending_forM_of_good {overrides : List Text}
    (good : ∀ raw ∈ overrides, ¬BadOverride raw) (options : Options) :
    ∃ left, ending (overrides.forM overrideInPlace) options = (.ok (), left) ∧
      options.overrideAll overrides = .ok left := by
  have applied : ¬∃ cause, options.overrideAll overrides = .error cause := by
    rw [exists_overrideAll_error_iff]
    rintro ⟨raw, inside, bad⟩
    exact good raw inside bad
  rw [overrideAll_eq_ending] at applied ⊢
  generalize ending (overrides.forM overrideInPlace) options = ended at applied ⊢
  rcases ended with ⟨cause | ⟨⟩, left⟩
  · exact absurd ⟨cause, rfl⟩ applied
  · exact ⟨left, rfl, rfl⟩

theorem ending_forM_append (before after : List Text) (options : Options) :
    ending ((before ++ after).forM overrideInPlace) options =
      match ending (before.forM overrideInPlace) options with
      | (.ok _, left) => ending (after.forM overrideInPlace) left
      | (.error cause, left) => (.error cause, left) := by
  have unfolded : (before ++ after).forM overrideInPlace =
    (before.forM overrideInPlace >>= fun _ => after.forM overrideInPlace) := List.forM_append
  rw [unfolded, ending_bind]
  rcases ending (before.forM overrideInPlace) options with ⟨cause | _, left⟩
  · rfl
  · rfl

theorem ending_forM_of_bad {overrides : List Text} {left : Options}
    (applied : ending (overrides.forM overrideInPlace) options = (.ok (), left))
    (bad : BadOverride raw) (others : List Text) :
    ∃ cause, ending ((overrides ++ raw :: others).forM overrideInPlace) options =
      (.error cause, left) := by
  obtain ⟨cause, failed⟩ := (exists_override_error_iff left raw).mpr bad
  exact ⟨cause, by simp only [ending_forM_append, applied, ending_forM_cons, failed]⟩

theorem ending_forM_swap {first second firstKey firstValue secondKey secondValue : Text}
    (one : Overrides first firstKey firstValue)
    (other : Overrides second secondKey secondValue) (different : firstKey ≠ secondKey)
    (before after : List Text) (options : Options) :
    ending ((before ++ first :: second :: after).forM overrideInPlace) options =
      ending ((before ++ second :: first :: after).forM overrideInPlace) options := by
  simp only [ending_forM_append, ending_forM_cons, override_eq_insert one,
    override_eq_insert other, insert_comm different]

theorem get?_overrideAll {left : Options} {overrides : List Text}
    (applied : options.overrideAll overrides = .ok left) (key : Text) :
    ∃ last, LastValue key overrides last ∧ left.get? key = last.or (options.get? key) := by
  induction overrides generalizing options with
  | nil =>
      obtain rfl := Except.ok.inj applied
      exact ⟨none, .none (List.forall_mem_nil _), rfl⟩
  | cons raw overrides ih =>
      obtain ⟨changed, first, others⟩ := bind_eq_ok_iff.mp applied
      obtain ⟨firstKey, firstValue, about, rfl⟩ := override_eq_ok_iff.mp first
      obtain ⟨last, isLast, found⟩ := ih others
      rw [found, get?_insert]
      cases isLast with
      | @some before after later value puts alone =>
          exact ⟨some value, .some (raw :: before) puts alone, rfl⟩
      | none silent =>
          by_cases atFirst : key = firstKey
          · subst atFirst
            rw [if_pos rfl]
            exact ⟨some firstValue, .some [] about silent, rfl⟩
          · rw [if_neg atFirst]
            refine ⟨none, .none (List.forall_mem_cons.mpr ⟨?_, silent⟩), rfl⟩
            exact fun value again => atFirst (about.unique again).1

end Options

end Supervision
