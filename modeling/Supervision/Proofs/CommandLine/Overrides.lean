import Supervision.Proofs.CommandLine.Effects
import Supervision.Proofs.Options.Overrides

/-!
What overrides come to on the command line: the last one about a key is right, whatever the options
file says of it.
-/

namespace Supervision

open Text Outcome Options

namespace CommandLine

theorem overrides_of_load {input : Input} {session after : Session} {options : Options} {part : Part}
    (loaded : ending (input.load Session.shell) session = (.ok (options, part), after)) :
    ∃ given, input.givenOn session.disk = .ok given ∧
      given.overrideAll input.overrides = .ok options := by
  obtain ⟨notices, ended⟩ := reads_load input session
  have read : input.readOn session.disk = .ok (options, part) :=
    congrArg Prod.fst (ended.symm.trans loaded)
  obtain ⟨given, found, changed⟩ := bind_eq_ok_iff.mp read
  obtain ⟨result, overridden, same⟩ := bind_eq_ok_iff.mp changed
  obtain ⟨rfl, -⟩ := Prod.mk.inj (pure_eq_ok_iff.mp same)
  refine ⟨given, found, ?_⟩
  cases applied : given.overrideAll input.overrides with
  | error cause =>
      rw [applied] at overridden
      cases overridden
  | ok options =>
      rw [applied] at overridden
      exact congrArg Except.ok (Except.ok.inj overridden)

end CommandLine

/-- Overrides are applied in order up to the first bad one, which changes nothing, and in place this
is no different. Under every key stands then what the last one about the key puts there, else what
was there before. So neighbours about different keys may change places, and on the command line an
override is stronger than the options file. -/
theorem last_override_wins :
    (∀ (options : Options) (raw : Text),
      (BadOverride raw ∧ ∃ cause, ending (overrideInPlace raw) options = (.error cause, options)) ∨
        ¬BadOverride raw ∧ ∃ changed, ending (overrideInPlace raw) options = (.ok (), changed)) ∧
    (∀ (options : Options) (applied : List Text), (∀ raw ∈ applied, ¬BadOverride raw) →
      ∃ left, ending (applied.forM overrideInPlace) options = (.ok (), left) ∧
        (∀ key, ∃ last, LastValue key applied last ∧ left.get? key = last.or (options.get? key)) ∧
        ∀ raw others, BadOverride raw → ∃ cause,
          ending ((applied ++ raw :: others).forM overrideInPlace) options = (.error cause, left)) ∧
    (∀ (options : Options) (overrides : List Text),
      options.overrideAll overrides = (ending (overrides.forM overrideInPlace) options).1.map
        fun _ => (ending (overrides.forM overrideInPlace) options).2) ∧
    (∀ first second firstKey firstValue secondKey secondValue,
      Overrides first firstKey firstValue → Overrides second secondKey secondValue →
        firstKey ≠ secondKey → ∀ (before after : List Text) (options : Options),
          ending ((before ++ first :: second :: after).forM overrideInPlace) options =
            ending ((before ++ second :: first :: after).forM overrideInPlace) options) ∧
    ∀ (input : CommandLine.Input) session options part after,
      ending (input.load CommandLine.Session.shell) session = (.ok (options, part), after) →
        ∃ given, input.givenOn session.disk = .ok given ∧ ∀ key,
          ∃ last, LastValue key input.overrides last ∧
            options.get? key = last.or (given.get? key) := by
  refine ⟨ending_overrideInPlace_cases, ?_, overrideAll_eq_ending, ?_, ?_⟩
  · intro options applied good
    obtain ⟨left, ended, all⟩ := exists_ending_forM_of_good good options
    exact ⟨left, ended, get?_overrideAll all,
      fun raw others bad => ending_forM_of_bad ended bad others⟩
  · intro first second firstKey firstValue secondKey secondValue one other different
    exact ending_forM_swap one other different
  · intro input session options part after loaded
    obtain ⟨given, found, applied⟩ := CommandLine.overrides_of_load loaded
    exact ⟨given, found, get?_overrideAll applied⟩

theorem last_override_wins_over_file :
    let first : Text := " port\t=2=3".toList
    let second : Text := "user=".toList
    let options := Options.ofList [("port".toList, "1".toList), ("user".toList, "admin".toList)]
    let input : CommandLine.Input := ⟨some "options".toList, [first, second], none, none⟩
    let session : CommandLine.Session := .start ⟨⟨[(["work".toList], .directory),
      (["work".toList, "options".toList], .file 0o600 "port = 1".toUTF8)]⟩, ["work".toList]⟩
    (∃ left, ending ([first, second].forM overrideInPlace) options = (.ok (), left) ∧
      (∀ key, ∃ last, LastValue key [first, second] last ∧
        left.get? key = last.or (options.get? key)) ∧
      ending ([second, first].forM overrideInPlace) options = (.ok (), left) ∧
      ∃ cause, ending ([first, second, " =4".toList, "port=5".toList].forM overrideInPlace)
        options = (.error cause, left)) ∧
    ∃ loaded part after given,
      ending (input.load CommandLine.Session.shell) session = (.ok (loaded, part), after) ∧
      loaded.get? "port" = some "2=3".toList ∧ input.givenOn session.disk = .ok given ∧
      ∀ key, ∃ last, LastValue key input.overrides last ∧
        loaded.get? key = last.or (given.get? key) := by
  intro first second options input session
  obtain ⟨-, run, -, swap, load⟩ := last_override_wins
  have port : Overrides first "port" "2=3" := ⟨by decide, " port\t".toList, by decide, by decide, rfl⟩
  have user : Overrides second "user" [] := ⟨by decide, "user".toList, by decide, by decide, rfl⟩
  have blank : BadOverride " =4".toList :=
    Or.inr ⟨" ".toList, "4".toList, rfl, by decide, by decide⟩
  constructor
  · have good : ∀ raw ∈ [first, second], ¬BadOverride raw := by
      simp only [badOverride_iff, List.forall_mem_cons, not_forall, not_not]
      exact ⟨⟨_, _, port⟩, ⟨_, _, user⟩, List.forall_mem_nil _⟩
    obtain ⟨left, ended, values, stops⟩ := run options [first, second] good
    have swapped := swap first second _ _ _ _ port user (by decide) [] [] options
    exact ⟨left, ended, values, swapped.symm.trans ended, stops " =4".toList ["port=5".toList] blank⟩
  · obtain ⟨⟨loaded, part⟩, succeeded, set⟩ : ∃ found : Options × Part,
        (ending (input.load CommandLine.Session.shell) session).1 = .ok found ∧
          decide (found.1.get? "port" = some "2=3".toList) = true :=
      exists_eq_ok_of_any (by decide +kernel)
    rcases ended : ending (input.load CommandLine.Session.shell) session with ⟨result, after⟩
    rw [ended] at succeeded
    obtain rfl : result = .ok (loaded, part) := succeeded
    obtain ⟨given, found, values⟩ := load input session loaded part after ended
    exact ⟨loaded, part, after, given, rfl, of_decide_eq_true set, found, values⟩

end Supervision
