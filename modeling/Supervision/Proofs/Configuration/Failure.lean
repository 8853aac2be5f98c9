import Supervision.Proofs.Configuration.Reading

/-!
When no configuration can be made of options, and for which of several causes it fails.
-/

namespace Supervision

open Text Outcome

namespace RecordKind

def Rejects : RecordKind → Text → Prop
  | .program => Program.reader.Rejects
  | .eventListener => EventListener.reader.Rejects
  | .group => Group.reader.Rejects
  | .controlPlugin => Plugin.reader.Rejects
  | .rpcPlugin => Plugin.reader.Rejects

def checkBlock : RecordKind → Text → Except ConfigError Unit
  | .program, block => check (readBlock Program.reader .program block)
  | .eventListener, block => check (readBlock EventListener.reader .eventListener block)
  | .group, block => check (readBlock Group.reader .group block)
  | .controlPlugin, block => check (readBlock Plugin.reader .controlPlugin block)
  | .rpcPlugin, block => check (readBlock Plugin.reader .rpcPlugin block)

theorem checkBlock_eq_ok_iff {kind : RecordKind} {block : Text} :
    kind.checkBlock block = .ok () ↔ ∀ line ∈ lines block, ¬kind.Rejects line := by
  cases kind <;> exact check_eq_ok_iff.trans exists_readBlock_eq_ok_iff

theorem checkBlock_eq_error_iff {kind : RecordKind} {block : Text} {error : ConfigError} :
    kind.checkBlock block = .error error ↔
      StopsAt (fun line => ¬kind.Rejects line)
        (fun position line => kind.Rejects line ∧
          error = .malformedLine kind (1 + position) line) (lines block) := by
  cases kind <;> exact check_eq_error_iff.trans readBlock_eq_error_iff

end RecordKind

namespace Options

def linesOf (options : Options) (kind : RecordKind) : List Text :=
  lines (options.block kind.option)

/-- The line with this number, counted from one and with blank lines, is the first of its block
that its grammar rejects. -/
def FirstRejected (options : Options) (kind : RecordKind) (number : Nat) (line : Text) : Prop :=
  ∃ before after, options.linesOf kind = before ++ line :: after ∧
    (∀ earlier ∈ before, ¬kind.Rejects earlier) ∧ kind.Rejects line ∧ number = before.length + 1

/-- The first cause of failure: the HTTP socket, then the first bad line of the first bad block. -/
inductive FirstCause (options : Options) : ConfigError → Prop
  | socket {value : Text} : options.UnknownSocket value →
      FirstCause options (.unknownTransport value)
  | line {before after : List RecordKind} {kind : RecordKind} {number : Nat} {line : Text} :
      (∀ value, ¬options.UnknownSocket value) →
      options.kindsRead = before ++ kind :: after →
      (∀ earlier ∈ before, ∀ other ∈ options.linesOf earlier, ¬earlier.Rejects other) →
      options.FirstRejected kind number line →
      FirstCause options (.malformedLine kind number line)

def SameCauses (options other : Options) : Prop :=
  options.get? "http-socket" = other.get? "http-socket" ∧
    options.kindsRead = other.kindsRead ∧
    ∀ kind ∈ options.kindsRead, options.block kind.option = other.block kind.option

theorem checkBlock_eq_error_iff {options : Options} {kind : RecordKind} {error : ConfigError} :
    kind.checkBlock (options.block kind.option) = .error error ↔
      ∃ number line, options.FirstRejected kind number line ∧
        error = .malformedLine kind number line := by
  rw [RecordKind.checkBlock_eq_error_iff]
  constructor
  · rintro ⟨before, line, after, equal, earlier, rejected, rfl⟩
    exact ⟨_, line, ⟨before, after, equal, earlier, rejected, rfl⟩, by rw [Nat.add_comm]⟩
  · rintro ⟨_, line, ⟨before, after, equal, earlier, rejected, rfl⟩, rfl⟩
    exact ⟨before, line, after, equal, earlier, rejected, by rw [Nat.add_comm]⟩

theorem check_read (options : Options) :
    check (Records.read options (Selection.resolve options)) =
      options.kindsRead.forM fun kind => kind.checkBlock (options.block kind.option) := by
  have control := Selection.control_resolve options
  have rpc := Selection.rpc_resolve options
  rw [Records.read_eq, kindsRead]
  -- A family that is not selected is neither read on the left nor checked on the right.
  simp only [← control, ← rpc]
  cases (Selection.resolve options).control <;> cases (Selection.resolve options).rpc
  all_goals
    simp only [Bool.false_eq_true, ↓reduceIte, List.nil_append, List.cons_append, pure_bind,
      check_bind, check_pure, List.forM_eq_forM, List.forM_cons, List.forM_nil,
      RecordKind.checkBlock, check_then, RecordKind.option]

theorem exists_transport_iff (options : Options) :
    (∃ transport, Transport.resolve options = .ok transport) ↔
      ∀ value, ¬options.UnknownSocket value := by
  cases resolved : Transport.resolve options with
  | error error =>
      obtain ⟨value, unknown, -⟩ := Transport.resolve_eq_error_iff.mp resolved
      simp only [reduceCtorEq, exists_false, false_iff, not_forall, not_not]
      exact ⟨value, unknown⟩
  | ok transport =>
      simp only [Except.ok.injEq, exists_eq', true_iff]
      intro value unknown
      rw [Transport.resolve_eq_error_iff.mpr ⟨value, unknown, rfl⟩] at resolved
      simp at resolved

theorem read_eq_error_iff {options : Options} {error : ConfigError} :
    Records.read options (Selection.resolve options) = .error error ↔
      StopsAt (fun kind => ∀ line ∈ options.linesOf kind, ¬RecordKind.Rejects kind line)
        (fun _ kind => ∃ number line, options.FirstRejected kind number line ∧
          error = .malformedLine kind number line) options.kindsRead := by
  rw [← check_eq_error_iff, check_read, forM_eq_error_iff]
  simp only [RecordKind.checkBlock_eq_ok_iff, checkBlock_eq_error_iff, linesOf]

theorem ofOptions_eq_error_iff_firstCause {options : Options} {part : Part} {error : ConfigError} :
    Configuration.ofOptions options part = .error error ↔ options.FirstCause error := by
  rw [Configuration.ofOptions_eq_error_iff, Transport.resolve_eq_error_iff, exists_transport_iff,
    read_eq_error_iff]
  constructor
  · rintro (⟨value, unknown, rfl⟩ | ⟨known, before, kind, after, read, earlier, number, line, first, rfl⟩)
    · exact .socket unknown
    · exact .line known read earlier first
  · rintro (unknown | ⟨known, read, earlier, first⟩)
    · exact Or.inl ⟨_, unknown, rfl⟩
    · exact Or.inr ⟨known, _, _, _, read, earlier, _, _, first, rfl⟩

theorem exists_firstRejected_iff {options : Options} {kind : RecordKind} :
    (∃ number line, options.FirstRejected kind number line) ↔
      ∃ line ∈ options.linesOf kind, kind.Rejects line := by
  have first := @exists_not_iff_stopsAt _ (fun line => ¬kind.Rejects line) (options.linesOf kind)
  simp only [not_not] at first
  rw [first]
  constructor
  · rintro ⟨_, line, before, after, equal, earlier, rejected, -⟩
    exact ⟨before, line, after, equal, earlier, rejected⟩
  · rintro ⟨before, line, after, equal, earlier, rejected⟩
    exact ⟨_, line, before, after, equal, earlier, rejected, rfl⟩

theorem exists_firstCause_iff {options : Options} :
    (∃ error, options.FirstCause error) ↔
      (∃ value, options.UnknownSocket value) ∨
        ∃ kind ∈ options.kindsRead, ∃ line ∈ options.linesOf kind, kind.Rejects line := by
  constructor
  · rintro ⟨_, unknown | ⟨known, read, earlier, first⟩⟩
    · exact Or.inl ⟨_, unknown⟩
    · exact Or.inr ⟨_, by rw [read]; simp, exists_firstRejected_iff.mp ⟨_, _, first⟩⟩
  · intro causes
    by_cases unknown : ∃ value, options.UnknownSocket value
    · obtain ⟨value, unknown⟩ := unknown
      exact ⟨_, .socket unknown⟩
    · obtain ⟨kind, wanted, line, member, rejected⟩ := causes.resolve_left unknown
      have someBad : ∃ kind ∈ options.kindsRead,
          ¬∀ line ∈ options.linesOf kind, ¬RecordKind.Rejects kind line :=
        ⟨kind, wanted, fun none => none line member rejected⟩
      obtain ⟨before, kind, after, read, earlier, bad⟩ := exists_not_iff_stopsAt.mp someBad
      simp only [not_forall, not_not, exists_prop] at bad
      obtain ⟨number, line, first⟩ := exists_firstRejected_iff.mpr bad
      exact ⟨_, .line (not_exists.mp unknown) read earlier first⟩

theorem SameCauses.linesOf_eq {options other : Options} (same : options.SameCauses other)
    {kind : RecordKind} (read : kind ∈ options.kindsRead) :
    options.linesOf kind = other.linesOf kind :=
  congrArg lines (same.2.2 kind read)

theorem SameCauses.symm {options other : Options} (same : options.SameCauses other) :
    other.SameCauses options :=
  ⟨same.1.symm, same.2.1.symm, fun kind read => (same.2.2 kind (same.2.1 ▸ read)).symm⟩

theorem SameCauses.firstCause {options other : Options} (same : options.SameCauses other)
    {error : ConfigError} (cause : options.FirstCause error) : other.FirstCause error := by
  cases cause with
  | socket unknown =>
      refine .socket ?_
      rwa [UnknownSocket, ← same.1]
  | @line before after kind number line known read earlier first =>
      -- The blocks agree only where they are read.
      have readKind : kind ∈ options.kindsRead := by
        rw [read]
        simp
      have readEarlier : ∀ other ∈ before, other ∈ options.kindsRead := by
        intro other member
        rw [read]
        exact List.mem_append_left _ member
      have readOther : other.kindsRead = before ++ kind :: after := same.2.1 ▸ read
      refine .line ?_ readOther ?_ ?_
      · intro value
        rw [UnknownSocket, ← same.1]
        exact known value
      · intro kind member
        rw [← same.linesOf_eq (readEarlier kind member)]
        exact earlier kind member
      · rw [FirstRejected, ← same.linesOf_eq readKind]
        exact first

end Options

/-- A configuration fails to be made exactly for an unknown HTTP socket, or for a line that its
grammar rejects in one of the blocks that are read, and the first of these causes is the error.
Options that agree on them fail alike, whatever else they hold. -/
theorem Configuration.ofOptions_error_causes (options : Options) (part : Part) :
    (∀ error, Configuration.ofOptions options part = .error error ↔ options.FirstCause error) ∧
    ((∃ error, Configuration.ofOptions options part = .error error) ↔
      (∃ value, options.UnknownSocket value) ∨
        ∃ kind ∈ options.kindsRead, ∃ line ∈ options.linesOf kind, kind.Rejects line) ∧
    (∀ other otherPart, options.SameCauses other → ∀ error,
      Configuration.ofOptions other otherPart = .error error ↔
        Configuration.ofOptions options part = .error error) := by
  simp only [Options.ofOptions_eq_error_iff_firstCause]
  refine ⟨fun _ => trivial, Options.exists_firstCause_iff, ?_⟩
  intro other _ same error
  exact ⟨same.symm.firstCause, same.firstCause⟩

theorem Configuration.ofOptions_error_causes_unselected :
    let options := Options.ofList [("programs".toList, "web".toList), ("sections".toList, "http".toList)]
    options.SameCauses (options.insert "ctlplugins" "monitor") ∧
      Configuration.ofOptions (options.insert "ctlplugins" "monitor") ⟨"/srv", "web"⟩ =
        .error (.malformedLine .program 1 "web") := by
  intro options
  have same : options.SameCauses (options.insert "ctlplugins" "monitor") := by
    unfold Options.SameCauses
    decide +kernel
  have failed : Configuration.ofOptions options ⟨"/srv", "web"⟩ =
      .error (.malformedLine .program 1 "web") := by
    decide +kernel
  exact ⟨same, ((Configuration.ofOptions_error_causes options ⟨"/srv", "web"⟩).2.2 _ _ same _).mpr failed⟩

end Supervision
