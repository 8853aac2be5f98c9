import Supervision.Path.Letter
import Supervision.Proofs.Outcome

/-!
Texts as paths. A text is shown and written as it is, and it is only of texts that all is written.
-/

namespace Supervision.PathText

variable {path : PathText} {text other : Text} {c : Char}

@[simp] theorem ofText_nil : ofText [] = [] :=
  rfl

@[simp] theorem ofText_cons (c : Char) (text : Text) : ofText (c :: text) = .char c :: ofText text :=
  rfl

@[simp] theorem ofText_append (text other : Text) :
    ofText (text ++ other) = ofText text ++ ofText other :=
  List.map_append

@[simp] theorem char_mem_ofText : .char c ∈ ofText text ↔ c ∈ text := by
  simp [ofText]

@[simp] theorem getLast?_ofText (text : Text) :
    (ofText text).getLast? = text.getLast?.map .char :=
  List.getLast?_map

@[simp] theorem ofText_inj : ofText text = ofText other ↔ text = other :=
  List.map_inj_right fun _ _ => Letter.char.inj

@[simp] theorem ofText_eq_nil_iff : ofText text = [] ↔ text = [] :=
  List.map_eq_nil_iff

@[simp] theorem shown_ofText (text : Text) : shown (ofText text) = text := by
  simp [shown, ofText, Function.comp_def, Letter.shown]

theorem foldl_size (path : PathText) (count : Nat) :
    path.foldl (fun length letter => length + letter.size) count = count + byteLength path := by
  induction path generalizing count with
  | nil => rfl
  | cons letter path ih =>
      have whole : byteLength (letter :: path) = 0 + letter.size + byteLength path := ih _
      rw [List.foldl_cons, ih, whole]
      omega

theorem byteLength_append (path more : PathText) :
    byteLength (path ++ more) = byteLength path + byteLength more := by
  rw [byteLength, List.foldl_append, foldl_size more]
  rfl

/-- Nothing is shown that the path does not have, but for the replacement character. -/
theorem mem_of_mem_shown (shows : c ∈ shown path) (proper : c ≠ '\ufffd') : .char c ∈ path := by
  obtain ⟨letter | bytes, member, rfl⟩ := List.mem_map.mp shows
  · exact member
  · exact absurd rfl proper

/-! Paths that are texts. -/

def IsText (path : PathText) : Prop :=
  ∃ text, path = ofText text

theorem isText_ofText (text : Text) : IsText (ofText text) :=
  ⟨text, rfl⟩

theorem isText_iff_forall : IsText path ↔ ∀ letter ∈ path, ∃ c, letter = .char c := by
  constructor
  · rintro ⟨text, rfl⟩ letter member
    obtain ⟨c, -, rfl⟩ := List.mem_map.mp member
    exact ⟨c, rfl⟩
  · intro all
    induction path with
    | nil => exact ⟨[], rfl⟩
    | cons letter path ih =>
        obtain ⟨⟨c, rfl⟩, later⟩ := List.forall_mem_cons.mp all
        obtain ⟨text, rfl⟩ := ih later
        exact ⟨c :: text, rfl⟩

theorem isText_append_iff {more : PathText} : IsText (path ++ more) ↔ IsText path ∧ IsText more := by
  simp only [isText_iff_forall, List.forall_mem_append]

theorem written?_cons (letter : Letter) (path : PathText) :
    written? (letter :: path) = letter.written?.bind fun c => (written? path).map (c :: ·) := by
  simp only [written?, List.mapM_cons, Option.map_eq_bind]
  rfl

theorem written?_ofText (text : Text) : written? (ofText text) = some text := by
  induction text with
  | nil => rfl
  | cons c text ih => simp [written?_cons, Letter.written?, ih]

theorem ofText_of_written? (written : written? path = some text) : path = ofText text := by
  induction path generalizing text with
  | nil =>
      obtain rfl : [] = text := by simpa [written?] using written
      rfl
  | cons letter path ih =>
      rw [written?_cons] at written
      cases letter with
      | char c =>
          obtain ⟨rest, later, rfl⟩ : ∃ rest, written? path = some rest ∧ c :: rest = text := by
            simpa [Letter.written?] using written
          rw [ih later, ofText_cons]
      | broken bytes => cases written

theorem written?_eq_some_iff : written? path = some text ↔ path = ofText text :=
  ⟨ofText_of_written?, fun same => same ▸ written?_ofText text⟩

theorem exists_written?_iff : (∃ text, written? path = some text) ↔ IsText path :=
  exists_congr fun _ => written?_eq_some_iff

end Supervision.PathText
