import LeafLayout.Proofs.Text.Words
import Mathlib.Data.List.Chain

/-!
Squeezing run by run. A text falls into runs, by turns blank and not blank, and squeezing makes one
space of every blank run and leaves the others as they are. What comes out has no blanks but single
spaces, and such a text is left alone by squeezing, as is any stretch of it. Hence it makes no
difference whether a text is squeezed or stripped first: either way its words are left, with single
spaces in between.
-/

set_option autoImplicit false

namespace LeafLayout.Text

/-! ### Runs -/

/-- A text falls into these runs: each is blank throughout or has nothing blank in it, and of two
next to each other just one is blank, so that none could be longer. -/
structure IsRuns (text : List Char) (runs : List (List Char)) : Prop where
  flatten_eq : runs.flatten = text
  ne_nil : ∀ run ∈ runs, run ≠ []
  uniform : ∀ run ∈ runs, AllBlank run ∨ ∀ c ∈ run, isBlank c = false
  alternate : runs.IsChain fun first second ↦ AllBlank first ↔ ¬ AllBlank second

/-- What becomes of a run: one space if it is blank. -/
def closeUp (run : List Char) : List Char :=
  if AllBlank run then [' '] else run

theorem allBlank_cons_iff (c : Char) (text : List Char) :
    AllBlank (c :: text) ↔ isBlank c = true ∧ AllBlank text :=
  List.forall_mem_cons

theorem not_allBlank_of_shown {run : List Char} (hne : run ≠ [])
    (hrun : ∀ c ∈ run, isBlank c = false) : ¬ AllBlank run := by
  obtain ⟨c, more, rfl⟩ := List.exists_cons_of_ne_nil hne
  intro hblank
  have hc := hblank c List.mem_cons_self
  rw [hrun c List.mem_cons_self] at hc
  exact Bool.false_ne_true hc

theorem IsRuns.tail {text run : List Char} {runs : List (List Char)}
    (h : IsRuns text (run :: runs)) : IsRuns runs.flatten runs where
  flatten_eq := rfl
  ne_nil := fun other hother ↦ h.ne_nil other (List.mem_cons_of_mem run hother)
  uniform := fun other hother ↦ h.uniform other (List.mem_cons_of_mem run hother)
  alternate := h.alternate.tail

theorem isRuns_nil : IsRuns [] [] where
  flatten_eq := rfl
  ne_nil := fun _ hrun ↦ absurd hrun List.not_mem_nil
  uniform := fun _ hrun ↦ absurd hrun List.not_mem_nil
  alternate := List.isChain_nil

/-- A character of the same kind joins the first run. -/
theorem IsRuns.join {text run : List Char} {runs : List (List Char)} {c : Char}
    (h : IsRuns text (run :: runs)) (hc : AllBlank run ↔ isBlank c = true) :
    IsRuns (c :: text) ((c :: run) :: runs) := by
  have hkind : AllBlank (c :: run) ↔ AllBlank run := by
    rw [allBlank_cons_iff, hc, and_self]
  have hrun := h.uniform run List.mem_cons_self
  constructor
  case flatten_eq => exact congrArg (c :: ·) h.flatten_eq
  case ne_nil => exact List.forall_mem_cons.mpr ⟨List.cons_ne_nil c run, h.tail.ne_nil⟩
  case uniform =>
    refine List.forall_mem_cons.mpr ⟨?_, h.tail.uniform⟩
    rcases hrun with hblank | hshown
    · exact Or.inl (hkind.mpr hblank)
    · have hne := h.ne_nil run List.mem_cons_self
      have hfalse : isBlank c = false := by
        rw [← Bool.not_eq_true, ← hc]
        exact not_allBlank_of_shown hne hshown
      exact Or.inr (List.forall_mem_cons.mpr ⟨hfalse, hshown⟩)
  case alternate =>
    have hchain := List.isChain_cons.mp h.alternate
    refine List.isChain_cons.mpr ⟨fun next hnext ↦ ?_, hchain.2⟩
    rw [hkind]
    exact hchain.1 next hnext

/-- A character of the other kind begins a run of its own. -/
theorem IsRuns.begin {text : List Char} {runs : List (List Char)} {c : Char}
    (h : IsRuns text runs) (hc : ∀ run ∈ runs.head?, isBlank c = true ↔ ¬ AllBlank run) :
    IsRuns (c :: text) ([c] :: runs) := by
  have hkind : AllBlank [c] ↔ isBlank c = true := List.forall_mem_singleton
  constructor
  case flatten_eq => exact congrArg (c :: ·) h.flatten_eq
  case ne_nil => exact List.forall_mem_cons.mpr ⟨List.cons_ne_nil c [], h.ne_nil⟩
  case uniform =>
    refine List.forall_mem_cons.mpr ⟨?_, h.uniform⟩
    rw [hkind, List.forall_mem_singleton]
    exact Bool.eq_false_or_eq_true (isBlank c)
  case alternate =>
    refine List.isChain_cons.mpr ⟨fun next hnext ↦ ?_, h.alternate⟩
    rw [hkind]
    exact hc next hnext

theorem exists_isRuns (text : List Char) : ∃ runs, IsRuns text runs := by
  induction text with
  | nil => exact ⟨[], isRuns_nil⟩
  | cons c text ih =>
    obtain ⟨runs, hruns⟩ := ih
    rcases runs with _ | ⟨run, runs⟩
    · exact ⟨[[c]], hruns.begin fun run hrun ↦ by cases hrun⟩
    · by_cases hc : AllBlank run ↔ isBlank c = true
      · exact ⟨(c :: run) :: runs, hruns.join hc⟩
      · refine ⟨[c] :: run :: runs, hruns.begin fun first hfirst ↦ ?_⟩
        obtain rfl : run = first := Option.some.inj hfirst
        exact (not_iff.mp hc).symm

/-! ### Squeezing a run -/

theorem squeezeAfter_append_of_allBlank {run : List Char} (hrun : AllBlank run)
    (rest : List Char) : squeezeAfter true (run ++ rest) = squeezeAfter true rest := by
  induction run with
  | nil => rfl
  | cons c run ih =>
    obtain ⟨hc, hmore⟩ := (allBlank_cons_iff c run).mp hrun
    rw [List.cons_append, squeezeAfter_of_blank _ hc, ih hmore]

theorem squeezeAfter_append_of_shown {run : List Char} (hne : run ≠ [])
    (hrun : ∀ c ∈ run, isBlank c = false) (afterBlank : Bool) (rest : List Char) :
    squeezeAfter afterBlank (run ++ rest) = run ++ squeezeAfter false rest := by
  induction run generalizing afterBlank with
  | nil => exact absurd rfl hne
  | cons c run ih =>
    obtain ⟨hc, hmore⟩ := List.forall_mem_cons.mp hrun
    rw [List.cons_append, squeezeAfter_of_not_blank afterBlank _ hc, List.cons_append]
    rcases eq_or_ne run [] with rfl | hlonger
    · rfl
    · rw [ih hlonger hmore]

/-- The flag says that the blank run before has become a space already, so that the text may not go
on with another one. -/
theorem IsRuns.squeezeAfter_eq {text : List Char} {runs : List (List Char)}
    (h : IsRuns text runs) (afterBlank : Bool)
    (hfirst : ∀ run ∈ runs.head?, AllBlank run → afterBlank = false) :
    squeezeAfter afterBlank text = runs.flatMap closeUp := by
  induction runs generalizing text afterBlank with
  | nil =>
    rw [← h.flatten_eq]
    rfl
  | cons run runs ih =>
    have hne := h.ne_nil run List.mem_cons_self
    have hnext := (List.isChain_cons.mp h.alternate).1
    rw [← h.flatten_eq, List.flatten_cons, List.flatMap_cons, closeUp]
    rcases h.uniform run List.mem_cons_self with hblank | hshown
    · obtain rfl := hfirst run rfl hblank
      obtain ⟨c, more, rfl⟩ := List.exists_cons_of_ne_nil hne
      obtain ⟨hc, hmore⟩ := (allBlank_cons_iff c more).mp hblank
      have hrest := ih h.tail true fun next hmem hagain ↦
        absurd hagain ((hnext next hmem).mp hblank)
      rw [if_pos hblank, List.cons_append, squeezeAfter, if_pos hc, if_neg Bool.false_ne_true,
        squeezeAfter_append_of_allBlank hmore, hrest, List.singleton_append]
    · have hrest := ih h.tail false fun _ _ _ ↦ rfl
      rw [if_neg (not_allBlank_of_shown hne hshown), squeezeAfter_append_of_shown hne hshown, hrest]

/-! ### Squeezed texts -/

/-- There are no blanks in a text but spaces, each by itself. -/
structure IsSqueezed (text : List Char) : Prop where
  eq_space : ∀ c ∈ text, isBlank c = true → c = ' '
  apart : text.IsChain fun c d ↦ ¬ (isBlank c = true ∧ isBlank d = true)

theorem eq_space_of_mem_squeezeAfter {afterBlank : Bool} {text : List Char} {c : Char}
    (h : c ∈ squeezeAfter afterBlank text) (hc : isBlank c = true) : c = ' ' := by
  induction text generalizing afterBlank with
  | nil => exact absurd h List.not_mem_nil
  | cons d text ih =>
    rw [squeezeAfter] at h
    split_ifs at h with hd hafter
    · exact ih h
    · rcases List.mem_cons.mp h with rfl | hlater
      · rfl
      · exact ih hlater
    · rcases List.mem_cons.mp h with rfl | hlater
      · exact absurd hc hd
      · exact ih hlater

theorem isBlank_eq_false_of_mem_head?_squeezeAfter {text : List Char} {c : Char}
    (h : c ∈ (squeezeAfter true text).head?) : isBlank c = false := by
  induction text with
  | nil => cases h
  | cons d text ih =>
    rw [squeezeAfter, if_pos rfl] at h
    split_ifs at h with hd
    · exact ih h
    · obtain rfl : d = c := Option.some.inj h
      exact eq_false_of_ne_true hd

theorem isChain_squeezeAfter (afterBlank : Bool) (text : List Char) :
    (squeezeAfter afterBlank text).IsChain fun c d ↦ ¬ (isBlank c = true ∧ isBlank d = true) := by
  induction text generalizing afterBlank with
  | nil => exact List.isChain_nil
  | cons c text ih =>
    rw [squeezeAfter]
    split_ifs with hc
    · exact ih true
    · refine List.isChain_cons.mpr ⟨fun d hd hboth ↦ ?_, ih true⟩
      rw [isBlank_eq_false_of_mem_head?_squeezeAfter hd] at hboth
      exact Bool.false_ne_true hboth.2
    · exact List.isChain_cons.mpr ⟨fun _ _ hboth ↦ hc hboth.1, ih false⟩

theorem isSqueezed_squeeze (text : List Char) : IsSqueezed (squeeze text) where
  eq_space := fun _ hmem hc ↦ eq_space_of_mem_squeezeAfter hmem hc
  apart := isChain_squeezeAfter false text

theorem IsSqueezed.of_isInfix {text part : List Char} (h : IsSqueezed text)
    (hpart : part <:+: text) : IsSqueezed part := by
  obtain ⟨lead, trail, rfl⟩ := hpart
  constructor
  case eq_space =>
    intro c hc
    exact h.eq_space c (List.mem_append_left trail (List.mem_append_right lead hc))
  case apart => exact h.apart.left_of_append.right_of_append

theorem IsSqueezed.squeezeAfter_eq {text : List Char} (h : IsSqueezed text) (afterBlank : Bool)
    (hfirst : ∀ c ∈ text.head?, isBlank c = true → afterBlank = false) :
    squeezeAfter afterBlank text = text := by
  induction text generalizing afterBlank with
  | nil => rfl
  | cons c text ih =>
    have hrest := h.of_isInfix (List.suffix_cons c text).isInfix
    by_cases hc : isBlank c = true
    · obtain rfl := hfirst c rfl hc
      obtain rfl := h.eq_space c List.mem_cons_self hc
      have happart := (List.isChain_cons.mp h.apart).1
      rw [squeezeAfter, if_pos hc, if_neg Bool.false_ne_true,
        ih hrest true fun d hd hagain ↦ absurd ⟨hc, hagain⟩ (happart d hd)]
    · rw [Bool.not_eq_true] at hc
      rw [squeezeAfter_of_not_blank afterBlank text hc, ih hrest false fun _ _ _ ↦ rfl]

theorem IsSqueezed.squeeze_eq {text : List Char} (h : IsSqueezed text) : squeeze text = text :=
  h.squeezeAfter_eq false fun _ _ _ ↦ rfl

/-! ### Squeezing and stripping -/

/-- Squeezing does not touch the words of a text. -/
theorem words_squeezeAfter (afterBlank : Bool) (text : List Char) :
    words (squeezeAfter afterBlank text) = words text := by
  induction text generalizing afterBlank with
  | nil => rfl
  | cons c text ih =>
    by_cases hc : isBlank c = true
    · rw [squeezeAfter, if_pos hc, words_cons_of_blank hc]
      split_ifs
      · exact ih true
      · rw [words_cons_of_blank isBlank_space, ih]
    · rw [Bool.not_eq_true] at hc
      rw [squeezeAfter_of_not_blank afterBlank text hc]
      -- The word that begins here goes on with the next character, or a blank ends it.
      rcases text with _ | ⟨d, text⟩
      · rfl
      · by_cases hd : isBlank d = true
        · have hrest := ih true
          rw [squeezeAfter_of_blank text hd, words_cons_of_blank hd] at hrest
          have hspaced := words_append_cons isBlank_space [c] (squeezeAfter true text)
          have hended := words_append_cons hd [c] text
          rw [hrest] at hspaced
          rw [squeezeAfter, if_pos hd, if_neg Bool.false_ne_true]
          exact hspaced.trans hended.symm
        · rw [Bool.not_eq_true] at hd
          have hrest := ih false
          rw [squeezeAfter_of_not_blank false text hd] at hrest ⊢
          obtain ⟨word, more, hlater, hjoined⟩ := exists_words_cons_cons hc hd text
          obtain ⟨word', more', hlater', hjoined'⟩ :=
            exists_words_cons_cons hc hd (squeezeAfter false text)
          rw [hlater, hlater'] at hrest
          obtain ⟨rfl, rfl⟩ := List.cons.inj hrest
          rw [hjoined, hjoined']

theorem strip_isInfix (text : List Char) : strip text <:+: text := by
  obtain ⟨lead, trail, htext, -, -⟩ := exists_strip_between text
  exact ⟨lead, trail, htext.symm⟩

/-- A squeezed text that is stripped is still squeezed, so that only its words matter. -/
theorem strip_squeeze (text : List Char) : strip (squeeze text) = squeeze (strip text) := by
  have hstripped := (isSqueezed_squeeze text).of_isInfix (strip_isInfix (squeeze text))
  calc strip (squeeze text)
      = squeeze (strip (squeeze text)) := hstripped.squeeze_eq.symm
    _ = [' '].intercalate (words (squeeze text)) := squeeze_strip (squeeze text)
    _ = [' '].intercalate (words text) := by rw [squeeze, words_squeezeAfter]
    _ = squeeze (strip text) := (squeeze_strip text).symm

/-- Squeezing makes one space of every blank run of a text and leaves all else as it is. Its outcome
has no blanks but single spaces and the same other characters, and is left alone by squeezing.
Stripped before or after, it is the words of the text with single spaces in between. -/
theorem squeeze_closes_up_runs (text : List Char) :
    ((∃ runs, IsRuns text runs) ∧
      ∀ runs, IsRuns text runs → squeeze text = runs.flatMap closeUp) ∧
    IsSqueezed (squeeze text) ∧
    nonblanks (squeeze text) = nonblanks text ∧
    squeeze (squeeze text) = squeeze text ∧
    strip (squeeze text) = squeeze (strip text) ∧
    squeeze (strip text) = [' '].intercalate (words text) := by
  refine ⟨⟨exists_isRuns text, fun runs hruns ↦ ?_⟩, isSqueezed_squeeze text,
    nonblanks_squeeze text, squeeze_squeeze text, strip_squeeze text, squeeze_strip text⟩
  exact hruns.squeezeAfter_eq false fun _ _ _ ↦ rfl

end LeafLayout.Text
