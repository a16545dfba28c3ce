import LeafLayout.Proofs.Text.Blanks
import Mathlib.Data.List.TakeWhile

/-!
The words of a text are what stands between its blanks. Blanks around a text do not matter to its
words. A text that does not end with a blank is squeezed, but for a blank at its front, into its
words with single spaces in between, and so is every text that is stripped first.
-/

set_option autoImplicit false

namespace LeafLayout.Text

/-- What stands between the blanks of a text, where something does. -/
def words (text : List Char) : List (List Char) :=
  (text.splitOnP isBlank).filter fun word ↦ !word.isEmpty

theorem words_nil : words [] = [] := by
  simp [words, List.splitOnP_nil]

/-- A blank separates the words before it from those after it. -/
theorem words_append_cons {c : Char} (hc : isBlank c = true) (first second : List Char) :
    words (first ++ c :: second) = words first ++ words second := by
  unfold words
  rw [List.splitOnP_append_cons first second hc, List.filter_append]

theorem words_cons_of_blank {c : Char} (hc : isBlank c = true) (text : List Char) :
    words (c :: text) = words text := by
  have hfirst := words_append_cons hc [] text
  rwa [words_nil, List.nil_append, List.nil_append] at hfirst

theorem words_singleton {c : Char} (hc : isBlank c = false) : words [c] = [[c]] := by
  simp [words, List.splitOnP_cons_eq_if_modifyHead, List.splitOnP_nil, hc]

/-- A character before another one that is not blank belongs to the same word. -/
theorem exists_words_cons_cons {c d : Char} (hc : isBlank c = false) (hd : isBlank d = false)
    (text : List Char) :
    ∃ word more, words (d :: text) = word :: more ∧
      words (c :: d :: text) = (c :: word) :: more := by
  obtain ⟨begun, others, hsplit⟩ :=
    List.exists_cons_of_ne_nil (List.splitOnP_ne_nil isBlank text)
  refine ⟨d :: begun, others.filter fun word ↦ !word.isEmpty, ?_, ?_⟩
  · simp [words, List.splitOnP_cons_eq_if_modifyHead, hd, hsplit]
  · simp [words, List.splitOnP_cons_eq_if_modifyHead, hc, hd, hsplit]

/-! ### Blanks around a text -/

theorem words_append_of_allBlank_left {lead : List Char} (hlead : AllBlank lead)
    (text : List Char) : words (lead ++ text) = words text := by
  induction lead with
  | nil => rfl
  | cons c lead ih =>
    have hrest : AllBlank lead := fun d hd ↦ hlead d (List.mem_cons_of_mem c hd)
    rw [List.cons_append, words_cons_of_blank (hlead c List.mem_cons_self), ih hrest]

theorem words_of_allBlank {text : List Char} (h : AllBlank text) : words text = [] := by
  have hwords := words_append_of_allBlank_left h []
  rwa [List.append_nil, words_nil] at hwords

theorem words_append_of_allBlank_right {trail : List Char} (htrail : AllBlank trail)
    (text : List Char) : words (text ++ trail) = words text := by
  cases trail with
  | nil => rw [List.append_nil]
  | cons c trail =>
    have hrest : AllBlank trail := fun d hd ↦ htrail d (List.mem_cons_of_mem c hd)
    rw [words_append_cons (htrail c List.mem_cons_self), words_of_allBlank hrest, List.append_nil]

theorem words_strip (text : List Char) : words (strip text) = words text := by
  obtain ⟨lead, trail, htext, hlead, htrail⟩ := exists_strip_between text
  have hparts := congrArg words htext
  rw [words_append_of_allBlank_right htrail, words_append_of_allBlank_left hlead] at hparts
  exact hparts.symm

/-! ### Squeezing into words -/

theorem intercalate_cons_word (separator : List Char) (c : Char) (word : List Char)
    (more : List (List Char)) :
    separator.intercalate ((c :: word) :: more) = c :: separator.intercalate (word :: more) := by
  cases more with
  | nil => rw [List.intercalate_singleton, List.intercalate_singleton]
  | cons next more =>
    rw [List.intercalate_cons_cons, List.intercalate_cons_cons]
    rfl

/-- Induction on the text: its first character is passed over, ends a word or belongs to the word
that the next one is in. -/
theorem squeezeAfter_true_eq (text : List Char) :
    ∀ c, text.getLast? = some c → isBlank c = false →
      words text ≠ [] ∧ squeezeAfter true text = [' '].intercalate (words text) := by
  induction text with
  | nil =>
    intro c hc
    cases hc
  | cons c text ih =>
    intro last hlast hshown
    cases text with
    | nil =>
      obtain rfl : c = last := Option.some.inj hlast
      rw [words_singleton hshown, squeezeAfter_of_not_blank true [] hshown]
      exact ⟨List.cons_ne_nil _ _, rfl⟩
    | cons d text =>
      obtain ⟨hne, hrest⟩ := ih last (by rw [← hlast, List.getLast?_cons_cons]) hshown
      by_cases hc : isBlank c = true
      · rw [words_cons_of_blank hc, squeezeAfter_of_blank _ hc]
        exact ⟨hne, hrest⟩
      · rw [Bool.not_eq_true] at hc
        rw [squeezeAfter_of_not_blank true _ hc]
        by_cases hd : isBlank d = true
        · rw [words_cons_of_blank hd] at hne hrest
          rw [squeezeAfter_of_blank _ hd] at hrest
          obtain ⟨word, more, hwords⟩ := List.exists_cons_of_ne_nil hne
          have hfirst := words_append_cons hd [c] text
          rw [words_singleton hc, List.singleton_append, List.singleton_append] at hfirst
          rw [hfirst, squeezeAfter, if_pos hd, if_neg Bool.false_ne_true, hrest, hwords,
            List.intercalate_cons_cons]
          exact ⟨List.cons_ne_nil _ _, rfl⟩
        · rw [Bool.not_eq_true] at hd
          obtain ⟨word, more, hlater, hwords⟩ := exists_words_cons_cons hc hd text
          rw [squeezeAfter_of_not_blank true _ hd, hlater] at hrest
          rw [squeezeAfter_of_not_blank false _ hd, hrest, hwords, intercalate_cons_word]
          exact ⟨List.cons_ne_nil _ _, rfl⟩

/-- A stripped text, squeezed, is the words of the text with single spaces in between. -/
theorem squeeze_strip (text : List Char) :
    squeeze (strip text) = [' '].intercalate (words text) := by
  have hcore := isCore_strip text
  rw [← words_strip text]
  generalize strip text = core at hcore
  cases core with
  | nil =>
    rw [words_nil]
    rfl
  | cons c core =>
    have hc : isBlank c = false := hcore.1 c rfl
    obtain ⟨last, hlast⟩ := Option.ne_none_iff_exists'.mp
      (mt List.getLast?_eq_none_iff.mp (List.cons_ne_nil c core))
    rw [← (squeezeAfter_true_eq (c :: core) last hlast (hcore.2 last hlast)).2, squeeze,
      squeezeAfter_of_not_blank false core hc, squeezeAfter_of_not_blank true core hc]

theorem words_eq_nil_iff (text : List Char) : words text = [] ↔ AllBlank text := by
  constructor
  · intro hnone
    have hempty : squeeze (strip text) = [] := by
      rw [squeeze_strip, hnone, List.intercalate_nil]
    rw [← nonblanks_eq_nil_iff, ← nonblanks_strip, ← nonblanks_squeeze, hempty]
    rfl
  · exact words_of_allBlank

end LeafLayout.Text
