import LeafLayout.Proofs.Glob.Matches

/-!
A pattern matches the same on disks with the same outline: the walk asks what leads somewhere, what
is a directory and what a directory lists, and never reads a file.
-/

set_option autoImplicit false

namespace LeafLayout.Glob

variable {first second : Disk}

theorem ofPath_congr (h : first.outline = second.outline) :
    Spot.ofPath first = Spot.ofPath second := by
  funext path
  rw [Spot.ofPath, Spot.ofPath, Disk.isDirectory_congr h]

theorem children_congr (h : first.outline = second.outline) :
    children first = children second := by
  funext spot
  rw [children, children, Disk.list_congr h]

theorem below_congr (h : first.outline = second.outline) (levels : Nat) (spot : Spot) :
    below first levels spot = below second levels spot := by
  induction levels generalizing spot with
  | zero => rfl
  | succ levels ih =>
    rw [below, below, children_congr h]
    simp only [ih]

theorem plainStep?_congr (h : first.outline = second.outline) :
    plainStep? first = plainStep? second := by
  funext spot name
  simp only [plainStep?, Disk.has_congr h, ofPath_congr h]

theorem dotSteps_congr (h : first.outline = second.outline) :
    dotSteps first = dotSteps second := by
  funext spot tokens
  simp only [dotSteps, ofPath_congr h]

/-- The recursion is the walk's own: a step for each component, and one for any depth together with
the component after it. -/
theorem search_congr (h : first.outline = second.outline) :
    ∀ (components : List Component) (spot : Spot),
      search first components spot = search second components spot
  | [], spot => by rw [search, search]
  | .plain name :: more, spot => by
    have hmore := funext (search_congr h more)
    simp only [search, plainStep?_congr h, hmore]
  | .wild tokens :: more, spot => by
    have hmore := funext (search_congr h more)
    simp only [search, children_congr h, dotSteps_congr h, hmore]
  | [.anyDepth], spot => by
    simp only [search, Disk.depth_congr h, below_congr h]
  | .anyDepth :: component :: more, spot => by
    have hmore := funext (search_congr h more)
    simp only [search, Disk.depth_congr h, below_congr h, hmore]

/-- What a pattern matches does not depend on what is in the files. -/
theorem walker_keepsToOutline : walker.KeepsToOutline := by
  intro text walk hwalk first second h
  obtain ⟨pattern, -, rfl⟩ : ∃ pattern, Pattern.read text = .ok pattern ∧ pattern.walk = walk := by
    unfold walker at hwalk
    cases hread : Pattern.read text with
    | error error =>
      rw [hread] at hwalk
      cases hwalk
    | ok pattern =>
      rw [hread] at hwalk
      exact ⟨pattern, rfl, Except.ok.inj hwalk⟩
  simp only [Pattern.walk, ofPath_congr h, search_congr h]

end LeafLayout.Glob
