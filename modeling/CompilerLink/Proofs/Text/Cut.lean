import Mathlib
import CompilerLink.Text.Split

/-! # Texts cut at a mark

A text that is cut wherever a mark stands in it comes apart into pieces. `IsCut mark text pieces`
says what these are without saying how they are found: the mark stands in none of them, and they are
the text again with the mark between them. A function that finds them is one of `Cuts`. For a mark
of one character this is `splitOn`, by `isCut_singleton_iff`. -/

namespace CompilerLink.Text

/-- What a text comes apart into when it is cut at a mark. -/
structure IsCut (mark text : String) (pieces : List String) : Prop where
  ne_nil : pieces ≠ []
  /-- No piece has the mark in it. -/
  clean : ∀ piece ∈ pieces, ¬ mark.toList <:+: piece.toList
  /-- With the mark between them, the pieces are the text. -/
  joined : mark.intercalate pieces = text

/-- `IsCut` of texts with a mark between them has the pieces of both. -/
theorem IsCut.append {mark a b : String} {pieces others : List String} (ha : IsCut mark a pieces)
    (hb : IsCut mark b others) : IsCut mark (a ++ mark ++ b) (pieces ++ others) where
  ne_nil := List.append_ne_nil_of_left_ne_nil ha.ne_nil others
  clean piece hpiece := (List.mem_append.1 hpiece).elim (ha.clean piece) (hb.clean piece)
  joined := by
    rw [String.intercalate_append_of_ne_nil ha.ne_nil hb.ne_nil, ha.joined, hb.joined]

/-! ### Functions that cut -/

/-- A function that cuts texts at a mark, in the only way there is. -/
structure Cuts (mark : List Char) (cut : List Char → List (List Char)) : Prop where
  ne_nil : ∀ cs, cut cs ≠ []
  clean : ∀ cs, ∀ piece ∈ cut cs, ¬ mark <:+: piece
  joined : ∀ cs, mark.intercalate (cut cs) = cs
  /-- Pieces without the mark in them are found again. -/
  unique : ∀ pieces, pieces ≠ [] → (∀ piece ∈ pieces, ¬ mark <:+: piece) →
    cut (mark.intercalate pieces) = pieces

/-- `IsCut` at the mark of a function that `Cuts` determines the pieces. -/
theorem Cuts.isCut_iff {mark text : String} {pieces : List String}
    {cut : List Char → List (List Char)} (h : Cuts mark.toList cut) :
    IsCut mark text pieces ↔ pieces = (cut text.toList).map String.ofList := by
  constructor
  · rintro ⟨hne, hclean, rfl⟩
    -- Pieces without the mark are found again by the cut, so there is no other way.
    have hpieces : ∀ piece ∈ pieces.map String.toList, ¬ mark.toList <:+: piece := by
      rw [List.forall_mem_map]
      exact hclean
    rw [String.toList_intercalate, h.unique _ (by simpa using hne) hpieces, List.map_map]
    simp
  · rintro rfl
    refine ⟨by simpa using h.ne_nil text.toList, ?_, ?_⟩
    · rw [List.forall_mem_map]
      intro piece hpiece
      rw [String.toList_ofList]
      exact h.clean text.toList piece hpiece
    · rw [← String.toList_inj, String.toList_intercalate, List.map_map]
      simp [Function.comp_def, h.joined]

/-! ### Marks of one character -/

variable {mark : Char}

/-- `splitOn` is `List.splitOn`. -/
theorem splitOn_eq (mark : Char) (cs : List Char) : splitOn mark cs = cs.splitOn mark := by
  induction cs with
  | nil => exact (List.splitOn_nil mark).symm
  | cons c rest ih =>
    rw [splitOn, ih, List.splitOn_cons_eq_if_modifyHead]
    by_cases hc : c = mark
    · rw [if_pos hc, if_pos (beq_iff_eq.2 hc)]
    · rw [if_neg hc, if_neg (by simpa using hc)]
      -- There is a first piece, to which the character goes.
      cases hparts : rest.splitOn mark with
      | nil => exact absurd hparts (List.splitOn_ne_nil mark rest)
      | cons part parts => rfl

/-- `splitOn` always finds a piece. -/
theorem splitOn_ne_nil (mark : Char) (cs : List Char) : splitOn mark cs ≠ [] := by
  rw [splitOn_eq]
  exact List.splitOn_ne_nil mark cs

/-- `splitOn` leaves no mark in any piece. -/
theorem not_mem_of_mem_splitOn {cs piece : List Char} (hpiece : piece ∈ splitOn mark cs) :
    mark ∉ piece := by
  induction cs generalizing piece with
  | nil =>
    rw [splitOn, List.mem_singleton] at hpiece
    rw [hpiece]
    exact List.not_mem_nil
  | cons c rest ih =>
    rw [splitOn] at hpiece
    split at hpiece
    · rcases List.mem_cons.1 hpiece with rfl | hrest
      · exact List.not_mem_nil
      · exact ih hrest
    · rename_i hc
      -- The character goes to the front of the first piece.
      cases hparts : splitOn mark rest with
      | nil => exact absurd hparts (splitOn_ne_nil mark rest)
      | cons first others =>
        simp only [hparts, List.mem_cons] at hpiece ih
        rcases hpiece with rfl | hother
        · rw [List.mem_cons, not_or]
          exact ⟨Ne.symm hc, ih (.inl rfl)⟩
        · exact ih (.inr hother)

/-- `splitOn` is a function that `Cuts` at a mark of one character. -/
theorem cuts_splitOn (mark : Char) : Cuts [mark] (splitOn mark) where
  ne_nil := splitOn_ne_nil mark
  clean cs piece hpiece hinfix :=
    not_mem_of_mem_splitOn hpiece ((List.singleton_infix_iff _ _).1 hinfix)
  joined cs := by rw [splitOn_eq, List.intercalate_splitOn]
  unique pieces hne hclean := by
    have hnot : ∀ piece ∈ pieces, mark ∉ piece := fun piece hpiece hmem =>
      hclean piece hpiece ((List.singleton_infix_iff _ _).2 hmem)
    rw [splitOn_eq, List.splitOn_intercalate mark hnot hne]

/-- `IsCut` at a single character determines the pieces: they are those of `splitOn`. -/
theorem isCut_singleton_iff {text : String} {pieces : List String} :
    IsCut (String.singleton mark) text pieces ↔
      pieces = (splitOn mark text.toList).map String.ofList := by
  have hcuts : Cuts (String.singleton mark).toList (splitOn mark) := by
    rw [String.toList_singleton]
    exact cuts_splitOn mark
  exact hcuts.isCut_iff

end CompilerLink.Text
