import CompilerLink.Crash.Pattern
import CompilerLink.Proofs.Text.Cut

/-! # File names with the process id in them

The process id is put in the place of every mark `%p`, so it joins the pieces that the marks kept
apart, by `expand_eq_intercalate`. It is left to show that nothing else happens. The one thing to
watch is a seam, where a `%` may come to stand before a `p`. Two patterns side by side are expanded
one by one unless there is a mark across the seam, by `expand_append`. As a process id has neither a
`%` nor a `p` in it, no new mark comes about where one was replaced, by `IsId.isClean_expand`. -/

namespace CompilerLink.Crash

open Text (IsCut)

variable {processId pattern a b : List Char}

/-! ### Marks -/

/-- The two characters `%p` that stand for the process id. -/
def mark : List Char := ['%', 'p']

/-- A mark lies across the seam of two texts. -/
def Seam (a b : List Char) : Prop := a.getLast? = some '%' ∧ b.head? = some 'p'

/-- `Seam` does not depend on how the first text begins. -/
theorem Seam.cons (h : Seam a b) (c : Char) : Seam (c :: a) b := by
  obtain ⟨before, rfl⟩ := List.getLast?_eq_some_iff.1 h.1
  exact ⟨by rw [← List.cons_append, List.getLast?_concat], h.2⟩

/-- No two neighbours are a `mark`. -/
def IsClean (cs : List Char) : Prop := cs.IsChain fun c d => ¬ (c = '%' ∧ d = 'p')

/-- `IsClean` texts are those without `mark` as an infix. -/
theorem isClean_iff {cs : List Char} : IsClean cs ↔ ¬ mark <:+: cs := by
  rw [IsClean, List.isChain_iff_forall_rel_of_append_cons_cons]
  constructor
  · rintro hclean ⟨before, after, rfl⟩
    have hmark : before ++ mark ++ after = before ++ '%' :: 'p' :: after := by simp [mark]
    exact hclean hmark ⟨rfl, rfl⟩
  · rintro hnot c d before after rfl ⟨rfl, rfl⟩
    exact hnot ⟨before, after, by simp [mark]⟩

/-- An append is `IsClean` iff both parts are and there is no `Seam`. -/
theorem isClean_append : IsClean (a ++ b) ↔ IsClean a ∧ IsClean b ∧ ¬ Seam a b := by
  rw [IsClean, List.isChain_append, ← IsClean, ← IsClean]
  refine and_congr_right fun _ => and_congr_right fun _ => ?_
  constructor
  · rintro hseam ⟨hlast, hfirst⟩
    exact hseam '%' hlast 'p' hfirst ⟨rfl, rfl⟩
  · rintro hseam c hlast d hfirst ⟨rfl, rfl⟩
    exact hseam ⟨hlast, hfirst⟩

/-- `isClean_append` for a single character before a text. -/
theorem isClean_cons {c : Char} {rest : List Char} :
    IsClean (c :: rest) ↔ IsClean rest ∧ ¬ (c = '%' ∧ rest.head? = some 'p') := by
  have hcons : IsClean ([c] ++ rest) ↔ IsClean [c] ∧ IsClean rest ∧ ¬ Seam [c] rest :=
    isClean_append
  have hone : IsClean [c] := .singleton c
  rw [List.singleton_append, and_iff_right hone, Seam, List.getLast?_singleton,
    Option.some.injEq] at hcons
  exact hcons

/-! ### What is done with a pattern -/

/-- `expand` puts the process id in the place of a `mark`. -/
theorem expand_mark (rest : List Char) :
    expand processId (mark ++ rest) = processId ++ expand processId rest := rfl

/-- `expand` keeps a character that does not begin a mark. -/
theorem expand_cons {c : Char} {rest : List Char} (hc : ¬ (c = '%' ∧ rest.head? = some 'p')) :
    expand processId (c :: rest) = c :: expand processId rest := by
  rw [expand]
  rintro rest' rfl rfl
  exact hc ⟨rfl, rfl⟩

/-- Induction on a pattern that is empty, begins with a `mark`, or begins with a character that
stays. Its cases are those of `expand` and of `pieces`. -/
theorem pattern_induction {P : List Char → Prop} (hnil : P [])
    (hmark : ∀ rest, P rest → P (mark ++ rest))
    (hcons : ∀ c rest, ¬ (c = '%' ∧ rest.head? = some 'p') → P rest → P (c :: rest))
    (pattern : List Char) : P pattern := by
  induction pattern using expand.induct with
  | case1 => exact hnil
  | case2 rest ih => exact hmark rest ih
  | case3 c rest hc ih =>
    -- The recursion has matched no mark here, which is what `hcons` asks for.
    refine hcons c rest ?_ ih
    rintro ⟨rfl, hp⟩
    obtain ⟨rest', rfl⟩ := List.head?_eq_some_iff.1 hp
    exact hc rest' rfl rfl

/-- `expand` of an append is the append of both expansions, unless there is a `Seam`. -/
theorem expand_append (h : ¬ Seam a b) :
    expand processId (a ++ b) = expand processId a ++ expand processId b := by
  induction a using pattern_induction with
  | hnil => rfl
  | hmark rest ih =>
    have hrest : ¬ Seam rest b := fun hseam => h ((hseam.cons 'p').cons '%')
    rw [List.append_assoc, expand_mark, expand_mark, ih hrest, List.append_assoc]
  | hcons c rest hc ih =>
    have hrest : ¬ Seam rest b := fun hseam => h (hseam.cons c)
    -- Behind the character comes no `p`, neither in the rest nor in the other pattern.
    have hboth : ¬ (c = '%' ∧ (rest ++ b).head? = some 'p') := by
      rintro ⟨rfl, hp⟩
      cases rest with
      | nil => exact h ⟨rfl, hp⟩
      | cons d rest => exact hc ⟨rfl, hp⟩
    rw [List.cons_append, expand_cons hboth, expand_cons hc, ih hrest, List.cons_append]

/-- `expand` with `mark` itself for the process id does nothing. -/
theorem expand_self (pattern : List Char) : expand mark pattern = pattern := by
  induction pattern using pattern_induction with
  | hnil => rfl
  | hmark rest ih => rw [expand_mark, ih]
  | hcons c rest hc ih => rw [expand_cons hc, ih]

/-! ### Pieces -/

/-- A pattern cut at its marks, which are met from the left. -/
def pieces : List Char → List (List Char)
  | [] => [[]]
  | '%' :: 'p' :: rest => [] :: pieces rest
  | c :: rest => (pieces rest).modifyHead (c :: ·)

/-- A `mark` ends an empty first piece. -/
theorem pieces_mark (rest : List Char) : pieces (mark ++ rest) = [] :: pieces rest := rfl

/-- A character that does not begin a mark goes to the first piece. -/
theorem pieces_cons {c : Char} {rest : List Char} (hc : ¬ (c = '%' ∧ rest.head? = some 'p')) :
    pieces (c :: rest) = (pieces rest).modifyHead (c :: ·) := by
  rw [pieces]
  rintro rest' rfl rfl
  exact hc ⟨rfl, rfl⟩

/-- `pieces` is never empty. -/
theorem exists_pieces_eq (pattern : List Char) :
    ∃ first others, pieces pattern = first :: others := by
  induction pattern using pattern_induction with
  | hnil => exact ⟨_, _, rfl⟩
  | hmark rest ih => exact ⟨_, _, rfl⟩
  | hcons c rest hc ih =>
    obtain ⟨first, others, hrest⟩ := ih
    rw [pieces_cons hc, hrest]
    exact ⟨_, _, rfl⟩

/-- `expand` joins the `pieces` with the process id. -/
theorem expand_eq_intercalate (processId pattern : List Char) :
    expand processId pattern = processId.intercalate (pieces pattern) := by
  induction pattern using pattern_induction with
  | hnil => rfl
  | hmark rest ih =>
    obtain ⟨first, others, hrest⟩ := exists_pieces_eq rest
    rw [expand_mark, ih, pieces_mark, hrest, List.intercalate_cons_cons, List.nil_append]
  | hcons c rest hc ih =>
    obtain ⟨first, others, hrest⟩ := exists_pieces_eq rest
    rw [expand_cons hc, ih, pieces_cons hc, hrest]
    -- The character joins the first piece, whether others follow it or not.
    cases others <;> simp [List.intercalate_cons_cons]

/-- With `mark` between them, the `pieces` are the pattern again. -/
theorem intercalate_pieces (pattern : List Char) : mark.intercalate (pieces pattern) = pattern := by
  rw [← expand_eq_intercalate, expand_self]

/-- Every one of the `pieces` is `IsClean`. -/
theorem isClean_of_mem_pieces {piece : List Char} (hpiece : piece ∈ pieces pattern) :
    IsClean piece := by
  induction pattern using pattern_induction generalizing piece with
  | hnil =>
    rw [List.mem_singleton.1 hpiece]
    exact .nil
  | hmark rest ih =>
    rcases List.mem_cons.1 hpiece with rfl | hrest
    · exact .nil
    · exact ih hrest
  | hcons c rest hc ih =>
    obtain ⟨first, others, hparts⟩ := exists_pieces_eq rest
    have hrest := intercalate_pieces rest
    rw [hparts] at ih hrest
    rw [pieces_cons hc, hparts, List.modifyHead_cons] at hpiece
    rcases List.mem_cons.1 hpiece with rfl | hother
    · refine isClean_cons.2 ⟨ih List.mem_cons_self, fun hfirst => hc ⟨hfirst.1, ?_⟩⟩
      -- The rest of the pattern begins like its first piece.
      obtain ⟨first', rfl⟩ := List.head?_eq_some_iff.1 hfirst.2
      rw [← hrest]
      cases others <;> simp [List.intercalate_cons_cons]
    · exact ih (List.mem_cons_of_mem _ hother)

/-- A text that is `IsClean` goes to the first of the `pieces` of what follows, unless there is a
`Seam`. -/
theorem pieces_append (hclean : IsClean a) (h : ¬ Seam a b) :
    pieces (a ++ b) = (pieces b).modifyHead (a ++ ·) := by
  induction a with
  | nil =>
    obtain ⟨first, others, hb⟩ := exists_pieces_eq b
    rw [List.nil_append, hb]
    rfl
  | cons c rest ih =>
    obtain ⟨hrest, hc⟩ := isClean_cons.1 hclean
    -- The character begins no mark, whether its successor is in `rest` or is the head of `b`.
    have hboth : ¬ (c = '%' ∧ (rest ++ b).head? = some 'p') := by
      rintro ⟨rfl, hp⟩
      cases rest with
      | nil => exact h ⟨rfl, hp⟩
      | cons d rest => exact hc ⟨rfl, hp⟩
    rw [List.cons_append, pieces_cons hboth, ih hrest fun hseam => h (hseam.cons c),
      List.modifyHead_modifyHead]
    rfl

/-- A text that is `IsClean` is its only piece. -/
theorem pieces_of_isClean (hclean : IsClean a) : pieces a = [a] := by
  have happend := pieces_append hclean (b := []) fun h => nomatch h.2
  simpa [pieces] using happend

/-- There is no other way to cut a pattern: clean parts joined with `mark` are its `pieces`. -/
theorem pieces_intercalate {parts : List (List Char)} (hne : parts ≠ [])
    (hclean : ∀ part ∈ parts, IsClean part) : pieces (mark.intercalate parts) = parts := by
  induction parts with
  | nil => exact absurd rfl hne
  | cons part rest ih =>
    have hpart := hclean part List.mem_cons_self
    cases rest with
    | nil => rw [List.intercalate_singleton, pieces_of_isClean hpart]
    | cons next rest =>
      have hafter := ih (List.cons_ne_nil _ _) fun p hp => hclean p (List.mem_cons_of_mem _ hp)
      -- The mark comes whole behind `part`, so no mark is made at the seam.
      have hseam : ¬ Seam part (mark ++ mark.intercalate (next :: rest)) := by
        rintro ⟨-, hfirst⟩
        exact absurd hfirst (by simp [mark])
      rw [List.intercalate_cons_cons, List.append_assoc, pieces_append hpart hseam, pieces_mark,
        hafter, List.modifyHead_cons, List.append_nil]

/-- `expand` leaves a text that is `IsClean`. -/
theorem expand_of_isClean (hclean : IsClean a) : expand processId a = a := by
  rw [expand_eq_intercalate, pieces_of_isClean hclean, List.intercalate_singleton]

/-- `pieces` is the cut at `mark` in the sense of `Text.Cuts`. -/
theorem cuts_pieces : Text.Cuts mark pieces where
  ne_nil pattern := by
    obtain ⟨first, others, hpieces⟩ := exists_pieces_eq pattern
    rw [hpieces]
    exact List.cons_ne_nil first others
  clean _ _ hpiece := isClean_iff.1 (isClean_of_mem_pieces hpiece)
  joined := intercalate_pieces
  unique _ hne hclean := pieces_intercalate hne fun part hpart => isClean_iff.2 (hclean part hpart)

/-- `IsCut` at `%p` determines the parts: they are the `pieces`. -/
theorem isCut_iff {pattern : String} {parts : List String} :
    IsCut "%p" pattern parts ↔ parts = (pieces pattern.toList).map String.ofList := by
  have hcuts : Text.Cuts "%p".toList pieces := cuts_pieces
  exact hcuts.isCut_iff

/-! ### Process ids -/

/-- What is used of a process id: it is not empty, and has no character of a `mark` in it. -/
structure IsId (processId : List Char) : Prop where
  ne_nil : processId ≠ []
  not_percent : '%' ∉ processId
  not_p : 'p' ∉ processId

/-- A numeral is `IsId`. -/
theorem isId_of_digits (hne : processId ≠ [])
    (hdigits : ∀ c ∈ processId, c.isDigit = true) : IsId processId where
  ne_nil := hne
  not_percent hmem := absurd (hdigits _ hmem) (by decide)
  not_p hmem := absurd (hdigits _ hmem) (by decide)

namespace IsId

variable (hid : IsId processId)
include hid

/-- A text that is `IsId` is `IsClean`, as it lacks `%`. -/
theorem isClean : IsClean processId := by
  rw [isClean_iff]
  intro hmark
  exact hid.not_percent (hmark.subset (by simp [mark]))

/-- `expand` with an `IsId` text does not make anything start with `p`. -/
theorem head?_expand (h : (expand processId pattern).head? = some 'p') :
    pattern.head? = some 'p' := by
  induction pattern using pattern_induction with
  | hnil => exact h
  -- The expansion starts with the process id here, which has no `p`.
  | hmark rest =>
    obtain ⟨c, processId', rfl⟩ := List.exists_cons_of_ne_nil hid.ne_nil
    have hc : c = 'p' := by simpa [expand_mark] using h
    exact absurd (hc ▸ List.mem_cons_self) hid.not_p
  | hcons c rest hc =>
    rw [expand_cons hc] at h
    exact h

/-- `expand` with an `IsId` text leaves no mark, neither an old one nor a new one. -/
theorem isClean_expand (pattern : List Char) : IsClean (expand processId pattern) := by
  induction pattern using pattern_induction with
  | hnil => exact .nil
  | hmark rest ih =>
    -- The process id does not end in `%`, so no mark forms behind it; `head?_expand` is for before
    -- it.
    have hseam : ¬ Seam processId (expand processId rest) := fun hseam =>
      hid.not_percent (List.mem_of_getLast? hseam.1)
    exact isClean_append.2 ⟨hid.isClean, ih, hseam⟩
  | hcons c rest hc ih =>
    rw [expand_cons hc, isClean_cons]
    exact ⟨ih, fun hfirst => hc ⟨hfirst.1, hid.head?_expand hfirst.2⟩⟩

/-- `expand_append` is sharp: with a `Seam` the two sides differ, as one of them has a mark left. -/
theorem expand_append_iff : expand processId (a ++ b) = expand processId a ++ expand processId b ↔
    ¬ Seam a b := by
  refine ⟨fun happend hseam => ?_, expand_append⟩
  have hclean := hid.isClean_expand (a ++ b)
  rw [happend, isClean_append] at hclean
  -- The last `%` and the first `p` would be left as they are.
  obtain ⟨a', rfl⟩ := List.getLast?_eq_some_iff.1 hseam.1
  obtain ⟨b', rfl⟩ := List.head?_eq_some_iff.1 hseam.2
  apply hclean.2.2
  have hlast : expand processId (a' ++ ['%']) = expand processId a' ++ ['%'] :=
    expand_append fun h => absurd h.2 (by decide)
  have hfirst : expand processId ('p' :: b') = 'p' :: expand processId b' :=
    expand_cons fun h => absurd h.1 (by decide)
  rw [hlast, hfirst]
  exact ⟨by simp, rfl⟩

end IsId

/-! ### Patterns and process ids as text -/

/-- What comes of patterns when a process id is put into them by `expandPid`. -/
structure IsPutIn (processId : String) : Prop where
  /-- No `%p` is left, be it an old one or a new one. -/
  complete : ∀ pattern, ¬ "%p".toList <:+: (expandPid processId pattern).toList
  /-- A second `expandPid` changes nothing, not even with another process id. -/
  stable : ∀ other pattern,
    expandPid other (expandPid processId pattern) = expandPid processId pattern
  /-- There is one way to cut a pattern at its marks. -/
  isCut_unique : ∀ pattern, ∃! pieces, IsCut "%p" pattern pieces
  /-- `expandPid` joins what the marks kept apart. -/
  joins : ∀ pattern pieces, IsCut "%p" pattern pieces →
    expandPid processId pattern = processId.intercalate pieces
  /-- Patterns are expanded one by one unless a mark lies across the seam. -/
  append_iff : ∀ a b,
    expandPid processId (a ++ b) = expandPid processId a ++ expandPid processId b ↔
      ¬ (a.toList.getLast? = some '%' ∧ b.toList.head? = some 'p')

/-- `IsPutIn` holds for every numeral. -/
theorem isPutIn_of_digits {processId : String} (hne : processId ≠ "")
    (hdigits : ∀ c ∈ processId.toList, c.isDigit = true) : IsPutIn processId := by
  have hid : IsId processId.toList := isId_of_digits (by simpa using hne) hdigits
  have hmark : "%p".toList = mark := rfl
  constructor
  · -- Each field is the lemma on lists of characters, carried over to `String`.
    intro pattern
    rw [hmark, expandPid, String.toList_ofList]
    exact isClean_iff.1 (hid.isClean_expand pattern.toList)
  · intro other pattern
    have hclean := hid.isClean_expand pattern.toList
    rw [expandPid, expandPid, String.toList_ofList, expand_of_isClean hclean]
  · intro pattern
    exact ⟨_, isCut_iff.2 rfl, fun parts hparts => isCut_iff.1 hparts⟩
  · intro pattern parts hcut
    have hparts : parts.map String.toList = pieces pattern.toList := by
      rw [isCut_iff.1 hcut, List.map_map]
      simp [Function.comp_def]
    rw [← String.toList_inj, expandPid, String.toList_ofList, String.toList_intercalate, hparts]
    exact expand_eq_intercalate _ _
  · intro a b
    rw [← String.toList_inj, String.toList_append, expandPid, expandPid, expandPid,
      String.toList_ofList, String.toList_ofList, String.toList_ofList, String.toList_append]
    exact hid.expand_append_iff

/-- `isPutIn_of_digits` applies to `42`; of a mark between the halves of another one, what is left
is no mark. -/
theorem isPutIn_fortyTwo :
    "42" ≠ "" ∧ (∀ c ∈ "42".toList, c.isDigit = true) ∧ IsPutIn "42" ∧
      expandPid "42" "%%pp" = "%42p" := by
  have hne : "42" ≠ "" := by decide
  have hdigits : ∀ c ∈ "42".toList, c.isDigit = true := by simp
  have hput : IsPutIn "42" := isPutIn_of_digits hne hdigits
  have hseam : expandPid "42" "%%pp" = "%42p" := by decide
  exact ⟨hne, hdigits, hput, hseam⟩

end CompilerLink.Crash
