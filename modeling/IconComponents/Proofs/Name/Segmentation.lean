/-
**The words of a text are its maximal stretches.**

The words of a text are told by where they stand: on its maximal stretches of letters and digits, in
order, so that no letter or digit is left out and between two neighbours there is a reason to start
anew. There is only one such list. It is what the cut from the end of the text comes to, and what one
pass from its start finds, however the text is spelled in ASCII first.

* `IsSegmentation`, `IsSegmented` — the maximal stretches of a text in order, and what stands on them;
* `SegmentsFrom` — the same from a position on, one stretch after the other;
* `SegmentsFrom.isCut`, `IsCut.exists_segmentsFrom` — they are a cut, and every cut is made of them;
* `words_segmentation` — **the words of a text are the only list that stands on its maximal
  stretches.**
-/

import IconComponents.Proofs.Name.Stretch
import IconComponents.Proofs.Name.TitleCase

namespace IconComponents.Name

variable {text : Text} {list : List Text} {place front back : NonemptyInterval ℕ}
  {places : List (NonemptyInterval ℕ)} {start i : ℕ}

/-! ### Segmentations -/

/-- Between two stretches stands something that is no letter or digit, or the second one follows the
first and a step between them starts a new word. -/
inductive Separated (text : Text) (front back : NonemptyInterval ℕ) : Prop
  | apart {i : ℕ} {c : Char} (behind : front.snd < i) (before : i < back.fst)
    (found : text[i]? = some c) (apart : c.isAlphanum = false)
  | step {left right : Char} (adjacent : back.fst = front.snd + 1)
    (last : text[front.snd]? = some left) (first : text[back.fst]? = some right)
    (parts : Parts left right)

/-- The maximal stretches of a text, in order. Every letter or digit is in exactly one of them, and
between two neighbours there is a reason to start anew. -/
structure IsSegmentation (text : Text) (places : List (NonemptyInterval ℕ)) : Prop where
  maximal : ∀ place ∈ places, Maximal (IsStretch text) place
  ordered : places.Pairwise fun front back => front.snd < back.fst
  covered : ∀ i c, text[i]? = some c → c.isAlphanum = true → ∃! place, place ∈ places ∧ i ∈ place
  separated : places.IsChain (Separated text)

/-- A text cut into the words that stand on its maximal stretches. -/
def IsSegmented (text : Text) (list : List Text) : Prop :=
  ∃ places, IsSegmentation text places ∧ list = places.map (wordAt text)

/-! ### One stretch after the other -/

/-- The maximal stretches of a text from a position on, in order, with no letter or digit outside of
them. -/
structure SegmentsFrom (text : Text) (start : ℕ) (places : List (NonemptyInterval ℕ)) : Prop where
  maximal : ∀ place ∈ places, Maximal (IsStretch text) place
  behind : ∀ place ∈ places, start ≤ place.fst
  ordered : places.Pairwise fun front back => front.snd < back.fst
  covered : ∀ i, start ≤ i → (∀ place ∈ places, i ∉ place) → IsApart text i

theorem segmentsFrom_nil_iff : SegmentsFrom text start [] ↔ ∀ i, start ≤ i → IsApart text i := by
  refine ⟨fun segments i behind => segments.covered i behind (by simp), fun apart => ?_⟩
  exact ⟨by simp, by simp, .nil, fun i behind _ => apart i behind⟩

/-- **The first stretch and the others**: nothing is in front of it, and they are behind it. -/
theorem segmentsFrom_cons_iff : SegmentsFrom text start (place :: places) ↔
    start ≤ place.fst ∧ Maximal (IsStretch text) place ∧
      (∀ i, start ≤ i → i < place.fst → IsApart text i) ∧
      SegmentsFrom text (place.snd + 1) places := by
  have nonempty := place.fst_le_snd
  constructor
  · rintro ⟨maximal, behind, ordered, covered⟩
    rw [List.forall_mem_cons] at maximal behind
    rw [List.pairwise_cons] at ordered
    refine ⟨behind.1, maximal.1, fun i above below => ?_, maximal.2, ordered.1, ordered.2, ?_⟩
    · -- the others are behind the first one, so none of them holds what is in front of it
      refine covered i above (List.forall_mem_cons.mpr ⟨?_, fun later member inside => ?_⟩)
      · exact fun inside => absurd inside.1 (Nat.not_le.mpr below)
      · have further : place.snd < later.fst := ordered.1 later member
        have reached : later.fst ≤ i := inside.1
        omega
    · intro i above missed
      refine covered i (by omega) (List.forall_mem_cons.mpr ⟨fun inside => ?_, missed⟩)
      exact absurd inside.2 (Nat.not_le.mpr above)
  · rintro ⟨behind, maximal, gap, rest⟩
    refine ⟨List.forall_mem_cons.mpr ⟨maximal, rest.maximal⟩,
      List.forall_mem_cons.mpr ⟨behind, fun later member => ?_⟩,
      List.pairwise_cons.mpr ⟨rest.behind, rest.ordered⟩, fun i above missed => ?_⟩
    · have further : place.snd + 1 ≤ later.fst := rest.behind later member
      omega
    · rw [List.forall_mem_cons, NonemptyInterval.mem_def] at missed
      rcases Nat.lt_or_ge i place.fst with below | beyond
      · exact gap i above below
      · exact rest.covered i (by omega) missed.2

theorem segmentsFrom_of_isApart (apart : IsApart text start)
    (segments : SegmentsFrom text (start + 1) places) : SegmentsFrom text start places := by
  refine ⟨segments.maximal, fun place member => ?_, segments.ordered, fun i above missed => ?_⟩
  · exact Nat.le_of_succ_le (segments.behind place member)
  · rcases Nat.eq_or_lt_of_le above with rfl | above
    · exact apart
    · exact segments.covered i above missed

/-- **Two neighbours are separated.** -/
theorem SegmentsFrom.separated (segments : SegmentsFrom text start places) :
    places.IsChain (Separated text) := by
  induction places generalizing start with
  | nil => exact .nil
  | cons front places ih =>
    obtain ⟨-, maximal, -, rest⟩ := segmentsFrom_cons_iff.mp segments
    cases places with
    | nil => exact .singleton _
    | cons back places =>
      refine .cons_cons ?_ (ih rest)
      obtain ⟨behind, next, gap, -⟩ := segmentsFrom_cons_iff.mp rest
      obtain ⟨left, last, -⟩ := maximal.1.last
      obtain ⟨right, first, solid⟩ := next.1.first
      rcases Nat.eq_or_lt_of_le behind with adjacent | further
      · exact .step adjacent.symm last first
          (parts_of_maximal maximal last (adjacent ▸ first) solid)
      · have inside : front.snd + 1 < text.length :=
          further.trans_le (back.fst_le_snd.trans next.1.inside.le)
        have found := List.getElem?_eq_getElem inside
        exact .apart (Nat.lt_succ_self _) further found (gap _ le_rfl further _ found)

/-- A position is in one of the stretches at most. -/
theorem SegmentsFrom.eq_of_mem (segments : SegmentsFrom text start places) (first : front ∈ places)
    (second : back ∈ places) (inFront : i ∈ front) (inBack : i ∈ back) : front = back := by
  obtain ⟨m, boundFront, rfl⟩ := List.mem_iff_getElem.mp first
  obtain ⟨n, boundBack, rfl⟩ := List.mem_iff_getElem.mp second
  have ordered := List.pairwise_iff_getElem.mp segments.ordered
  rcases Nat.lt_trichotomy m n with before | rfl | before
  · exact absurd (inBack.1.trans inFront.2) (Nat.not_le.mpr (ordered m n _ _ before))
  · rfl
  · exact absurd (inFront.1.trans inBack.2) (Nat.not_le.mpr (ordered n m _ _ before))

/-! ### Stretches and cuts -/

theorem isCut_drop_of_isApart (apart : IsApart text start)
    (cut : IsCut (text.drop (start + 1)) list) : IsCut (text.drop start) list := by
  rcases Nat.lt_or_ge start text.length with bound | beyond
  · rw [List.drop_eq_getElem_cons bound]
    exact .apart (apart _ (List.getElem?_eq_getElem bound)) cut
  · rw [List.drop_eq_nil_of_le beyond]
    rwa [List.drop_eq_nil_of_le (Nat.le_succ_of_le beyond)] at cut

theorem isCut_drop_of_gap {stop : ℕ} (ordered : start ≤ stop)
    (gap : ∀ i, start ≤ i → i < stop → IsApart text i) (cut : IsCut (text.drop stop) list) :
    IsCut (text.drop start) list :=
  Nat.decreasingInduction' (P := fun i => IsCut (text.drop i) list)
    (fun i below above => isCut_drop_of_isApart (gap i above below)) ordered cut

/-- **The maximal stretches of a text are its cut.** -/
theorem SegmentsFrom.isCut (segments : SegmentsFrom text start places) :
    IsCut (text.drop start) (places.map (wordAt text)) := by
  induction places generalizing start with
  | nil =>
    refine isCut_drop_of_gap (Nat.le_add_right start text.length)
      (fun i above _ => segmentsFrom_nil_iff.mp segments i above) ?_
    rw [List.drop_eq_nil_of_le (Nat.le_add_left _ _)]
    exact .done
  | cons place places ih =>
    obtain ⟨behind, maximal, gap, rest⟩ := segmentsFrom_cons_iff.mp segments
    refine isCut_drop_of_gap behind gap ?_
    rw [drop_fst]
    exact .word maximal.1.isWord
      (maximal.1.endsBefore_iff.mpr fun _ _ => parts_of_maximal maximal) (ih rest)

/-- **A cut is made of the maximal stretches**, if none reaches across its start. Each word stands on
a stretch between two borders, and the cut behind it starts at the second one. -/
theorem IsCut.exists_segmentsFrom (cut : IsCut (text.drop start) list)
    (border : IsBorder text start) :
    ∃ places, SegmentsFrom text start places ∧ list = places.map (wordAt text) := by
  generalize shape : text.drop start = behind at cut
  induction cut generalizing start with
  | done =>
    refine ⟨[], segmentsFrom_nil_iff.mpr fun i above c found => ?_, rfl⟩
    rw [List.getElem?_eq_none ((List.drop_eq_nil_iff.mp shape).trans above)] at found
    cases found
  | @apart c behind list apart _ ih =>
    have found : text[start]? = some c := by
      rw [← List.head?_drop, shape, List.head?_cons]
    have isApart : IsApart text start := fun d same => by
      rwa [← Option.some.inj (found.symm.trans same)]
    have rest : text.drop (start + 1) = behind := by
      rw [← List.drop_drop, shape, List.drop_one, List.tail_cons]
    obtain ⟨places, segments, words⟩ := ih isApart.isBorder_succ rest
    exact ⟨places, segmentsFrom_of_isApart isApart segments, words⟩
  | @word word behind list isWord ends _ ih =>
    obtain ⟨place, rfl, inside, rfl, rfl⟩ := exists_place isWord.some shape
    have stretch : IsStretch text place := isStretch_of_isWord isWord inside
    have last : IsBorder text (place.snd + 1) :=
      stretch.isBorder_succ (stretch.endsBefore_iff.mp ends)
    obtain ⟨places, segments, words⟩ := ih last rfl
    refine ⟨place :: places, segmentsFrom_cons_iff.mpr ⟨le_rfl, ?_, ?_, segments⟩, ?_⟩
    · exact stretch.maximal border last
    · exact fun i above below => absurd above (Nat.not_le.mpr below)
    · rw [List.map_cons, words]

/-! ### The words of a text -/

/-- A segmentation cuts a text from its start on. -/
theorem IsSegmentation.segmentsFrom (segmentation : IsSegmentation text places) :
    SegmentsFrom text 0 places := by
  refine ⟨segmentation.maximal, fun _ _ => Nat.zero_le _, segmentation.ordered,
    fun i _ missed c found => ?_⟩
  refine Bool.not_eq_true _ ▸ fun solid => ?_
  obtain ⟨place, ⟨member, inside⟩, -⟩ := segmentation.covered i c found solid
  exact missed place member inside

theorem SegmentsFrom.isSegmentation (segments : SegmentsFrom text 0 places) :
    IsSegmentation text places := by
  refine ⟨segments.maximal, segments.ordered, fun i c found solid => ?_, segments.separated⟩
  have covers : ∃ place ∈ places, i ∈ place := by
    by_contra missed
    have apart := segments.covered i (Nat.zero_le i) (fun place member inside =>
      missed ⟨place, member, inside⟩) c found
    rw [apart] at solid
    cases solid
  obtain ⟨place, member, inside⟩ := covers
  exact ⟨place, ⟨member, inside⟩, fun other ⟨among, insideOther⟩ =>
    segments.eq_of_mem among member insideOther inside⟩

/-- **A text is segmented in one way.** -/
theorem isSegmented_iff_eq_cutWords : IsSegmented text list ↔ list = cutWords text := by
  constructor
  · rintro ⟨places, segmentation, rfl⟩
    exact segmentation.segmentsFrom.isCut.eq_cutWords
  · rintro rfl
    have cut : IsCut (text.drop 0) (cutWords text) := isCut_cutWords text
    obtain ⟨places, segments, words⟩ := cut.exists_segmentsFrom (isBorder_zero text)
    exact ⟨places, segments.isSegmentation, words⟩

/-- **The words of a text are the only list that stands on its maximal stretches**, and so they are
with every other spelling in ASCII; one pass from left to right finds them. -/
theorem words_segmentation :
    (∀ text list, IsSegmented text.transliterate list ↔ list = words text) ∧
      (∀ spell text list, IsSegmented (spell text) list ↔ list = wordsBy spell text) ∧
      ∀ spell text, ((spell text).foldl Reading.read Reading.start).words = wordsBy spell text :=
  ⟨fun _ _ => isSegmented_iff_eq_cutWords, fun _ _ _ => isSegmented_iff_eq_cutWords,
    fun spell text => words_foldl_read (spell text)⟩

/-- Capitals in a row stay together, also with small letters behind them. -/
example : words "myHTMLFile_24px".toList = ["my", "HTMLFile", "24", "px"].map String.toList := by
  decide +kernel

end IconComponents.Name
