/-
**The size of an icon's root.**

The pass over the root's size knows neither comments nor quotes: its tag is the first one that the
text opens, one in a comment included, and ends at the first `>`, one in a value included.

* `IconDocument` — comments and a root;
* `IconMarkup.withoutSize` — the root without its size;
* `stripRootSize_of_opensIn`, `stripRootSize_of_quiet`, `stripRootSize_of_joined` — what becomes of
  a document;
* `stripRootSize_document` — all of these, and when it is the document without the size of its root;
* `stripRootSize_strays` — documents in which the wrong tag, too little or too much is changed.
-/

import IconComponents.Proofs.Markup.SizeAttribute
import IconComponents.Proofs.Template.Splice

namespace IconComponents

open SizeAttribute

namespace Splicing.IconMarkup

open Document

variable {icon : IconMarkup}

/-! ### Roots -/

/-- The root with more white space in front of its first attribute, or of its end. -/
def behindBlanks (blanks : Text) (blank : ∀ c ∈ blanks, Char.isBlank c = true) (icon : IconMarkup) :
    IconMarkup :=
  match icon.attributes with
  | [] =>
    { icon with
      ending := blanks ++ icon.ending
      ends := fun c member => (List.mem_append.mp member).elim (blank c) (icon.ends c) }
  | entry :: attributes =>
    { icon with
      attributes :=
        { entry with
          gap :=
            { text := blanks ++ entry.gap.text
              some := fun none => entry.gap.some (List.append_eq_nil_iff.mp none).2
              blank := fun c member =>
                (List.mem_append.mp member).elim (blank c) (entry.gap.blank c) } } :: attributes }

/-- The root with the attributes of a list that are no sizes in front of its own. -/
def behindUnsized (icon : IconMarkup) : List Attribute → IconMarkup
  | [] => icon
  | entry :: attributes =>
    let behind := icon.behindUnsized attributes
    if entry.isSize then
      behind.behindBlanks entry.gap.text.dropLast fun c member =>
        entry.gap.blank c (List.dropLast_subset _ member)
    else { behind with attributes := entry :: behind.attributes }

/-- The root without its size. A size takes one white space character with it. -/
def withoutSize (icon : IconMarkup) : IconMarkup :=
  { icon with attributes := [] }.behindUnsized icon.attributes

/-- The name and the value of an attribute. -/
def pair (entry : Attribute) : Text × Text := (entry.name, entry.value)

/-- What is behind the attributes of a root. -/
def rest (icon : IconMarkup) : Text := icon.ending ++ (slash icon.closed ++ '>' :: icon.behind)

theorem print_eq_rest (icon : IconMarkup) :
    icon.print = SvgTag.opening ++ (icon.rootText ++ icon.rest) := by
  simp [print, SvgTag.written, rest]

/-- White space apart, a root has some attributes in front of those of another one. -/
structure Prepends (attributes : List Attribute) (icon other : IconMarkup) : Prop where
  pairs : other.attributes.map pair = (attributes ++ icon.attributes).map pair
  closed : other.closed = icon.closed
  behind : other.behind = icon.behind

theorem print_behindBlanks (blanks : Text) (blank : ∀ c ∈ blanks, Char.isBlank c = true)
    (icon : IconMarkup) :
    (icon.behindBlanks blanks blank).rootText ++ (icon.behindBlanks blanks blank).rest =
      blanks ++ (icon.rootText ++ icon.rest) := by
  obtain ⟨attributes, ending, closed, behind, ends⟩ := icon
  cases attributes with
  | nil => simp [behindBlanks, rootText, printAttributes, rest]
  | cons entry attributes =>
    simp [behindBlanks, rootText, printAttributes, rest, Attribute.print]

theorem prepends_behindBlanks (blanks : Text) (blank : ∀ c ∈ blanks, Char.isBlank c = true)
    (icon : IconMarkup) : Prepends [] icon (icon.behindBlanks blanks blank) := by
  obtain ⟨attributes, ending, closed, behind, ends⟩ := icon
  cases attributes <;> exact ⟨rfl, rfl, rfl⟩

theorem print_behindUnsized (icon : IconMarkup) (attributes : List Attribute) :
    (icon.behindUnsized attributes).rootText ++ (icon.behindUnsized attributes).rest =
      printUnsized attributes ++ (icon.rootText ++ icon.rest) := by
  induction attributes with
  | nil => rfl
  | cons entry attributes ih =>
    rw [behindUnsized]
    show _ = (entry.unsized ++ printUnsized attributes) ++ _
    rw [List.append_assoc, ← ih, Attribute.unsized]
    split
    · exact print_behindBlanks _ _ _
    · simp [rootText, printAttributes, rest]

theorem prepends_behindUnsized (icon : IconMarkup) (attributes : List Attribute) :
    Prepends (attributes.filter (!·.isSize)) icon (icon.behindUnsized attributes) := by
  induction attributes with
  | nil => exact ⟨rfl, rfl, rfl⟩
  | cons entry attributes ih =>
    rw [behindUnsized]
    split
    · next size =>
      have same := prepends_behindBlanks entry.gap.text.dropLast
        (fun c member => entry.gap.blank c (List.dropLast_subset _ member))
        (icon.behindUnsized attributes)
      rw [List.filter_cons_of_neg (by simp [size])]
      exact ⟨same.pairs.trans ih.pairs, same.closed.trans ih.closed, same.behind.trans ih.behind⟩
    · next other =>
      rw [List.filter_cons_of_pos (by simpa using other)]
      exact ⟨congrArg (pair entry :: ·) ih.pairs, ih.closed, ih.behind⟩

/-- **The root without its size** has the other attributes in their order. -/
theorem same_withoutSize (icon : IconMarkup) :
    icon.withoutSize.attributes.map pair = (icon.attributes.filter (!·.isSize)).map pair ∧
      icon.withoutSize.closed = icon.closed ∧ icon.withoutSize.behind = icon.behind := by
  have same := prepends_behindUnsized { icon with attributes := [] } icon.attributes
  have pairs := same.pairs
  rw [List.append_nil] at pairs
  exact ⟨pairs, same.closed, same.behind⟩

theorem print_withoutSize (icon : IconMarkup) :
    icon.withoutSize.print = SvgTag.opening ++ (printUnsized icon.attributes ++ icon.rest) := by
  rw [print_eq_rest, withoutSize, print_behindUnsized]
  rfl

end Splicing.IconMarkup

/-! ### Documents -/

/-- A comment, with the white space before it. Hyphens do not meet in a comment, and not at its end
either. -/
structure Comment where
  gap : Text
  words : Text
  blank : ∀ c ∈ gap, Char.isBlank c = true
  single : ¬ "--".toList <:+: words ++ ['-']

def Comment.print (comment : Comment) : Text :=
  comment.gap ++ ("<!--".toList ++ comment.words ++ "-->".toList)

/-- The text of an icon file: comments, and a root. -/
structure IconDocument where
  comments : List Comment
  gap : Text
  root : Splicing.IconMarkup
  blank : ∀ c ∈ gap, Char.isBlank c = true

namespace IconDocument

open Document SvgTag Splicing

/-- What is in front of the root. -/
def prolog (document : IconDocument) : Text :=
  document.comments.flatMap Comment.print ++ document.gap

def print (document : IconDocument) : Text := document.prolog ++ document.root.print

/-- The document without the size of its root. -/
def withoutSize (document : IconDocument) : IconDocument :=
  { document with root := document.root.withoutSize }

theorem opensIn_comment (comment : Comment) (behind : Text) :
    OpensIn (comment.print ++ behind) ↔ OpensIn comment.words ∨ OpensIn behind := by
  have shape : comment.print ++ behind =
      comment.gap ++ (['<'] ++ ("!--".toList ++ (comment.words ++ ("-->".toList ++ behind)))) := by
    simp [Comment.print]
  have alone : ¬ OpensIn ['<'] := not_opensIn_of_length (by decide)
  rw [shape, opensIn_of_free (not_mem_of_blank (by decide) comment.blank), opensIn_append rfl,
    or_iff_right alone, opensIn_of_free (by decide), opensIn_append rfl,
    opensIn_of_free (by decide)]

/-- A tag is opened in front of the root exactly if one of the comments opens it. -/
theorem opensIn_prolog (document : IconDocument) :
    OpensIn document.prolog ↔ ∃ comment ∈ document.comments, OpensIn comment.words := by
  obtain ⟨comments, gap, root, blank⟩ := document
  unfold prolog
  induction comments with
  | nil =>
    have closed : ¬ OpensIn gap := not_opensIn_of_free (not_mem_of_blank (by decide) blank)
    simpa using closed
  | cons comment comments ih =>
    simp only [List.flatMap_cons, List.append_assoc, opensIn_comment, List.exists_mem_cons_iff]
    rw [ih]

/-! ### The pass -/

theorem mem_of_mem_dropSizes {text : Text} {c : Char} (member : c ∈ dropSizes text) : c ∈ text := by
  unfold dropSizes at member
  induction text using Recogniser.scan_induction SizeAttribute.recognise with
  | nil =>
    rw [Recogniser.rewrite_nil] at member
    cases member
  | plain first text refused ih =>
    rw [Recogniser.rewrite_of_none refused] at member
    rcases List.mem_cons.mp member with rfl | member
    · exact List.mem_cons_self
    · exact List.mem_cons_of_mem _ (ih member)
  | hit text hit found ih =>
    obtain ⟨blank, key, value, -, -, -, shape⟩ := shape_of_recognise found
    rw [Recogniser.rewrite_of_some found] at member
    have inText : c ∈ text ↔ c ∈ blank :: key ++ '=' :: '"' :: (value ++ '"' :: hit.rest) := by
      rw [← shape]
    simp [inText, ih member]

variable {document : IconDocument}

/-- A comment that opens a tag is changed in the place of the root. -/
theorem stripRootSize_of_opensIn
    (opened : ∃ comment ∈ document.comments, OpensIn comment.words) :
    ∃ ahead inside rest, '>' ∉ inside ∧
      document.prolog = ahead ++ (opening ++ (inside ++ '>' :: rest)) ∧
      stripRootSize document.prolog = ahead ++ (opening ++ (dropSizes inside ++ '>' :: rest)) ∧
      stripRootSize document.print = stripRootSize document.prolog ++ document.root.print := by
  obtain ⟨comment, member, before, after, words, ends⟩ := opened
  obtain ⟨front, back, split⟩ := List.append_of_mem member
  obtain ⟨ahead, behind, prolog⟩ : ∃ ahead behind,
      document.prolog = ahead ++ (opening ++ (after ++ "-->".toList ++ behind)) := by
    refine ⟨front.flatMap Comment.print ++ comment.gap ++ "<!--".toList ++ before,
      back.flatMap Comment.print ++ document.gap, ?_⟩
    simp [IconDocument.prolog, split, Comment.print, words]
  have closed : '>' ∈ after ++ "-->".toList ++ behind := by simp
  have ends : Text.wordEnds (after ++ "-->".toList ++ behind) = true := by
    rw [List.append_assoc]
    exact wordEnds_append ends rfl
  obtain ⟨ahead, inside, rest, found, shape, free, -⟩ := find?_of_opened ahead ends closed
  rw [← prolog] at found shape
  have further := find?_append found document.root.print
  refine ⟨ahead, inside, rest, free, shape.symm, stripRootSize_of_find found, ?_⟩
  rw [print, stripRootSize_of_find further, stripRootSize_of_find found]
  simp

/-- A comment that opens a tag is kept exactly if nothing is dropped from that tag. -/
theorem stripRootSize_eq_withoutSize_of_opensIn
    (opened : ∃ comment ∈ document.comments, OpensIn comment.words) :
    stripRootSize document.print = document.withoutSize.print ↔
      stripRootSize document.prolog = document.prolog ∧
        ∀ entry ∈ document.root.attributes, entry.isSize = false := by
  obtain ⟨ahead, inside, rest, free, prolog, stripped, whole⟩ := stripRootSize_of_opensIn opened
  have expected : document.withoutSize.print = document.prolog ++
      (opening ++ (printUnsized document.root.attributes ++ document.root.rest)) := by
    rw [print, ← IconMarkup.print_withoutSize]
    rfl
  rw [whole, expected, IconMarkup.print_eq_rest, ← printUnsized_eq_iff]
  constructor
  · intro same
    have kept : stripRootSize document.prolog = document.prolog := by
      rw [stripped, prolog] at same ⊢
      simp only [List.append_assoc, List.cons_append] at same
      have inner := List.append_cancel_left (List.append_cancel_left same)
      rw [(Text.append_cons_inj (fun member => free (mem_of_mem_dropSizes member)) free inner).1]
    rw [kept] at same
    have inner := List.append_cancel_left (List.append_cancel_left same)
    exact ⟨kept, (List.append_cancel_right inner).symm⟩
  · rintro ⟨kept, none⟩
    rw [kept, none]
    rfl

/-- Otherwise the root is changed up to its first `>`. -/
theorem stripRootSize_of_not_opensIn
    (closed : ¬ ∃ comment ∈ document.comments, OpensIn comment.words) {inside rest : Text}
    (split : document.root.rootText ++ document.root.rest = inside ++ '>' :: rest)
    (free : '>' ∉ inside) :
    stripRootSize document.print =
      document.prolog ++ (opening ++ (dropSizes inside ++ '>' :: rest)) := by
  have shape : document.root.print = written inside ++ rest := by
    rw [IconMarkup.print_eq_rest, split]
    simp [written]
  have ends : Text.wordEnds (inside ++ '>' :: rest) = true := by
    rw [← split]
    refine wordEnds_append (wordEnds_rootText _) (wordEnds_append
      (wordEnds_of_blank document.root.ends) ?_)
    cases document.root.closed <;> rfl
  rw [print, shape]
  exact stripRootSize_of_find (find?_behind (mt document.opensIn_prolog.mp closed) free ends)

/-! ### All documents -/

end IconDocument

namespace Splicing.IconMarkup

/-- The root's attributes in front of the first value that holds `>`. -/
def reached (icon : IconMarkup) : List Document.Attribute :=
  icon.attributes.takeWhile fun entry => '>' ∉ entry.value

/-- The root's attributes from the first value that holds `>` on. -/
def unreached (icon : IconMarkup) : List Document.Attribute :=
  icon.attributes.dropWhile fun entry => '>' ∉ entry.value

theorem reached_append_unreached (icon : IconMarkup) :
    icon.reached ++ icon.unreached = icon.attributes := List.takeWhile_append_dropWhile

theorem bracket_not_mem_reached (icon : IconMarkup) :
    '>' ∉ Document.printAttributes icon.reached :=
  @bracket_not_mem_rootText { icon with attributes := icon.reached } fun entry member => by
    simpa using List.mem_takeWhile_imp member

theorem bracket_mem_of_unreached {icon : IconMarkup} {cut : Document.Attribute}
    {others : List Document.Attribute} (unreached : icon.unreached = cut :: others) :
    '>' ∈ cut.value := by
  have first := List.head?_dropWhile_not
    (fun entry : Document.Attribute => decide ('>' ∉ entry.value)) icon.attributes
  rw [← IconMarkup.unreached, unreached] at first
  simpa using first

end Splicing.IconMarkup

namespace IconDocument

open Document SvgTag Splicing

variable {document : IconDocument}

theorem bracket_not_mem_opened (entry : Attribute) : '>' ∉ entry.opened := by
  have blanks : '>' ∉ entry.gap.text := not_mem_of_blank (by decide) entry.gap.blank
  have name : '>' ∉ entry.name := not_mem_of_nameParts (by decide) entry.nameParts
  simp [Attribute.opened, blanks, name]

theorem count_opened (entry : Attribute) : entry.opened.count '"' = 1 := by
  have blanks : '"' ∉ entry.gap.text := not_mem_of_blank (by decide) entry.gap.blank
  have name : '"' ∉ entry.name := not_mem_of_nameParts (by decide) entry.nameParts
  simp [Attribute.opened, List.count_append, List.count_eq_zero.mpr blanks,
    List.count_eq_zero.mpr name]

theorem not_mem_closing (icon : IconMarkup) {c : Char} (among : c ∈ ['>', '"']) :
    c ∉ icon.ending ++ IconMarkup.slash icon.closed := by
  intro member
  rcases List.mem_append.mp member with blank | slash
  · refine not_mem_of_blank ?_ icon.ends blank
    rcases List.mem_pair.mp among with rfl | rfl <;> decide
  · rcases List.mem_pair.mp among with rfl | rfl <;>
    · revert slash
      cases icon.closed <;> decide

theorem rootText_eq_reached (icon : IconMarkup) :
    icon.rootText = printAttributes icon.reached ++ printAttributes icon.unreached := by
  rw [IconMarkup.rootText, ← icon.reached_append_unreached]
  simp [printAttributes]

/-- A root without `>` in its values is changed as a whole. -/
theorem stripRootSize_of_reached
    (closed : ¬ ∃ comment ∈ document.comments, OpensIn comment.words)
    (quiet : IsQuietTag document.root.reached) (reached : document.root.unreached = []) :
    stripRootSize document.print = document.prolog ++ (opening ++
      (printUnsized document.root.reached ++ document.root.rest)) := by
  have noBracket : '>' ∉ printAttributes document.root.reached ++
      (document.root.ending ++ IconMarkup.slash document.root.closed) := by
    rw [List.mem_append]
    exact fun member => member.elim document.root.bracket_not_mem_reached
      (not_mem_closing _ (by decide))
  have split : document.root.rootText ++ document.root.rest =
      (printAttributes document.root.reached ++
        (document.root.ending ++ IconMarkup.slash document.root.closed)) ++
        '>' :: document.root.behind := by
    simp [rootText_eq_reached, reached, IconMarkup.rest, printAttributes]
  have free := @not_mem_closing document.root '"' (by decide)
  have few : (document.root.ending ++ IconMarkup.slash document.root.closed).count '"' ≤ 1 := by
    rw [List.count_eq_zero.mpr free]
    decide
  rw [← List.append_nil document.root.reached] at quiet
  rw [stripRootSize_of_not_opensIn closed split noBracket, dropSizes_front quiet few fun _ => free]
  simp [IconMarkup.rest]

/-- A root is changed up to the first `>` in its values. -/
theorem stripRootSize_of_unreached
    (closed : ¬ ∃ comment ∈ document.comments, OpensIn comment.words) {cut : Attribute}
    {others : List Attribute} (quiet : IsQuietTag (document.root.reached ++ [cut]))
    (unreached : document.root.unreached = cut :: others) :
    stripRootSize document.print = document.prolog ++ (opening ++
      (printUnsized document.root.reached ++
        (printAttributes (cut :: others) ++ document.root.rest))) := by
  obtain ⟨front, back, value, frontFree⟩ :=
    List.eq_append_cons_of_mem (IconMarkup.bracket_mem_of_unreached unreached)
  have noBracket : '>' ∉ printAttributes document.root.reached ++ (cut.opened ++ front) := by
    simp only [List.mem_append, not_or]
    exact ⟨document.root.bracket_not_mem_reached, bracket_not_mem_opened cut, frontFree⟩
  have split : document.root.rootText ++ document.root.rest =
      (printAttributes document.root.reached ++ (cut.opened ++ front)) ++
        '>' :: (back ++ '"' :: (printAttributes others ++ document.root.rest)) := by
    simp [rootText_eq_reached, unreached, printAttributes_cons, print_eq_opened, value]
  have few : (cut.opened ++ front).count '"' ≤ 1 := by
    have plain : '"' ∉ front := fun member =>
      cut.plain (value ▸ List.mem_append_left _ member)
    rw [List.count_append, count_opened, List.count_eq_zero.mpr plain]
  rw [stripRootSize_of_not_opensIn closed split noBracket,
    dropSizes_front quiet few fun none => by cases none]
  simp [printAttributes_cons, print_eq_opened, value]

/-- **Of a root the sizes go that are in front of the first `>`.** -/
theorem stripRootSize_of_quiet
    (closed : ¬ ∃ comment ∈ document.comments, OpensIn comment.words)
    (quiet : IsQuietTag (document.root.reached ++ document.root.unreached.take 1)) :
    stripRootSize document.print = document.prolog ++ (opening ++
      (printUnsized document.root.reached ++
        (printAttributes document.root.unreached ++ document.root.rest))) := by
  cases unreached : document.root.unreached with
  | nil =>
    rw [unreached, List.take_nil, List.append_nil] at quiet
    rw [stripRootSize_of_reached closed quiet unreached]
    rfl
  | cons cut others =>
    rw [unreached] at quiet
    exact stripRootSize_of_unreached closed quiet unreached

/-- The name of an attribute ends a value that ends in a key. -/
theorem stripRootSize_of_joined
    (closed : ¬ ∃ comment ∈ document.comments, OpensIn comment.words)
    {ahead others : List Attribute} {entry next : Attribute} {words opened tail rest : Text}
    (attributes : document.root.attributes = ahead ++ entry :: next :: others)
    (plain : ∀ other ∈ ahead ++ [entry], '>' ∉ other.value)
    (quiet : ∀ other ∈ ahead, other.isSize = false → ¬ EndsInKey other.value)
    (noSize : entry.isSize = false) (isOpened : IsOpened opened)
    (value : entry.value = words ++ opened)
    (split : next.value ++ '"' :: (printAttributes others ++ document.root.rest) =
      tail ++ '>' :: rest) (free : '>' ∉ tail) :
    stripRootSize document.print = document.prolog ++ (opening ++
      (printUnsized ahead ++ (entry.opened ++ (words ++ (dropSizes tail ++ '>' :: rest))))) := by
  rw [List.forall_mem_append, List.forall_mem_singleton] at plain
  have aheadFree : '>' ∉ printAttributes ahead :=
    @bracket_not_mem_rootText { document.root with attributes := ahead } plain.1
  have wordsFree : '"' ∉ words := fun member =>
    entry.plain (value ▸ List.mem_append_left _ member)
  have blanks : '"' ∉ next.gap.text := not_mem_of_blank (by decide) next.gap.blank
  have name : '"' ∉ next.name := not_mem_of_nameParts (by decide) next.nameParts
  have inside : printAttributes ahead ++ (entry.opened ++ (words ++ (opened ++
      '"' :: ((next.gap.text ++ next.name ++ ['=']) ++ '"' :: tail)))) =
      printAttributes ahead ++ (entry.print ++ (next.opened ++ tail)) := by
    simp [print_eq_opened, Attribute.opened, value]
  have text : document.root.rootText ++ document.root.rest =
      (printAttributes ahead ++ (entry.print ++ (next.opened ++ tail))) ++ '>' :: rest := by
    have shape : document.root.rootText ++ document.root.rest =
        printAttributes ahead ++ (entry.print ++ (next.opened ++ (next.value ++
          '"' :: (printAttributes others ++ document.root.rest)))) := by
      simp [IconMarkup.rootText, attributes, printAttributes, print_eq_opened]
    rw [shape, split]
    simp
  have noBracket : '>' ∉ printAttributes ahead ++ (entry.print ++ (next.opened ++ tail)) := by
    simp only [print_eq_opened, List.mem_append, List.mem_singleton, not_or]
    exact ⟨aheadFree, ⟨bracket_not_mem_opened entry, plain.2, by decide⟩,
      bracket_not_mem_opened next, free⟩
  rw [stripRootSize_of_not_opensIn closed text noBracket, ← inside, dropSizes_attributes quiet,
    dropSizes_opened noSize, dropSizes_value_of_key wordsFree isOpened (by simp [blanks, name])]
  simp

/-- What becomes of a document. A comment that opens a tag is changed in the place of the root.
Otherwise the root loses the sizes that are in front of the first `>`, and these are all sizes
exactly if none stands at that `>` or behind it. A value that ends in a key, in front of another
attribute, loses that key, and the other attribute its name: the two values become one. -/
structure SizePass (document : IconDocument) : Prop where
  commented : (∃ comment ∈ document.comments, OpensIn comment.words) →
    stripRootSize document.print = stripRootSize document.prolog ++ document.root.print ∧
      (stripRootSize document.print = document.withoutSize.print ↔
        stripRootSize document.prolog = document.prolog ∧
          ∀ entry ∈ document.root.attributes, entry.isSize = false)
  quiet : (¬ ∃ comment ∈ document.comments, OpensIn comment.words) →
    IsQuietTag (document.root.reached ++ document.root.unreached.take 1) →
    stripRootSize document.print = document.prolog ++ (opening ++
        (printUnsized document.root.reached ++
          (printAttributes document.root.unreached ++ document.root.rest))) ∧
      (stripRootSize document.print = document.withoutSize.print ↔
        ∀ entry ∈ document.root.unreached, entry.isSize = false)
  joined : (¬ ∃ comment ∈ document.comments, OpensIn comment.words) →
    ∀ ahead entry next others words opened tail rest,
      document.root.attributes = ahead ++ entry :: next :: others →
      (∀ other ∈ ahead ++ [entry], '>' ∉ other.value) →
      (∀ other ∈ ahead, other.isSize = false → ¬ EndsInKey other.value) →
      entry.isSize = false → IsOpened opened → entry.value = words ++ opened →
      next.value ++ '"' :: (printAttributes others ++ document.root.rest) = tail ++ '>' :: rest →
      '>' ∉ tail →
      stripRootSize document.print = document.prolog ++ (opening ++
        (printUnsized ahead ++ (entry.opened ++ (words ++ (dropSizes tail ++ '>' :: rest)))))

/-- **What becomes of a document, in every case**, beside the document without the size of its root,
which has the other attributes, the comments and the rest as they are. -/
theorem stripRootSize_document (document : IconDocument) :
    SizePass document ∧
      document.withoutSize.prolog = document.prolog ∧
      document.withoutSize.root.attributes.map IconMarkup.pair =
        (document.root.attributes.filter (!·.isSize)).map IconMarkup.pair ∧
      document.withoutSize.root.closed = document.root.closed ∧
      document.withoutSize.root.behind = document.root.behind := by
  refine ⟨⟨fun opened => ?_, fun closed quiet => ?_, fun closed _ _ _ _ _ _ _ _ attributes plain
    quiet noSize isOpened value split free => stripRootSize_of_joined closed attributes plain quiet
      noSize isOpened value split free⟩, rfl, document.root.same_withoutSize⟩
  · obtain ⟨_, _, _, -, -, -, whole⟩ := stripRootSize_of_opensIn opened
    exact ⟨whole, stripRootSize_eq_withoutSize_of_opensIn opened⟩
  · have stripped := stripRootSize_of_quiet closed quiet
    have expected : document.withoutSize.print = document.prolog ++ (opening ++
        (printUnsized document.root.reached ++
          (printUnsized document.root.unreached ++ document.root.rest))) := by
      have attributes : printUnsized document.root.attributes =
          printUnsized document.root.reached ++ printUnsized document.root.unreached := by
        rw [← document.root.reached_append_unreached]
        simp [printUnsized]
      rw [← List.append_assoc (printUnsized document.root.reached), ← attributes,
        ← IconMarkup.print_withoutSize]
      rfl
    refine ⟨stripped, ?_⟩
    rw [stripped, expected, ← printUnsized_eq_iff]
    simp [eq_comm]

/-! ### Four documents -/

/-- A document with at most one comment and with a root that is closed at once. -/
def ofAttributes (comments : List Comment) (attributes : List Attribute) : IconDocument where
  comments
  gap := []
  root := ⟨attributes, [], true, [], List.forall_mem_nil _⟩
  blank := List.forall_mem_nil _

/-- The document `<!-- sketch --><svg stroke-width="2" width="24"/>`. -/
def outlined : IconDocument :=
  ofAttributes [⟨[], " sketch ".toList, List.forall_mem_nil _, by decide +kernel⟩]
    [.spaced "stroke-width".toList "2".toList (by decide) (by decide),
      .spaced "width".toList "24".toList (by decide) (by decide)]

/-- In an ordinary document the root's size goes, and nothing else. -/
theorem stripRootSize_outlined :
    (¬ ∃ comment ∈ outlined.comments, OpensIn comment.words) ∧
      stripRootSize outlined.print = outlined.withoutSize.print ∧
      outlined.withoutSize.print = "<!-- sketch --><svg stroke-width=\"2\"/>".toList := by
  have closed : ¬ ∃ comment ∈ outlined.comments, OpensIn comment.words := by
    rintro ⟨comment, member, before, after, words, -⟩
    rcases List.mem_singleton.mp member with rfl
    have opened : '<' ∈ " sketch ".toList := by
      rw [show " sketch ".toList = before ++ (opening ++ after) from words]
      simp [opening]
    exact absurd opened (by decide)
  have quiet : IsQuietTag (outlined.root.reached ++ outlined.root.unreached.take 1) :=
    isQuietTag_of_getLast? (by decide +kernel)
  exact ⟨closed, ((stripRootSize_document outlined).1.quiet closed quiet).2.mpr (by decide +kernel),
    by decide +kernel⟩

/-- The document `<!--<svg width="1">--><svg width="24"/>`. -/
def sketched : IconDocument :=
  ofAttributes [⟨[], "<svg width=\"1\">".toList, List.forall_mem_nil _, by decide +kernel⟩]
    [.spaced "width".toList "24".toList (by decide) (by decide)]

/-- The document `<svg aria-label="a>b" width="24"/>`. -/
def labelled : IconDocument :=
  ofAttributes []
    [.spaced "aria-label".toList "a>b".toList (by decide) (by decide),
      .spaced "width".toList "24".toList (by decide) (by decide)]

/-- The document `<svg title="a width=" height="24"/>`. -/
def titled : IconDocument :=
  ofAttributes []
    [.spaced "title".toList "a width=".toList (by decide) (by decide),
      .spaced "height".toList "24".toList (by decide) (by decide)]

/-- **The wrong tag, too little, and too much**: a comment loses its size in the place of the root;
a root keeps its size behind a `>`; a value loses its end, and the size is left as a part of it. -/
theorem stripRootSize_strays :
    stripRootSize sketched.print = "<!--<svg>--><svg width=\"24\"/>".toList ∧
      stripRootSize labelled.print = "<svg aria-label=\"a>b\" width=\"24\"/>".toList ∧
      stripRootSize titled.print = "<svg title=\"a24\"/>".toList ∧
      sketched.withoutSize.print = "<!--<svg width=\"1\">--><svg/>".toList ∧
      labelled.withoutSize.print = "<svg aria-label=\"a>b\"/>".toList ∧
      titled.withoutSize.print = "<svg title=\"a width=\"/>".toList := by
  decide +kernel

end IconDocument

end IconComponents
