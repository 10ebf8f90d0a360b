/-
**Nothing is lost when the icon takes its place.**

The tag that a template leaves for the icon gives way to the icon, and its attributes go to the
icon's own root. Of both texts all that is dropped is the tag itself and the white space at the end
of either tag's attributes; slashes and white space may stand anywhere in them.

* `TrimsTo`, `trimsTo_trimEnd` — a text without the white space at its end;
* `mergeIntoIcon_of_isFirst`, `mergeIntoIcon_of_not_holdsTag` — attributes are added to the first tag
  of an icon, or to a tag around it;
* `spliceRoot_keeps` — what becomes of a text whose first tag closes at once, for every icon.
-/

import IconComponents.Proofs.Template.Splice

namespace IconComponents.Splicing

/-- `kept` is a text without the white space at its end. -/
structure TrimsTo (text kept : Text) : Prop where
  split : ∃ blanks, text = kept ++ blanks ∧ ∀ c ∈ blanks, Char.isBlank c = true
  solid : Text.EndsSolid kept

theorem trimsTo_trimEnd (text : Text) : TrimsTo text (Text.trimEnd text) := by
  obtain ⟨blanks, split, blank, solid⟩ := Text.exists_trimEnd text
  exact ⟨⟨blanks, split, blank⟩, solid⟩

/-! ### The icon -/

/-- The inside of a tag is its attributes, and a slash if it closes at once. -/
theorem inside_slash {text : Text} {closed : Bool}
    (isOpen : closed = false → text.getLast? ≠ some '/') :
    SvgTag.inside (text ++ IconMarkup.slash closed) = ⟨Text.trimEnd text, closed⟩ := by
  cases closed with
  | true =>
    show SvgTag.inside (text ++ ['/']) = _
    rw [SvgTag.inside, List.getLast?_concat, if_pos rfl, List.dropLast_concat]
  | false =>
    show SvgTag.inside (text ++ []) = _
    rw [List.append_nil, SvgTag.inside, if_neg (isOpen rfl)]

/-- Attributes go behind those of the icon's root. -/
theorem mergeIntoIcon_of_isFirst {icon front own back : Text} {closed : Bool}
    (root : SvgTag.IsFirst icon front (own ++ IconMarkup.slash closed) back)
    (isOpen : closed = false → own.getLast? ≠ some '/') (attributes : Text) :
    mergeIntoIcon icon attributes = front ++
      SvgTag.written (Text.trimEnd own ++ attributes ++ IconMarkup.slash closed) ++ back := by
  rw [mergeIntoIcon, SvgTag.find?_eq_some_iff.mpr root]
  simp only
  rw [inside_slash isOpen]
  rfl

/-- An icon without a root is wrapped in one. -/
theorem mergeIntoIcon_of_not_holdsTag {icon : Text} (without : ¬ SvgTag.HoldsTag icon)
    (attributes : Text) : mergeIntoIcon icon attributes =
      SvgTag.written attributes ++ icon ++ "</svg>".toList := by
  rw [mergeIntoIcon, SvgTag.find?_eq_none_iff.mpr without]

/-! ### The text around it -/

theorem spliceRoot_of_isFirst {rendered before extra after : Text}
    (place : SvgTag.IsFirst rendered before (extra ++ ['/']) after) (icon : Text) :
    spliceRoot? rendered icon =
      some (before ++ mergeIntoIcon icon (Text.trimEnd extra) ++ after) := by
  rw [spliceRoot_of_find (SvgTag.find?_eq_some_iff.mpr place), List.getLast?_concat, if_pos rfl,
    List.dropLast_concat]

/-- **Nothing is lost** when an icon takes the place of the first tag of a text, if that tag closes at
once: all of both texts is there in its order, but for the two tags' brackets and names and the white
space at the end of either tag's attributes. What is behind the two tags stays as it is, whatever tags
it holds. An icon without a tag is put into one that has the attributes. -/
theorem spliceRoot_keeps {rendered before extra after : Text}
    (place : SvgTag.IsFirst rendered before (extra ++ ['/']) after) :
    TrimsTo extra (Text.trimEnd extra) ∧
    (∀ icon front own closed back,
      SvgTag.IsFirst icon front (own ++ IconMarkup.slash closed) back →
      (closed = false → own.getLast? ≠ some '/') →
      TrimsTo own (Text.trimEnd own) ∧
        spliceRoot? rendered icon = some (before ++ (front ++
          SvgTag.written (Text.trimEnd own ++ Text.trimEnd extra ++ IconMarkup.slash closed) ++
            back) ++ after)) ∧
    ∀ icon, ¬ SvgTag.HoldsTag icon →
      spliceRoot? rendered icon = some (before ++
        (SvgTag.written (Text.trimEnd extra) ++ icon ++ "</svg>".toList) ++ after) := by
  refine ⟨trimsTo_trimEnd extra, fun icon front own closed back root isOpen =>
    ⟨trimsTo_trimEnd own, ?_⟩, fun icon without => ?_⟩
  · rw [spliceRoot_of_isFirst place, mergeIntoIcon_of_isFirst root isOpen]
  · rw [spliceRoot_of_isFirst place, mergeIntoIcon_of_not_holdsTag without]

/-- Slashes and white space in both tags, and tags behind them. -/
theorem slashes_kept :
    spliceRoot? "(<svg href=/a /  />)<svg/>".toList "<g><svg d=\"/\" / /><svg />".toList =
        some "(<g><svg d=\"/\" / href=/a //><svg />)<svg/>".toList ∧
      spliceRoot? "(<svg href=/a /  />)<svg/>".toList "<svgs>".toList =
        some "(<svg href=/a /><svgs></svg>)<svg/>".toList := by
  have place : SvgTag.IsFirst "(<svg href=/a /  />)<svg/>".toList ['(']
      (" href=/a /  ".toList ++ ['/']) ")<svg/>".toList :=
    SvgTag.find?_eq_some_iff.mp (by decide +kernel)
  have root : SvgTag.IsFirst "<g><svg d=\"/\" / /><svg />".toList "<g>".toList
      (" d=\"/\" / ".toList ++ IconMarkup.slash true) "<svg />".toList :=
    SvgTag.find?_eq_some_iff.mp (by decide +kernel)
  have without : ¬ SvgTag.HoldsTag "<svgs>".toList :=
    SvgTag.find?_eq_none_iff.mp (by decide +kernel)
  obtain ⟨-, withRoot, withoutRoot⟩ := spliceRoot_keeps place
  exact ⟨(withRoot _ _ _ _ _ root (by decide)).2, withoutRoot _ without⟩

end IconComponents.Splicing
