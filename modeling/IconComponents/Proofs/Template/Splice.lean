/-
**The place that a template leaves for the icon.**

A root tag that is closed at once is the icon's place. The tag is taken to end at its first `>`,
whatever holds it; an item of the tag can be an expression, and expressions hold arrows and
comparisons.

* `Item`, `RootTag` — a root tag that is closed at once, as component source has it;
* `IconMarkup` — an icon that starts with an svg tag;
* `spliceRoot_selfClosing` — what becomes of a template with such a tag, in every case;
* `arrow_loses_icon` — a template that never receives its icon.
-/

import IconComponents.Proofs.Markup.Document
import IconComponents.Proofs.Markup.SvgTag
import IconComponents.Template.Splice

namespace IconComponents.Splicing

/-! ### Root tags of templates -/

/-- The characters of an item's name: all but white space, quotes, brackets, `=` and `/`. -/
def isItemPart (c : Char) : Bool :=
  !(Char.isBlank c || ['"', '\x27', '=', '<', '>', '\x7b', '\x7d', '/'].contains c)

/-- The name of an item. -/
structure ItemName where
  text : Text
  some : text ≠ []
  parts : ∀ c ∈ text, isItemPart c = true

/-- An item of a tag in component source. Expressions are any text. -/
inductive Item where
  | flag (name : ItemName)
  | quoted (name : ItemName) (words : Text) (plain : '"' ∉ words)
  | computed (name : ItemName) (expression : Text)
  | spread (expression : Text)

/-- A text in braces. -/
def braced (text : Text) : Text := '\x7b' :: (text ++ ['\x7d'])

def Item.written : Item → Text
  | flag name => name.text
  | quoted name words _ => Element.quoted name.text words
  | computed name expression => name.text ++ '=' :: braced expression
  | spread expression => braced ("...".toList ++ expression)

/-- An item with the white space before it. -/
structure SpacedItem where
  gap : Document.Gap
  item : Item

/-- A root tag that is closed at once. -/
structure RootTag where
  items : List SpacedItem
  ending : Text
  ends : ∀ c ∈ ending, Char.isBlank c = true

/-- All items of a tag. -/
def RootTag.itemText (tag : RootTag) : Text :=
  tag.items.flatMap fun spaced => spaced.gap.text ++ spaced.item.written

def RootTag.print (tag : RootTag) : Text :=
  SvgTag.written (tag.itemText ++ tag.ending ++ ['/'])

/-! ### Icons -/

/-- An icon that starts with an svg tag. -/
structure IconMarkup where
  attributes : List Document.Attribute
  ending : Text
  closed : Bool
  behind : Text
  ends : ∀ c ∈ ending, Char.isBlank c = true

namespace IconMarkup

/-- The slash of a tag that is closed at once. -/
def slash (closed : Bool) : Text := if closed then ['/'] else []

/-- The attributes of the icon's root. -/
def rootText (icon : IconMarkup) : Text := Document.printAttributes icon.attributes

def print (icon : IconMarkup) : Text :=
  SvgTag.written (icon.rootText ++ icon.ending ++ slash icon.closed) ++ icon.behind

/-- The icon with items behind the attributes of its root. -/
def withItems (icon : IconMarkup) (items : Text) : Text :=
  SvgTag.written (icon.rootText ++ items ++ slash icon.closed) ++ icon.behind

end IconMarkup

/-! ### Where tags start and end -/

theorem wordEnds_gap (gap : Document.Gap) (behind : Text) :
    Text.wordEnds (gap.text ++ behind) = true := by
  obtain ⟨text, some, blank⟩ := gap
  obtain ⟨first, text, rfl⟩ := List.exists_cons_of_ne_nil some
  show (!Char.isWord first) = true
  rw [Text.not_isWord_of_isBlank (blank first List.mem_cons_self)]
  rfl

theorem wordEnds_itemText (tag : RootTag) : Text.wordEnds tag.itemText = true := by
  obtain ⟨items, ending, ends⟩ := tag
  cases items with
  | nil => rfl
  | cons spaced items =>
    show Text.wordEnds ((spaced.gap.text ++ spaced.item.written) ++ _) = true
    rw [List.append_assoc]
    exact wordEnds_gap spaced.gap _

theorem wordEnds_rootText (icon : IconMarkup) : Text.wordEnds icon.rootText = true := by
  obtain ⟨attributes, ending, closed, behind, ends⟩ := icon
  cases attributes with
  | nil => rfl
  | cons entry attributes =>
    show Text.wordEnds ((entry.gap.text ++ _) ++ _) = true
    rw [List.append_assoc]
    exact wordEnds_gap entry.gap _

/-- What is said of the last character of every part of a text is said of the text's. -/
theorem last_flatMap {α : Type} {P : Char → Prop} {write : α → Text} {parts : List α}
    (each : ∀ part ∈ parts, write part ≠ [] ∧ ∀ c ∈ (write part).getLast?, P c) :
    ∀ c ∈ (parts.flatMap write).getLast?, P c := by
  rcases List.eq_nil_or_concat' parts with rfl | ⟨parts, part, rfl⟩
  · intro c last
    cases last
  · obtain ⟨some, lasts⟩ := each part (by simp)
    obtain ⟨text, final, shape⟩ := (List.eq_nil_or_concat' (write part)).resolve_left some
    rw [shape, List.getLast?_concat] at lasts
    rw [List.flatMap_append, List.flatMap_singleton, shape, ← List.append_assoc,
      List.getLast?_concat]
    exact lasts

theorem endsSolid_braced (ahead text : Text) : Text.EndsSolid (ahead ++ braced text) := by
  have shape : ahead ++ braced text = (ahead ++ '\x7b' :: text) ++ ['\x7d'] := by simp [braced]
  rw [shape]
  exact Text.endsSolid_concat (by decide) _

/-- No item ends in white space. -/
theorem endsSolid_item (ahead : Text) (item : Item) :
    ahead ++ item.written ≠ [] ∧ Text.EndsSolid (ahead ++ item.written) := by
  cases item with
  | flag name =>
    obtain ⟨text, final, shape⟩ := (List.eq_nil_or_concat' name.text).resolve_left name.some
    have part := name.parts final (by simp [shape])
    simp only [isItemPart, Bool.not_eq_true', Bool.or_eq_false_iff] at part
    rw [Item.written, shape, ← List.append_assoc]
    exact ⟨by simp, Text.endsSolid_concat part.1 _⟩
  | quoted name words plain =>
    have shape : ahead ++ (Item.quoted name words plain).written =
        (ahead ++ (name.text ++ '=' :: '"' :: words)) ++ ['"'] := by
      simp [Item.written, Element.quoted]
    rw [shape]
    exact ⟨by simp, Text.endsSolid_concat (by decide) _⟩
  | computed name expression =>
    have shape : ahead ++ (Item.computed name expression).written =
        (ahead ++ (name.text ++ ['='])) ++ braced expression := by
      simp [Item.written]
    rw [shape]
    exact ⟨by simp [braced], endsSolid_braced _ _⟩
  | spread expression => exact ⟨by simp [Item.written, braced], endsSolid_braced _ _⟩

theorem endsSolid_itemText (tag : RootTag) : Text.EndsSolid tag.itemText :=
  last_flatMap fun spaced _ => endsSolid_item spaced.gap.text spaced.item

/-- The attributes of an icon's root end in a quote. -/
theorem rootText_last (icon : IconMarkup) : ∀ c ∈ icon.rootText.getLast?, c = '"' := by
  refine last_flatMap fun entry _ => ?_
  have shape : entry.print =
      (entry.gap.text ++ (entry.name ++ '=' :: '"' :: entry.value)) ++ ['"'] := by
    simp [Document.Attribute.print, Element.quoted]
  rw [shape, List.getLast?_concat]
  exact ⟨by simp, fun c last => (Option.some.inj last).symm⟩

/-! ### The icon -/

/-- Items are added to the root of an icon in front of its first `>`. -/
theorem mergeIntoIcon_written {inside rest : Text} (noEnd : '>' ∉ inside)
    (wordEnds : Text.wordEnds (inside ++ '>' :: rest) = true) (items : Text) :
    mergeIntoIcon (SvgTag.written inside ++ rest) items =
      SvgTag.written ((SvgTag.inside inside).attributes ++ items ++
        IconMarkup.slash (SvgTag.inside inside).closed) ++ rest := by
  rw [mergeIntoIcon, SvgTag.find?_written noEnd wordEnds]
  rfl

theorem bracket_not_mem_rootText {icon : IconMarkup}
    (plain : ∀ entry ∈ icon.attributes, '>' ∉ entry.value) : '>' ∉ icon.rootText := by
  intro member
  obtain ⟨entry, among, inEntry⟩ := List.mem_flatMap.mp member
  have blanks : '>' ∉ entry.gap.text := Document.not_mem_of_blank (by decide) entry.gap.blank
  have name : '>' ∉ entry.name := Document.not_mem_of_nameParts (by decide) entry.nameParts
  simp [Document.Attribute.print, Element.quoted, blanks, name, plain entry among] at inEntry

/-- The attributes of an icon's root, and whether it closes at once. -/
theorem inside_rootText (icon : IconMarkup) :
    SvgTag.inside (icon.rootText ++ icon.ending ++ IconMarkup.slash icon.closed) =
      ⟨icon.rootText, icon.closed⟩ := by
  have solid : Text.EndsSolid icon.rootText := fun c last => by
    rw [rootText_last icon c last]
    decide
  cases closed : icon.closed with
  | true => exact SvgTag.inside_closed solid icon.ends
  | false =>
    show SvgTag.inside (icon.rootText ++ icon.ending ++ []) = _
    rw [List.append_nil]
    refine SvgTag.inside_open solid (fun slash => ?_) icon.ends
    exact absurd (rootText_last icon _ slash) (by decide)

/-- **Items are added behind the attributes of an icon's root** if no value there holds `>`. -/
theorem mergeIntoIcon_print {icon : IconMarkup}
    (plain : ∀ entry ∈ icon.attributes, '>' ∉ entry.value) (items : Text) :
    mergeIntoIcon icon.print items = icon.withItems items := by
  have ending : '>' ∉ icon.ending := Document.not_mem_of_blank (by decide) icon.ends
  have slash : '>' ∉ IconMarkup.slash icon.closed := by cases icon.closed <;> decide
  have ends : Text.wordEnds (icon.rootText ++ icon.ending ++ IconMarkup.slash icon.closed ++
      '>' :: icon.behind) = true := by
    refine SvgTag.wordEnds_append (SvgTag.wordEnds_append (SvgTag.wordEnds_append
      (wordEnds_rootText icon) (SvgTag.wordEnds_of_blank icon.ends)) ?_) rfl
    cases icon.closed <;> rfl
  rw [IconMarkup.print, mergeIntoIcon_written (by
    simp [bracket_not_mem_rootText plain, ending, slash]) ends, inside_rootText]
  rfl

/-- If a value there holds `>`, the items are added in front of the first one. -/
theorem mergeIntoIcon_cut {icon : IconMarkup} {front back : Text}
    (split : icon.rootText = front ++ '>' :: back) (first : '>' ∉ front) (items : Text) :
    mergeIntoIcon icon.print items =
      SvgTag.written ((SvgTag.inside front).attributes ++ items ++
        IconMarkup.slash (SvgTag.inside front).closed) ++
        (back ++ icon.ending ++ IconMarkup.slash icon.closed ++ '>' :: icon.behind) := by
  have shape : icon.print = SvgTag.written front ++
      (back ++ icon.ending ++ IconMarkup.slash icon.closed ++ '>' :: icon.behind) := by
    simp [IconMarkup.print, SvgTag.written, split]
  have ends := SvgTag.wordEnds_bracket '>' back
    (back ++ icon.ending ++ IconMarkup.slash icon.closed ++ '>' :: icon.behind)
    (split ▸ wordEnds_rootText icon)
  rw [shape, mergeIntoIcon_written first ends]

/-! ### The template -/

/-- What becomes of a text with a first tag. -/
theorem spliceRoot_of_find {rendered icon before inside after : Text}
    (found : SvgTag.find? rendered = some (before, inside, after)) :
    spliceRoot? rendered icon =
      if inside.getLast? = some '/' then
        some (before ++ mergeIntoIcon icon (Text.trimEnd inside.dropLast) ++ after)
      else some rendered := by
  rw [spliceRoot?, found, Option.map_some]
  simp only [SvgTag.inside]
  split <;> rfl

theorem print_behind (before : Text) (tag : RootTag) (after : Text) :
    before ++ tag.print ++ after =
      before ++ (SvgTag.written (tag.itemText ++ tag.ending ++ ['/']) ++ after) :=
  List.append_assoc _ _ _

/-- A tag whose items hold no `>` ends where it is closed, and it is the first one behind a text
that opens none. -/
theorem spliceRoot_of_not_opensIn {before : Text} (closed : ¬ SvgTag.OpensIn before) {tag : RootTag}
    (plain : '>' ∉ tag.itemText) (after icon : Text) :
    spliceRoot? (before ++ tag.print ++ after) icon =
      some (before ++ mergeIntoIcon icon tag.itemText ++ after) := by
  have ending : '>' ∉ tag.ending := Document.not_mem_of_blank (by decide) tag.ends
  have ends : Text.wordEnds (tag.itemText ++ tag.ending ++ ['/'] ++ '>' :: after) = true :=
    SvgTag.wordEnds_append (SvgTag.wordEnds_append (SvgTag.wordEnds_append
      (wordEnds_itemText tag) (SvgTag.wordEnds_of_blank tag.ends)) rfl) rfl
  rw [print_behind, spliceRoot_of_find (SvgTag.find?_behind closed (by simp [plain, ending]) ends),
    List.getLast?_concat, if_pos rfl, List.dropLast_concat,
    Text.trimEnd_append (endsSolid_itemText tag) tag.ends]

/-- The first tag that closes at once takes the icon. -/
theorem spliceRoot_plain {before : Text} (free : ¬ SvgTag.opening <:+: before) {tag : RootTag}
    (plain : '>' ∉ tag.itemText) (after icon : Text) :
    spliceRoot? (before ++ tag.print ++ after) icon =
      some (before ++ mergeIntoIcon icon tag.itemText ++ after) :=
  spliceRoot_of_not_opensIn (SvgTag.not_opensIn free) plain after icon

/-- A tag whose items hold `>` ends there. -/
theorem spliceRoot_cut {before : Text} (free : ¬ SvgTag.opening <:+: before) {tag : RootTag}
    {front back : Text} (split : tag.itemText = front ++ '>' :: back) (first : '>' ∉ front)
    (after icon : Text) :
    spliceRoot? (before ++ tag.print ++ after) icon =
      if front.getLast? = some '/' then
        some (before ++ mergeIntoIcon icon (Text.trimEnd front.dropLast) ++
          (back ++ tag.ending ++ "/>".toList ++ after))
      else some (before ++ tag.print ++ after) := by
  have shape : before ++ tag.print ++ after =
      before ++ (SvgTag.written front ++ (back ++ tag.ending ++ "/>".toList ++ after)) := by
    simp [RootTag.print, SvgTag.written, split]
  have ends : Text.wordEnds (front ++ '>' :: (back ++ tag.ending ++ "/>".toList ++ after)) = true :=
    SvgTag.wordEnds_bracket '>' back _ (split ▸ wordEnds_itemText tag)
  rw [shape, spliceRoot_of_find (SvgTag.find?_behind (SvgTag.not_opensIn free) first ends)]

/-- **What becomes of a template with a root tag that is closed at once.** If no item of the tag
holds `>`, the tag gives way to the icon, and its items are added behind the attributes of the
icon's root, unless a value there holds `>`. Otherwise the tag is taken to end at the first `>` of
its items. If no slash is in front of that, the template is left without its icon; if one is, the
icon stands in the middle of the tag, and the rest of the tag behind the icon. -/
theorem spliceRoot_selfClosing {before : Text} (free : ¬ SvgTag.opening <:+: before)
    (tag : RootTag) (after : Text) :
    ('>' ∉ tag.itemText → ∀ icon : IconMarkup,
      ((∀ entry ∈ icon.attributes, '>' ∉ entry.value) →
        spliceRoot? (before ++ tag.print ++ after) icon.print =
          some (before ++ icon.withItems tag.itemText ++ after)) ∧
      ∀ front back, icon.rootText = front ++ '>' :: back → '>' ∉ front →
        spliceRoot? (before ++ tag.print ++ after) icon.print =
          some (before ++ (SvgTag.written ((SvgTag.inside front).attributes ++ tag.itemText ++
            IconMarkup.slash (SvgTag.inside front).closed) ++ (back ++ icon.ending ++
              IconMarkup.slash icon.closed ++ '>' :: icon.behind)) ++ after)) ∧
      ∀ front back, tag.itemText = front ++ '>' :: back → '>' ∉ front → ∀ icon,
        spliceRoot? (before ++ tag.print ++ after) icon =
          if front.getLast? = some '/' then
            some (before ++ mergeIntoIcon icon (Text.trimEnd front.dropLast) ++
              (back ++ tag.ending ++ "/>".toList ++ after))
          else some (before ++ tag.print ++ after) := by
  refine ⟨fun plain icon => ⟨fun values => ?_, fun front back split first => ?_⟩,
    fun front back split first icon => spliceRoot_cut free split first after icon⟩
  · rw [spliceRoot_plain free plain, mergeIntoIcon_print values]
  · rw [spliceRoot_plain free plain, mergeIntoIcon_cut split first]

/-! ### Two templates -/

/-- An item behind one space. -/
def spaced (item : Item) : SpacedItem := ⟨.space, item⟩

/-- The item `className="icon"`. -/
def classItem : Item :=
  .quoted ⟨"className".toList, by decide, Text.forall_mem_of_all rfl⟩ "icon".toList (by decide)

/-- An item whose expression is an arrow function. -/
def clickItem : Item :=
  .computed ⟨"onClick".toList, by decide, Text.forall_mem_of_all rfl⟩ "() => props.go(1)".toList

/-- The item that passes all other properties on. -/
def propsItem : Item := .spread "props".toList

/-- A root tag without arrows. -/
def passiveTag : RootTag :=
  ⟨[spaced classItem, spaced propsItem], [' '], Document.Gap.space.blank⟩

/-- A root tag with an arrow. -/
def clickableTag : RootTag :=
  ⟨[spaced classItem, spaced clickItem, spaced propsItem], [' '], Document.Gap.space.blank⟩

/-- What stands in front of the root tag of a small component. -/
def componentStart : Text := "export const Icon = (props) => ".toList

/-- The icon `<svg viewBox="0 0 8 8"><path d="M4 4L7 7"/></svg>`. -/
def smallIcon : IconMarkup where
  attributes := [.spaced "viewBox".toList "0 0 8 8".toList rfl rfl]
  ending := []
  closed := false
  behind := "<path d=\"M4 4L7 7\"/></svg>".toList
  ends := fun _ member => absurd member List.not_mem_nil

/-- Without arrows in the tag, the icon receives its items. -/
theorem passive_receives_icon :
    ¬ SvgTag.opening <:+: componentStart ∧ '>' ∉ passiveTag.itemText ∧
      spliceRoot? (componentStart ++ passiveTag.print ++ [';']) smallIcon.print =
        some (componentStart ++ smallIcon.withItems passiveTag.itemText ++ [';']) := by
  have free : ¬ SvgTag.opening <:+: componentStart := by decide +kernel
  have plain : '>' ∉ passiveTag.itemText := by decide +kernel
  have values : ∀ entry ∈ smallIcon.attributes, '>' ∉ entry.value := by decide +kernel
  exact ⟨free, plain, ((spliceRoot_selfClosing free passiveTag [';']).1 plain smallIcon).1 values⟩

/-- **An arrow in the tag, and the component is written without its icon.** -/
theorem arrow_loses_icon :
    ¬ SvgTag.opening <:+: componentStart ∧
      componentStart ++ clickableTag.print ++ [';'] = "export const Icon = (props) => ".toList ++
        "<svg className=\"icon\" onClick=\x7b() => props.go(1)\x7d \x7b...props\x7d />;".toList ∧
      spliceRoot? (componentStart ++ clickableTag.print ++ [';']) smallIcon.print =
        some (componentStart ++ clickableTag.print ++ [';']) ∧
      componentStart ++ clickableTag.print ++ [';'] ≠
        componentStart ++ smallIcon.withItems clickableTag.itemText ++ [';'] := by
  decide +kernel

end IconComponents.Splicing
