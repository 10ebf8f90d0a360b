/-
**The natural size of a component.**

The size of an icon is a pair of positive numbers of any fineness; what is printed of it, in the view
box and for templates, is rounded to thousandths. Whether an icon is square is decided on the size
itself.

* `Icon.minify_size` — the view box of every icon holds the printed size, and a side of it looks
  positive exactly if it is more than half a thousandth, whoever draws the icon;
* `narrow_vanishes` — an icon whose view box has no width;
* `Payload.square_policy` — square icons, and icons whose sides look alike;
* `nearlySquare_looks_square` — an icon that looks square and is not.
-/

import IconComponents.Component.Payload
import IconComponents.Proofs.Number.Positive
import IconComponents.Proofs.Svg.Size

namespace IconComponents

variable {content : Content} {path common : Text} {icon : Icon}

/-! ### Sides that vanish -/

/-- The start of an icon with its view box. -/
theorem opening_viewBox (width height : Single) (behind : Text) :
    SvgTag.opening ++ (viewBoxAttribute width height ++ behind) =
      "<svg viewBox=\"0 0 ".toList ++ formatDimension width ++ ' ' :: formatDimension height ++
        '"' :: behind := by
  have opening : "<svg viewBox=\"0 0 ".toList = SvgTag.opening ++ " viewBox=\"0 0 ".toList := rfl
  unfold viewBoxAttribute
  rw [opening]
  simp only [List.append_assoc, List.cons_append, List.nil_append]

/-- **The size of every icon is positive**, its view box and its payload hold the same numerals for
it, and each numeral is positive exactly if the side is more than half a thousandth. This holds
whoever draws, as far as drawings have a positive size and are written without a view box. -/
theorem Icon.minify_size (engines : Engines) (draws : engines.DrawsSized)
    (accepted : engines.minify content path common = .ok icon) (componentName : Text) :
    (0 < icon.width.toRat ∧ 0 < icon.height.toRat) ∧
      (∃ behind, icon.markup = "<svg viewBox=\"0 0 ".toList ++
        (Payload.ofIcon icon componentName).width ++ ' ' ::
        (Payload.ofIcon icon componentName).height ++ '"' :: behind) ∧
      ShowsSide icon.width.toRat (Payload.ofIcon icon componentName).width ∧
      ShowsSide icon.height.toRat (Payload.ofIcon icon componentName).height := by
  obtain ⟨source, drawn, restore, drew, leaves, rfl⟩ := Engines.exists_drawn accepted
  have sized := draws source drawn drew
  obtain ⟨behind, markup⟩ := sized.markup_eq leaves path common
  exact ⟨⟨sized.width, sized.height⟩, ⟨behind, markup.trans (opening_viewBox _ _ behind)⟩,
    showsSide_formatDimension sized.width, showsSide_formatDimension sized.height⟩

/-- A document as wide as a given text says. -/
def narrowDocument (width : Text) : Text :=
  "<svg xmlns=\"http://www.w3.org/2000/svg\" width=\"".toList ++ width ++
    "\" height=\"24\"><path d=\"M0 0L1 1L1 4Z\"/></svg>".toList

/-- The markup of the document, with its width in the view box and as it is. -/
def narrowMarkup (shown width : Text) : Text :=
  "<svg viewBox=\"0 0 ".toList ++ shown ++ " 24\" width=\"".toList ++ width ++
    "\" height=\"24\" xmlns=\"http://www.w3.org/2000/svg\"><defs/>".toList ++
    "<path fill=\"#000000\" stroke=\"none\" d=\"M 0 0 L 1 1 L 1 4 Z\"/></svg>".toList

/-- A little more than half a thousandth is shown as a thousandth. -/
theorem narrow_looks_positive :
    Engines.standard.DrawsSized ∧
      ∃ icon, Icon.minify (.text (narrowDocument "0.0006".toList)) [] [] = .ok icon ∧
      (Payload.ofIcon icon []).width = "0.001".toList ∧
      (0 < icon.width.toRat ∧ 0 < icon.height.toRat) ∧
      (∃ behind, icon.markup = "<svg viewBox=\"0 0 ".toList ++
        (Payload.ofIcon icon []).width ++ ' ' ::
        (Payload.ofIcon icon []).height ++ '"' :: behind) ∧
      ShowsSide icon.width.toRat (Payload.ofIcon icon []).width ∧
      ShowsSide icon.height.toRat (Payload.ofIcon icon []).height := by
  have printed : (Icon.minify (.text (narrowDocument "0.0006".toList)) [] []).map
      (fun icon => (Payload.ofIcon icon []).width) = .ok "0.001".toList := by decide +kernel
  cases accepted : Icon.minify (.text (narrowDocument "0.0006".toList)) [] [] with
  | error error => rw [accepted] at printed; cases printed
  | ok icon =>
    rw [accepted] at printed
    exact ⟨Engines.standard_drawsSized, icon, rfl, Except.ok.inj printed,
      Icon.minify_size Engines.standard Engines.standard_drawsSized accepted []⟩

/-- **A narrow icon vanishes**: its width is positive, and is written as zero in its view box and in
its payload. -/
theorem narrow_vanishes :
    ∃ icon, Icon.minify (.text (narrowDocument "0.0004".toList)) [] [] = .ok icon ∧
      0 < icon.width.toRat ∧ icon.markup = narrowMarkup "0".toList "0.0004".toList ∧
      (Payload.ofIcon icon []).width = "0".toList ∧
      (Decimal.read? "0".toList).map Decimal.toRat = some 0 := by
  have printed : (Icon.minify (.text (narrowDocument "0.0004".toList)) [] []).map
      (fun icon => (icon.markup, (Payload.ofIcon icon []).width)) =
        .ok (narrowMarkup "0".toList "0.0004".toList, "0".toList) := by
    unfold narrowDocument narrowMarkup
    repeat rw [String.toList_ofList]
    decide +kernel
  cases accepted : Icon.minify (.text (narrowDocument "0.0004".toList)) [] [] with
  | error error => rw [accepted] at printed; cases printed
  | ok icon =>
    rw [accepted] at printed
    obtain ⟨markup, width⟩ := Prod.mk.inj (Except.ok.inj printed)
    obtain ⟨source, drawn, _, drew, -, rfl⟩ := Engines.exists_drawn accepted
    have wide := (Engines.standard_drawsSized source drawn drew).width
    have zero : Decimal.toRat ⟨false, 0, 0⟩ = 0 := by simp [Decimal.toRat]
    exact ⟨_, rfl, wide, markup, width,
      zero ▸ Decimal.toRat_read?_text ⟨false, 0, 0⟩⟩

/-! ### Sides that look alike -/

/-- Positive numbers are equal exactly if their values are. -/
theorem Binary.equal_iff_of_pos {format : Format} {a b : Binary format} (positive : 0 < a.toRat)
    (positive' : 0 < b.toRat) : a.equal b = true ↔ a.toRat = b.toRat := by
  cases a with
  | nan => exact absurd positive (lt_irrefl 0)
  | infinite => exact absurd positive (lt_irrefl 0)
  | finite =>
    cases b with
    | nan => exact absurd positive' (lt_irrefl 0)
    | infinite => exact absurd positive' (lt_irrefl 0)
    | finite => exact beq_iff_eq

/-- What is said about the form of an icon: it is square exactly if its sides are equal, and then
they look alike. Sides that look alike are nearest to the same number of thousandths, so they are
close to each other, and equal if they are whole thousandths. -/
structure Payload.SquarePolicy (icon : Icon) (payload : Payload) : Prop where
  square_iff : payload.square = true ↔ icon.width.toRat = icon.height.toRat
  default_eq : payload.heightDefault =
    if payload.square then "width".toList else "'auto'".toList
  alike_of_square : payload.square = true → payload.width = payload.height
  alike_iff : payload.width = payload.height ↔ ∃ thousandths : ℕ,
    RoundsTo (1000 * icon.width.toRat) thousandths ∧
      RoundsTo (1000 * icon.height.toRat) thousandths
  close : payload.width = payload.height →
    |icon.width.toRat - icon.height.toRat| ≤ 1 / 1000
  square_of_alike : ∀ across along : ℤ, 1000 * icon.width.toRat = across →
    1000 * icon.height.toRat = along → payload.width = payload.height → payload.square = true

/-- **Square icons** are those with equal sides. -/
theorem Payload.square_policy (wide : 0 < icon.width.toRat) (high : 0 < icon.height.toRat)
    (componentName : Text) : Payload.SquarePolicy icon (Payload.ofIcon icon componentName) := by
  have square : icon.isSquare = true ↔ icon.width.toRat = icon.height.toRat :=
    Binary.equal_iff_of_pos wide high
  have alike := formatDimension_eq_iff wide high
  refine ⟨square, rfl, fun isSquare => ?_, alike, fun same => ?_,
    fun across along whole whole' same => ?_⟩
  · obtain ⟨units, -, nearest⟩ := exists_units wide
    exact alike.mpr ⟨units, nearest, square.mp isSquare ▸ nearest⟩
  · obtain ⟨thousandths, nearest, nearest'⟩ := alike.mp same
    have left := abs_le.mp nearest.close
    have right := abs_le.mp nearest'.close
    rw [abs_le]
    constructor <;> linarith
  · obtain ⟨thousandths, nearest, nearest'⟩ := alike.mp same
    have sides : across = along :=
      (RoundsTo.eq_intCast (whole ▸ nearest)).symm.trans (RoundsTo.eq_intCast (whole' ▸ nearest'))
    refine square.mpr ?_
    have scaled : 1000 * icon.width.toRat = 1000 * icon.height.toRat := by
      rw [whole, whole', sides]
    linarith

/-- An icon with a width of ten and a given height. -/
def tenWide (height : Single) : Icon :=
  ⟨"<svg/>".toList, .finite false 10485760 (-20), height, "a.svg".toList⟩

/-- Ten and the tenth of a thousandth, rounded to a number in single precision. -/
def aboveTen : Single := .finite false 10485865 (-20)

/-- The policy for an icon that is square but for a hair. -/
theorem nearlySquare_policy :
    0 < (tenWide aboveTen).width.toRat ∧ 0 < (tenWide aboveTen).height.toRat ∧
      Payload.SquarePolicy (tenWide aboveTen) (Payload.ofIcon (tenWide aboveTen) []) :=
  ⟨by decide +kernel, by decide +kernel,
    Payload.square_policy (by decide +kernel) (by decide +kernel) []⟩

/-- **An icon that looks square and is not**: both sides are shown as ten. -/
theorem nearlySquare_looks_square :
    0 < (tenWide aboveTen).width.toRat ∧ 0 < (tenWide aboveTen).height.toRat ∧
      (Payload.ofIcon (tenWide aboveTen) []).width = "10".toList ∧
      (Payload.ofIcon (tenWide aboveTen) []).height = "10".toList ∧
      (Payload.ofIcon (tenWide aboveTen) []).square = false ∧
      (Payload.ofIcon (tenWide aboveTen) []).heightDefault = "'auto'".toList := by
  decide +kernel

end IconComponents
