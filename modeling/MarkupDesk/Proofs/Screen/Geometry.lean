/-
`Proofs/Screen/Geometry.lean` -- rectangles within the limits, and the popup in its pane.

A rectangle of more cells than the limit is shrunk by way of doubles: the proportion of its
sides, the root of a quotient, and a product, each rounded. What comes out is meant to have the
limit as its area, up to a dozen roundings. These are too small to matter: a rectangle that has
to be shrunk has one cell more than the limit at least, so the sides that come out are smaller
than those that went in, and the area stays below the next whole number (`exists_shrink?`).

So every rectangle that is made has at most as many cells as the limit says, and a popup is no
larger than it was meant to be. It is smaller only if it is beyond the limit itself, and then it
may end left of its caret.
-/
import MarkupDesk.Proofs.Number.Rounding
import MarkupDesk.Screen.Geometry

set_option autoImplicit false

namespace MarkupDesk.Screen

open Number (Binary64 Moderate Near Ordinary slack)

/-! ## 1. Shrinking -/

section Shrink

variable {width height : Nat}

theorem cast_limit : ((limit : ℕ) : ℚ) = 65535 := by norm_num [limit]

/-- A dozen roundings do not make up for one cell. -/
theorem slack_pow_lt {n : Nat} (hn : n ≤ 20) : 65535 * slack ^ n < 65536 := by
  have hone : 1 ≤ slack := by
    unfold slack
    norm_num
  calc
    65535 * slack ^ n ≤ 65535 * slack ^ 20 :=
      mul_le_mul_of_nonneg_left (pow_le_pow_right₀ hone hn) (by norm_num)
    _ < 65536 := by
      unfold slack
      norm_num

/-- A side is smaller if its square is by one part of 65536 at least. -/
theorem floor_lt {x : Binary64} {n side : Nat} {y : ℚ} (h : Near n (x.value * x.value) y)
    (hn : n ≤ 20) (hside : 0 < side) (hy : y * 65536 ≤ 65535 * (side * side)) :
    x.floor < side := by
  -- the square is what is known, so a side that is not smaller is refuted by its own square
  by_contra hle
  have hvalue : (side : ℚ) ≤ x.value :=
    (Nat.cast_le.2 (Nat.not_lt.1 hle)).trans x.floor_le_value
  have hpos : (0 : ℚ) < side * side := by positivity
  have hnonneg := x.value_nonneg
  have hsquare : (side : ℚ) * side * 65536 < side * side * 65536 := calc
    (side : ℚ) * side * 65536 ≤ x.value * x.value * 65536 := by gcongr
    _ ≤ y * slack ^ n * 65536 := mul_le_mul_of_nonneg_right h.le (by norm_num)
    _ = y * 65536 * slack ^ n := by ring
    _ ≤ 65535 * (side * side) * slack ^ n :=
      mul_le_mul_of_nonneg_right hy (Number.slack_pos n).le
    _ = side * side * (65535 * slack ^ n) := by ring
    _ < side * side * 65536 := mul_lt_mul_of_pos_left (slack_pow_lt hn) hpos
  exact lt_irrefl _ hsquare

/-- The square of a side that comes out, for an area of one cell too many or more. -/
theorem side_part {side other : ℚ} (hside : 0 ≤ side) (hother : 0 < other)
    (hlarge : 65536 ≤ side * other) :
    65535 * (side / other) * 65536 ≤ 65535 * (side * side) := by
  have hsquare : side / other * 65536 ≤ side * side := calc
    side / other * 65536 ≤ side / other * (side * other) := by gcongr
    _ = side * side := by
      rw [div_mul_eq_mul_div, ← mul_assoc, mul_div_cancel_right₀ _ hother.ne']
  linarith

/-- An area of less than one cell more than the limit. -/
theorem floor_mul_floor_le {x x' : Binary64} {n : Nat} (h : Near n (x.value * x'.value) limit)
    (hn : n ≤ 20) : x.floor * x'.floor ≤ limit := by
  have hless : ((x.floor * x'.floor : ℕ) : ℚ) < (65536 : ℕ) := calc
    ((x.floor * x'.floor : ℕ) : ℚ) = x.floor * x'.floor := Nat.cast_mul _ _
    _ ≤ x.value * x'.value :=
      mul_le_mul x.floor_le_value x'.floor_le_value (Nat.cast_nonneg _) x.value_nonneg
    _ ≤ 65535 * slack ^ n := by rw [← cast_limit]; exact h.le
    _ < 65536 := slack_pow_lt hn
    _ = (65536 : ℕ) := by norm_num
  exact Nat.lt_succ_iff.1 (Nat.cast_lt.1 hless)

theorem moderate_side {side : Nat} (h : 0 < side ∧ side ≤ limit) : Moderate side := by
  have hlow : (1 : ℚ) ≤ side := by exact_mod_cast h.1
  have hhigh : (side : ℚ) ≤ 65535 := by exact_mod_cast h.2
  constructor
  · exact le_trans (by norm_num) hlow
  · exact hhigh.trans (by norm_num)

/-- The proportion of two sides is of moderate size, and so is what is computed with it: no
side is more than the limit, so no proportion is more than that. -/
theorem moderate_ratio {ratio : ℚ} (hwidth : 0 < width ∧ width ≤ limit)
    (hheight : 0 < height ∧ height ≤ limit) (hratio : ratio = width / height) :
    Moderate ratio ∧ Moderate (limit * ratio) ∧ Moderate (limit / ratio) := by
  have hw : (1 : ℚ) ≤ width ∧ (width : ℚ) ≤ 65535 := by exact_mod_cast hwidth
  have hh : (1 : ℚ) ≤ height ∧ (height : ℚ) ≤ 65535 := by exact_mod_cast hheight
  have hpos : (0 : ℚ) < height := by linarith
  -- a side has one cell at least and no more than the limit
  have hlow : 1 / 65535 ≤ ratio := by
    rw [hratio, le_div_iff₀ hpos]
    linarith
  have hhigh : ratio ≤ 65535 := by
    rw [hratio, div_le_iff₀ hpos]
    linarith
  have hrpos : 0 < ratio := by linarith
  rw [cast_limit]
  refine ⟨⟨?_, ?_⟩, ⟨?_, ?_⟩, ⟨?_, ?_⟩⟩
  · linarith
  · linarith
  · linarith
  · linarith
  · rw [le_div_iff₀ hrpos]
    linarith
  · rw [div_le_iff₀ hrpos]
    linarith

/-- The sides that come out, and the exact numbers that they stand for. -/
theorem exists_shrunk {ratio : ℚ} (hwidth : 0 < width ∧ width ≤ limit)
    (hheight : 0 < height ∧ height ≤ limit) (hratio : ratio = width / height) :
    ∃ w h : Binary64, Rect.shrink? width height = some (cap w.floor, cap h.floor) ∧
      Near 16 (w.value * w.value) (limit * ratio) ∧ Near 8 (h.value * h.value) (limit / ratio) ∧
      Near 12 (w.value * h.value) limit := by
  obtain ⟨hproportion, hproduct, hquotient⟩ := moderate_ratio hwidth hheight hratio
  obtain ⟨a, ha, hanear⟩ := Binary64.exists_ofNat? hwidth.1 (moderate_side hwidth)
  obtain ⟨b, hb, hbnear⟩ := Binary64.exists_ofNat? hheight.1 (moderate_side hheight)
  obtain ⟨l, hl, hlnear⟩ := Binary64.exists_ofNat? (n := limit) (by decide)
    (moderate_side ⟨by decide, Nat.le_refl _⟩)
  obtain ⟨p, hp, hpnear⟩ := Binary64.exists_div? hanear hbnear (by decide) (hratio ▸ hproportion)
  rw [← hratio] at hpnear
  -- from here on three roundings are in the proportion, five in the quotient, eight in the square
  -- of the root
  obtain ⟨q, hq, hqnear⟩ := Binary64.exists_div? hlnear hpnear (by decide) hquotient
  obtain ⟨h, hh, hhnear⟩ := Binary64.exists_sqrt? hqnear (by decide) hquotient
  have hrpos : 0 < ratio := hpnear.pos
  have hhpos : 0 < h.value := by
    apply h.value_nonneg.lt_of_ne'
    intro hzero
    have hpos := hhnear.pos_left
    rw [hzero, mul_zero] at hpos
    exact lt_irrefl _ hpos
  have hsquare : Near 14 (h.value * p.value * (h.value * p.value)) (limit * ratio) := by
    have hmul := hhnear.mul (hpnear.mul hpnear)
    rwa [mul_mul_mul_comm, ← mul_assoc (_ / ratio), div_mul_cancel₀ _ hrpos.ne'] at hmul
  obtain ⟨w, hw, hwnear⟩ := Binary64.exists_mul? hhpos hpnear.pos_left
    (.of_square (mul_pos hhpos hpnear.pos_left) (hsquare.ordinary (by decide) hproduct))
  refine ⟨w, h, ?_, (hwnear.mul hwnear).trans hsquare, hhnear, ?_⟩
  · simp only [Rect.shrink?, ha, hb, hl, hp, hq, hh, hw, Option.bind_eq_bind, Option.bind_some,
      Option.pure_def]
  · have hmul := hhnear.mul hpnear
    rw [div_mul_cancel₀ _ hrpos.ne', mul_right_comm] at hmul
    exact (hwnear.mul (.refl hhpos)).trans hmul

/-- **Shrinking makes both sides smaller, and the area fit.** Each side that comes out is near
the root of the limit times a proportion, which is smaller than the side that went in, as the
area was above the limit by one cell at least. -/
theorem exists_shrink? (hwidth : width ≤ limit) (hheight : height ≤ limit)
    (hlarge : limit < width * height) :
    ∃ w h, Rect.shrink? width height = some (w, h) ∧ w < width ∧ h < height ∧
      w * h ≤ limit := by
  have hwpos : 0 < width := Nat.pos_of_ne_zero fun hzero => by simp [hzero] at hlarge
  have hhpos : 0 < height := Nat.pos_of_ne_zero fun hzero => by simp [hzero] at hlarge
  have hwpos' : (0 : ℚ) < width := Nat.cast_pos.2 hwpos
  have hhpos' : (0 : ℚ) < height := Nat.cast_pos.2 hhpos
  have hlarge' : (65536 : ℚ) ≤ width * height := by exact_mod_cast hlarge
  obtain ⟨w, h, hshrink, hw, hh, harea⟩ := exists_shrunk ⟨hwpos, hwidth⟩ ⟨hhpos, hheight⟩ rfl
  rw [cast_limit] at hw hh
  have hw' : w.floor < width := by
    apply floor_lt hw (by norm_num) hwpos
    exact side_part hwpos'.le hhpos' hlarge'
  have hh' : h.floor < height := by
    apply floor_lt hh (by norm_num) hhpos
    rw [div_div_eq_mul_div, mul_div_assoc]
    apply side_part hhpos'.le hwpos'
    rwa [mul_comm]
  -- a side is cut at 65535 when it is stored, which only makes it smaller
  have hcap : cap w.floor * cap h.floor ≤ w.floor * h.floor :=
    Nat.mul_le_mul (Nat.min_le_left _ _) (Nat.min_le_left _ _)
  refine ⟨cap w.floor, cap h.floor, hshrink, ?_, ?_, ?_⟩
  · exact Nat.lt_of_le_of_lt (Nat.min_le_left _ _) hw'
  · exact Nat.lt_of_le_of_lt (Nat.min_le_left _ _) hh'
  · exact hcap.trans (floor_mul_floor_le harea (by norm_num))

end Shrink

/-! ## 2. Rectangles -/

namespace Rect

/-- A rectangle keeps its corner, and its size unless that is beyond the limit. -/
theorem limited_of_le {width height : Nat} (x y : Nat) (h : width * height ≤ limit) :
    limited x y width height = ⟨x, y, width, height⟩ := by
  rw [limited, if_neg (Nat.not_lt.2 h)]

/-- **A rectangle never grows when it is made, and is within the limit.** Both its sides get
smaller where they have more cells than that; its corner stays in any case. -/
theorem exists_limited {width height : Nat} (x y : Nat) (hwidth : width ≤ limit)
    (hheight : height ≤ limit) :
    ∃ w h, limited x y width height = ⟨x, y, w, h⟩ ∧ w ≤ width ∧ h ≤ height ∧ w * h ≤ limit ∧
      (limit < width * height → w < width ∧ h < height) := by
  by_cases hlarge : limit < width * height
  · obtain ⟨w, h, hshrink, hw, hh, harea⟩ := exists_shrink? hwidth hheight hlarge
    refine ⟨w, h, ?_, Nat.le_of_lt hw, Nat.le_of_lt hh, harea, fun _ => ⟨hw, hh⟩⟩
    rw [limited, if_pos hlarge, hshrink]
  · have hsmall := Nat.not_lt.1 hlarge
    exact ⟨width, height, limited_of_le x y hsmall, Nat.le_refl _, Nat.le_refl _, hsmall,
      fun h => absurd h hlarge⟩

/-- One of the columns of the rectangle. -/
def HasColumn (r : Rect) (x : Nat) : Prop := r.x ≤ x ∧ x < r.x + r.width

/-- One of its rows. -/
def HasRow (r : Rect) (y : Nat) : Prop := r.y ≤ y ∧ y < r.y + r.height

/-- One of its cells. -/
def Has (r : Rect) (cell : Nat × Nat) : Prop := r.HasColumn cell.1 ∧ r.HasRow cell.2

instance (r : Rect) (x : Nat) : Decidable (r.HasColumn x) :=
  inferInstanceAs (Decidable (r.x ≤ x ∧ x < r.x + r.width))

instance (r : Rect) (y : Nat) : Decidable (r.HasRow y) :=
  inferInstanceAs (Decidable (r.y ≤ y ∧ y < r.y + r.height))

instance (r : Rect) (cell : Nat × Nat) : Decidable (r.Has cell) :=
  inferInstanceAs (Decidable (r.HasColumn cell.1 ∧ r.HasRow cell.2))

/-- No edge of the inner rectangle is beyond that of the outer one. -/
structure Within (inner outer : Rect) : Prop where
  left : outer.x ≤ inner.x
  right : inner.x + inner.width ≤ outer.x + outer.width
  top : outer.y ≤ inner.y
  bottom : inner.y + inner.height ≤ outer.y + outer.height

end Rect

/-- The editor has a pane at the left and at the top of a terminal, and within its limits. -/
theorem editor_edges (collapsed : Bool) {width height : Nat} (hwidth : width ≤ limit)
    (hheight : height ≤ limit) :
    let pane := (layout collapsed width height).editor
    pane.x + pane.width ≤ limit ∧ pane.y + pane.height ≤ limit := by
  intro pane
  obtain ⟨w, h, harea, hw, hh, -⟩ := Rect.exists_limited 0 0 hwidth hheight
  simp only [pane, layout, harea, portion]
  constructor
  · omega
  · omega

/-! ## 3. The popup -/

section Popup

variable {bounds : Rect} {caret : Nat × Nat} {columns rows : Nat}

/-- Where a popup of the given size is put: its column and its row. -/
def popupPlace (caret : Nat × Nat) (columns rows : Nat) (bounds : Rect) : Nat × Nat :=
  (max (min caret.1 (bounds.right - columns)) bounds.x,
    if cap (cap (caret.2 + 1) + rows) ≤ bounds.bottom then cap (caret.2 + 1)
    else max (caret.2 - rows) bounds.y)

/-- A popup is a rectangle of its size at its place, made within the limit. -/
theorem popupRect_eq (caret : Nat × Nat) (width height : Nat) (bounds : Rect) :
    popupRect caret width height bounds =
      Rect.limited (popupPlace caret (max (min width bounds.width) 1)
          (max (min height bounds.height) 1) bounds).1
        (popupPlace caret (max (min width bounds.width) 1)
          (max (min height bounds.height) 1) bounds).2
        (max (min width bounds.width) 1) (max (min height bounds.height) 1) := rfl

/-- Between the edges of the bounds, and over the column of the caret. -/
theorem popupPlace_column (rows : Nat) (hright : bounds.x + bounds.width ≤ limit)
    (hcaret : bounds.HasColumn caret.1) (hcolumns : 0 < columns ∧ columns ≤ bounds.width) :
    bounds.x ≤ (popupPlace caret columns rows bounds).1 ∧
      (popupPlace caret columns rows bounds).1 + columns ≤ bounds.x + bounds.width ∧
      (popupPlace caret columns rows bounds).1 ≤ caret.1 ∧
      caret.1 < (popupPlace caret columns rows bounds).1 + columns := by
  obtain ⟨hleft, hcolumn⟩ := hcaret
  have hedge : bounds.right = bounds.x + bounds.width := Nat.min_eq_left hright
  simp only [popupPlace, hedge]
  omega

/-- Between the edges of the bounds, and below the row of the caret or above it where one of the
two has room. -/
theorem popupPlace_row (columns : Nat) (hbottom : bounds.y + bounds.height < limit)
    (hcaret : bounds.HasRow caret.2) (hrows : rows ≤ bounds.height) :
    bounds.y ≤ (popupPlace caret columns rows bounds).2 ∧
      (popupPlace caret columns rows bounds).2 + rows ≤ bounds.y + bounds.height ∧
      (caret.2 + 1 + rows ≤ bounds.y + bounds.height ∨ bounds.y + rows ≤ caret.2 →
        caret.2 < (popupPlace caret columns rows bounds).2 ∨
          (popupPlace caret columns rows bounds).2 + rows ≤ caret.2) := by
  obtain ⟨htop, hrow⟩ := hcaret
  have hedge : bounds.bottom = bounds.y + bounds.height := Nat.min_eq_left (Nat.le_of_lt hbottom)
  have hbelow : cap (caret.2 + 1) = caret.2 + 1 := Nat.min_eq_left (by omega)
  -- the bounds end before the last coordinate, so a sum that is cut off there is not in them
  have hroom : cap (caret.2 + 1 + rows) ≤ bounds.y + bounds.height ↔
      caret.2 + 1 + rows ≤ bounds.y + bounds.height := by
    rw [cap]
    omega
  simp only [popupPlace, hedge, hbelow, hroom]
  split
  · omega
  · omega

/-- **The popup stays in its pane.** It is within the bounds, and it leaves the row of the caret
free if there is room for it below that row or above it. It has the size that was asked for as far
as the bounds have room for that, and covers the column of the caret, unless it has more cells
than the limit. In bounds that are within the limit themselves it never has.

A popup of more cells is shrunk on both sides until it has no more than the limit. Its corner stays
where a popup of the full size would have had it, so that it moves away from the right and the
bottom only, and the caret's column may be among those that it loses (`popup_misses_column`). -/
theorem popupRect_placed (width height : Nat) (hwidth : 1 ≤ bounds.width)
    (hheight : 1 ≤ bounds.height) (hright : bounds.x + bounds.width ≤ limit)
    (hbottom : bounds.y + bounds.height < limit) (hcaret : bounds.Has caret) :
    let popup := popupRect caret width height bounds
    let columns := max (min width bounds.width) 1
    let rows := max (min height bounds.height) 1
    popup.Within bounds ∧
    (caret.2 + 1 + rows ≤ bounds.y + bounds.height ∨ bounds.y + rows ≤ caret.2 →
      ¬ popup.HasRow caret.2) ∧
    (columns * rows ≤ limit →
      popup.width = columns ∧ popup.height = rows ∧ popup.HasColumn caret.1) ∧
    (limit < columns * rows →
      popup.width < columns ∧ popup.height < rows ∧ popup.width * popup.height ≤ limit) ∧
    (popup.x, popup.y) = popupPlace caret columns rows bounds ∧
    ∀ x y w h, w ≤ limit → h ≤ limit → bounds = Rect.limited x y w h → columns * rows ≤ limit := by
  intro popup columns rows
  have hcolumns : 0 < columns ∧ columns ≤ bounds.width := by omega
  have hrows : rows ≤ bounds.height := by omega
  obtain ⟨hcolumn, hrow⟩ := hcaret
  obtain ⟨hleft, hend, hbefore, hbehind⟩ := popupPlace_column rows hright hcolumn hcolumns
  obtain ⟨htop, hlast, hfree⟩ := popupPlace_row columns hbottom hrow hrows
  have hpopup : popup = Rect.limited (popupPlace caret columns rows bounds).1
    (popupPlace caret columns rows bounds).2 columns rows := popupRect_eq caret width height bounds
  clear_value popup columns rows
  generalize popupPlace caret columns rows bounds = place at *
  have hsides : columns ≤ limit ∧ rows ≤ limit := by omega
  -- a popup that is shrunk keeps its corner, so its other edges only move inwards
  obtain ⟨w, h, hlimited, hw, hh, harea, hshrunk⟩ :=
    Rect.exists_limited place.1 place.2 hsides.1 hsides.2
  have hwide : place.1 + w ≤ bounds.x + bounds.width := by omega
  have hhigh : place.2 + h ≤ bounds.y + bounds.height := by omega
  refine ⟨?_, ?_, ?_, ?_, ?_, ?_⟩
  · rw [hpopup, hlimited]
    exact ⟨hleft, hwide, htop, hhigh⟩
  · rintro hroom ⟨habove, hunder⟩
    rw [hpopup, hlimited] at habove hunder
    have hout := hfree hroom
    simp only at habove hunder
    omega
  · intro hsmall
    rw [hpopup, Rect.limited_of_le _ _ hsmall]
    exact ⟨rfl, rfl, hbefore, hbehind⟩
  · intro hlarge
    obtain ⟨hnarrow, hlow⟩ := hshrunk hlarge
    rw [hpopup, hlimited]
    exact ⟨hnarrow, hlow, harea⟩
  · rw [hpopup, hlimited]
  · intro x y w' h' hw' hh' hmade
    obtain ⟨w, h, hlimited, -, -, harea, -⟩ := Rect.exists_limited x y hw' hh'
    rw [hmade, hlimited] at hcolumns hrows
    exact (Nat.mul_le_mul hcolumns.2 hrows).trans harea

/-- There is no room for twelve rows below the caret, and none for 34 columns to its right. In
a pane of 90000 cells, which is more than any rectangle has that is made, a popup that is to
fill it gets smaller and stays at the corner. -/
theorem popupRect_placed_above :
    let bounds : Rect := ⟨40, 3, 40, 20⟩
    let popup := popupRect (75, 21) 34 12 bounds
    let huge : Rect := ⟨0, 0, 300, 300⟩
    let shrunk := popupRect (150, 100) 300 300 huge
    (1 ≤ bounds.width ∧ 1 ≤ bounds.height ∧ bounds.x + bounds.width ≤ limit ∧
      bounds.y + bounds.height < limit ∧ bounds.Has (75, 21) ∧ popup = ⟨46, 9, 34, 12⟩ ∧
      popup.Within bounds ∧ popup.HasColumn 75 ∧ ¬ popup.HasRow 21) ∧
    huge.Has (150, 100) ∧ limit < huge.width * huge.height ∧ shrunk.Within huge ∧
      shrunk.width < 300 ∧ shrunk.height < 300 ∧ (shrunk.x, shrunk.y) = (0, 0) := by
  intro bounds popup huge shrunk
  have hbounds : 1 ≤ bounds.width ∧ 1 ≤ bounds.height ∧ bounds.x + bounds.width ≤ limit ∧
      bounds.y + bounds.height < limit ∧ bounds.Has (75, 21) := by decide
  obtain ⟨hwidth, hheight, hright, hbottom, hcaret⟩ := hbounds
  obtain ⟨hwithin, hfree, hsized, -⟩ := popupRect_placed 34 12 hwidth hheight hright hbottom hcaret
  have hplaced : popup.HasColumn 75 := (hsized (by decide)).2.2
  have hhuge : huge.Has (150, 100) := by decide
  -- the huge pane has rows and columns enough, but more cells than a rectangle
  obtain ⟨hinside, -, -, hsmaller, hcorner, -⟩ :=
    popupRect_placed 300 300 (by decide) (by decide) (by decide) (by decide) hhuge
  obtain ⟨hnarrow, hlow, -⟩ := hsmaller (by decide)
  have hplace : popupPlace (150, 100) 300 300 huge = (0, 0) := by decide
  exact ⟨⟨hwidth, hheight, hright, hbottom, hcaret, by decide, hwithin, hplaced,
    hfree (.inr (by decide))⟩, hhuge, by decide, hinside, hnarrow, hlow, hcorner.trans hplace⟩

/-- In bounds of 90000 cells, a popup that is to fill them is shrunk to 255 columns and does not
reach the caret in the last one. -/
theorem popup_misses_column :
    let bounds : Rect := ⟨0, 0, 300, 300⟩
    1 ≤ bounds.width ∧ 1 ≤ bounds.height ∧ bounds.x + bounds.width ≤ limit ∧
      bounds.y + bounds.height < limit ∧ bounds.Has (299, 0) ∧
      popupRect (299, 0) 300 300 bounds = ⟨0, 0, 255, 255⟩ ∧
      ¬ (popupRect (299, 0) 300 300 bounds).HasColumn 299 := by
  decide +kernel

end Popup

end MarkupDesk.Screen
