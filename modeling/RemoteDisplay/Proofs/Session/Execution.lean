import RemoteDisplay.Proofs.Frame.Painting
import RemoteDisplay.Proofs.Geometry.Rect
import RemoteDisplay.Proofs.Session.Effects
import RemoteDisplay.Proofs.Wire.Layout

/-!
# What the server paints

The server executes a drawable on a picture of its surface. A fill writes the colour of its brush over
its rectangle, a copy writes the pixels of its view. So the colour at a pixel is that of the last
drawable that has it, and only the bytes behind the views matter.
-/

namespace RemoteDisplay

/-- A picture of a surface: the colour of every pixel. -/
abbrev Picture : Type := Int → Int → UInt32

/-- The four bytes in a row and a column of an image, counted from the first pixel of its view. -/
def Blit.colourAt (b : Blit) (s : PixelStore) (column row : Nat) : UInt32 :=
  getWord (s.bytes b.pixels.block)
    (b.pixels.offset + (row * b.image.bitmap.stride.toNat + column * bytesPerPixel))

namespace Command

/-- The colour that the command leaves at a pixel of its surface, if it paints that pixel. -/
def colour? (c : Command) (s : PixelStore) (x y : Int) : Option UInt32 :=
  match c.payload with
  | .surface _ => none
  | .fill d => if d.bbox.Mem x y then d.fill?.bind (·.brush.colour?) else none
  | .copy b =>
    let bbox := b.drawable.bbox
    if bbox.Mem x y then some (b.colourAt s (x - bbox.left.toInt).toNat (y - bbox.top.toInt).toNat)
    else none

def paint (c : Command) (s : PixelStore) (p : Picture) : Picture :=
  fun x y => (c.colour? s x y).getD (p x y)

end Command

def painted (s : PixelStore) (cs : List Command) (p : Picture) : Picture :=
  cs.foldl (fun p c => c.paint s p) p

def drawables (surface : SurfaceId) (cs : List Command) : List Command :=
  cs.filter fun c => decide (c.surface = surface ∧ c.record? = none)

section Painted

variable {s s' : PixelStore} {c : Command} {cs ds : List Command} {p : Picture} {surface : SurfaceId}

theorem painted_append (s : PixelStore) (cs ds : List Command) (p : Picture) :
    painted s (cs ++ ds) p = painted s ds (painted s cs p) :=
  List.foldl_append

@[simp] theorem drawables_append (surface : SurfaceId) (cs ds : List Command) :
    drawables surface (cs ++ ds) = drawables surface cs ++ drawables surface ds :=
  List.filter_append _ _

theorem mem_drawables : c ∈ drawables surface cs ↔ c ∈ cs ∧ c.surface = surface ∧ c.record? = none := by
  simp [drawables]

theorem drawables_eq_nil (h : ∀ c ∈ cs, c.record? = none → c.surface ≠ surface) :
    drawables surface cs = [] := by
  refine List.filter_eq_nil_iff.mpr fun c hc => ?_
  simp only [decide_eq_true_eq, not_and]
  exact fun hs hr => h c hc hr hs

theorem paint_of_record {record : Wire.SurfaceRecord} (h : c.record? = some record) :
    c.paint s p = p := by
  cases hp : c.payload with
  | surface r =>
      funext x y
      simp only [Command.paint, Command.colour?, hp, Option.getD_none]
  | copy b => simp [Command.record?, hp] at h
  | fill d => simp [Command.record?, hp] at h

/-- A command is executed on a picture of its surface and no other. -/
theorem painted_drawables_cons (h : c.surface = surface) :
    painted s (drawables surface (c :: cs)) p = painted s (drawables surface cs) (c.paint s p) := by
  cases hr : c.record? with
  | none =>
      rw [drawables, List.filter_cons_of_pos (by simp [h, hr])]
      rfl
  | some record =>
      rw [drawables, List.filter_cons_of_neg (by simp [hr]), paint_of_record hr]
      rfl

theorem colour?_congr (h : ∀ v, c.view? = some v → s'.bytes v.block = s.bytes v.block) (x y : Int) :
    c.colour? s' x y = c.colour? s x y := by
  cases hp : c.payload with
  | surface r => simp [Command.colour?, hp]
  | fill d => simp [Command.colour?, hp]
  | copy b =>
      have hbytes := h b.pixels (by simp [Command.view?, Command.blit?, hp])
      simp only [Command.colour?, hp, Blit.colourAt, hbytes]

/-- Only the bytes behind the views matter. -/
theorem painted_congr (h : ∀ c ∈ cs, ∀ v, c.view? = some v → s'.bytes v.block = s.bytes v.block)
    (p : Picture) : painted s' cs p = painted s cs p := by
  induction cs generalizing p with
  | nil => simp only [painted, List.foldl_nil]
  | cons c cs ih =>
      have hc : c.paint s' p = c.paint s p := by
        funext x y
        simp only [Command.paint, colour?_congr (h c List.mem_cons_self)]
      have hcs := ih (fun d hd => h d (List.mem_cons_of_mem c hd)) (c.paint s p)
      simp only [painted, List.foldl_cons, hc] at hcs ⊢
      exact hcs

end Painted

/-! ## The drawables that a session builds -/

namespace Session

variable {s : Session} {b : Nat} {surface : SurfaceId} {bbox : Rect} {store : PixelStore}

theorem colour?_fillCommand (colour : UInt32) (x y : Int) :
    (s.fillCommand b surface colour bbox).colour? store x y =
      if bbox.Mem x y then some colour else none := by
  have hfill : (fillDrawable surface bbox (s.nextTicket b).id (s.drawingTime b) colour).fill?.bind
      (·.brush.colour?) = some colour := by
    simp only [fillDrawable, Wire.Drawable.fill?_setFill, Option.bind_some, Wire.Brush.colour?_solid]
  have hbbox : (fillDrawable surface bbox (s.nextTicket b).id (s.drawingTime b) colour).bbox = bbox := by
    simp only [fillDrawable, Wire.Drawable.setFill, Wire.Drawable.blank]
  simp only [Command.colour?, fillCommand, hfill, hbbox]

theorem colour?_blitCommand (width height : UInt32) (v : View) (stride : UInt32) (damage : Damage)
    (x y : Int) :
    (s.blitCommand b surface bbox width height v stride damage).colour? store x y =
      if bbox.Mem x y then
        some (getWord (store.bytes v.block) (v.offset + ((y - bbox.top.toInt).toNat * stride.toNat +
          (x - bbox.left.toInt).toNat * bytesPerPixel)))
      else none := by
  have hbbox : (copyDrawable surface bbox (s.nextTicket b).id (s.drawingTime b) width height).bbox =
      bbox := by
    simp only [copyDrawable, Wire.Drawable.setCopy, Wire.Drawable.blank]
  simp only [Command.colour?, blitCommand, hbbox, Blit.colourAt, imageRecord, Wire.Image.setId]

end Session

/-- The rows and columns of a view are those of its frame. -/
theorem Frame.colourAt_view {f : Frame} {r : Region} {v : View} (h : f.view r = .ok v)
    (s : PixelStore) {x y : Nat} (hx : r.x.toInt ≤ x) (hy : r.y.toInt ≤ y) :
    getWord (s.bytes v.block) (v.offset +
        ((y - r.y.toInt).toNat * f.stride.toNat + (x - r.x.toInt).toNat * bytesPerPixel)) =
      f.colourAt s x y := by
  unfold Frame.view at h
  split at h
  · cases h
  · rename_i hinside
    have hleft : 0 ≤ r.x.toInt ∧ 0 ≤ r.y.toInt := by
      have hcontains : f.bounds.contains r = true := by
        by_contra hout
        exact hinside (.inr hout)
      simp only [Region.contains, Frame.bounds, decide_eq_true_eq, Int32.le_iff_toInt_le] at hcontains
      exact ⟨hcontains.1, hcontains.2.1⟩
    cases h
    rw [Frame.colourAt]
    congr 1
    have hrows : (y - r.y.toInt).toNat * f.stride.toNat + r.y.toInt.toNat * f.stride.toNat =
        y * f.stride.toNat := by
      rw [← Nat.add_mul]
      congr 1
      omega
    simp only [bytesPerPixel]
    omega

end RemoteDisplay
