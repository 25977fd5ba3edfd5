import RemoteDisplay.Colour
import RemoteDisplay.Frame.Basic
import RemoteDisplay.Identifier

/-!
# Renderers

A renderer produces the frame of an output; only the damaged part of it has to be up to date. The
`PatternRenderer` draws a moving gradient: it keeps one frame per output and recolours the damaged
pixels, one step of the animation per repaint of any output.
-/

namespace RemoteDisplay

/-- Where the pixels of outputs come from. A repaint answers a handle on the frame. -/
class Renderer (ρ : Type) where
  repaint : ρ → PixelStore → OutputId → Damage → Except Trap (Except Fault Frame × ρ × PixelStore)

/-- A source of moving gradients. -/
structure PatternRenderer where
  width : UInt32
  height : UInt32
  frames : List (OutputId × Frame) := []
  tick : UInt32 := 0

namespace PatternRenderer

/-- The colour of pixel `(x, y)` at step `tick` of the animation. -/
@[inline] def pattern (x y tick : UInt32) : UInt32 :=
  Colour.rgb (x + tick).toUInt8 y.toUInt8 ((x ^^^ y) + tick * 3).toUInt8

/-- The numbers from one coordinate up to another. -/
def between (first last : Int32) : List UInt32 :=
  (List.range' first.toInt.toNat (last.toInt.toNat - first.toInt.toNat)).map UInt32.ofNat

/-- Recolours the given columns of a row of a frame. -/
def paintRow (f : Frame) (s : PixelStore) (tick y : UInt32) (columns : List UInt32) :
    Except Trap (Frame × PixelStore) :=
  columns.foldlM (fun (f, s) x => f.put s x y (pattern x y tick)) (f, s)

/-- Recolours a region of a frame, row by row. -/
def paintRegion (f : Frame) (s : PixelStore) (tick : UInt32) (r : Region) :
    Except Trap (Frame × PixelStore) :=
  (between r.y r.bottom).foldlM (fun (f, s) y => paintRow f s tick y (between r.x r.right)) (f, s)

/-- Recolours the damaged part of a frame. -/
def paint (f : Frame) (s : PixelStore) (tick : UInt32) (damage : Damage) :
    Except Trap (Frame × PixelStore) :=
  (damage.clipped f.bounds).regions.foldlM (fun (f, s) r => paintRegion f s tick r) (f, s)

/-- The frame kept for an output, if there is one. -/
def frame? (p : PatternRenderer) (output : OutputId) : Option Frame := p.frames.lookup output

/-- Keeps a frame for an output in place of the one before. -/
def keep (p : PatternRenderer) (output : OutputId) (f : Frame) : PatternRenderer :=
  { p with frames := (output, f) :: p.frames.filter (·.1 ≠ output) }

/-- The frame kept for an output, or a new black one. -/
def frameFor (p : PatternRenderer) (s : PixelStore) (output : OutputId) :
    Except Fault (Frame × PixelStore) :=
  match p.frame? output with
  | some f => .ok (f, s)
  | none => Frame.new s p.width p.height

/-- One step of the animation on one output. Without memory for the frame nothing changes. -/
def repaint (p : PatternRenderer) (s : PixelStore) (output : OutputId) (damage : Damage) :
    Except Trap (Except Fault Frame × PatternRenderer × PixelStore) :=
  match p.frameFor s output with
  | .error e => .ok (.error e, p, s)
  | .ok (f, s) => do
    let (f, s) ← paint f s p.tick damage
    return (.ok f, { p.keep output f with tick := p.tick + 1 }, s.retain f.block)

end PatternRenderer

instance : Renderer PatternRenderer := ⟨PatternRenderer.repaint⟩

end RemoteDisplay
