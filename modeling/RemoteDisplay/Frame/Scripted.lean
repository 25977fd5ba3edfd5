import RemoteDisplay.Frame.Renderer

/-!
# Scripted renderers

A pattern renderer whose next answers can be set in advance: a black frame of some size, or a fault.
It lets a session meet renderers that misbehave.
-/

namespace RemoteDisplay

/-- An answer set in advance. -/
inductive ScriptedAnswer where
  /-- What the pattern renderer answers. -/
  | pattern
  /-- A black frame. -/
  | black (width height : UInt32)
  | refused (f : Fault)
  deriving DecidableEq, Repr

/-- A pattern renderer behind a script; when the script ends only the pattern is left. -/
structure ScriptedRenderer where
  script : List ScriptedAnswer
  inner : PatternRenderer

namespace ScriptedRenderer

/-- The answer of the pattern renderer. -/
def pattern (r : ScriptedRenderer) (s : PixelStore) (output : OutputId) (damage : Damage) :
    Except Trap (Except Fault Frame × ScriptedRenderer × PixelStore) := do
  let (answer, inner, s) ← r.inner.repaint s output damage
  return (answer, { r with inner }, s)

/-- The next answer of the script. -/
def repaint (r : ScriptedRenderer) (s : PixelStore) (output : OutputId) (damage : Damage) :
    Except Trap (Except Fault Frame × ScriptedRenderer × PixelStore) :=
  match r.script with
  | [] => r.pattern s output damage
  | .pattern :: script => pattern { r with script } s output damage
  | .refused f :: script => return (.error f, { r with script }, s)
  | .black width height :: script =>
    match Frame.new s width height with
    | .ok (f, s) => return (.ok f, { r with script }, s)
    | .error e => return (.error e, { r with script }, s)

end ScriptedRenderer

instance : Renderer ScriptedRenderer := ⟨ScriptedRenderer.repaint⟩

end RemoteDisplay
