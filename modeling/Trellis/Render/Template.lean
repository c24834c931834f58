/-
Templates: the bodies of a description that can be rendered on their own.
-/
import Trellis.Description.Reader
import Trellis.Render.Body
import Trellis.Render.Html
import Trellis.Render.Interact

namespace Trellis

namespace Workshop

/-- The machine on which expressions are evaluated, given how content is rendered. -/
def machine (w : Workshop) (content : Nat → Value → Run (List Rendered))
    (render : Template → Value → Style → Bool → Run (List Rendered))
    (watched : Template → Value → Run (List (Nat × Value))) : Machine :=
  let host := { w.host with decorators := w.decoratorNames }
  let plain : Machine := { host, content, render, watched, decorator? := fun _ _ => none }
  let fitted : Machine := { plain with
    decoratorNames := w.decoratorNames
    decorator? := w.decorator? plain }
  { fitted with fire := RenderedEvent.fire fitted, update := RenderedBinding.update fitted }

/-- The renderer that renders bodies in a given way. -/
def rendererWith (w : Workshop) (body : Context → Nat → Run (List Rendered)) : Renderer :=
  let still := w.machine (fun _ _ => return []) (fun _ _ _ _ => return []) fun _ _ => return []
  let plain : Renderer := { machine := still, body }
  { plain with machine := w.machine plain.content plain.render plain.watchedSlots }

/-- Renders a body in a rendering that was started with a template; bodies may call each other
`depth` deep. -/
def bodyTo (w : Workshop) (start : Template) : Nat → Context → Nat → Run (List Rendered)
  | 0, _, _ => throw (Fault.plain "templates are nested too deeply")
  | depth + 1, c, at_ =>
    Render.body w (c.template start) (w.rendererWith (bodyTo w start depth)) c at_

/-- The renderer for work outside of a rendering, where all templates are kept. -/
def renderer (w : Workshop) : Renderer := w.rendererWith (w.bodyTo default (w.depth + 1))

/-- Renders a template.  A fault that does not end the rendering leaves an empty text. -/
def begin (w : Workshop) (t : Template) (i : Invocation) : Run (List Rendered) := do
  let c ← i.context .start
  c.contain t.description.module [.text c.key "" false false] (w.bodyTo t (w.depth + 1) c t.body)

/-- Renders a template; what is passed on of it afterwards, also by a fault, keeps it. -/
def render (w : Workshop) (t : Template) (i : Invocation) : Run (List Rendered) := do
  let nodes ← tryCatch (w.begin t i) fun f => do
    Memory.settle t
    throw f
  Memory.settle t
  return nodes

end Workshop

namespace Template

/-- The template of a module. -/
def ofDescription (d : Description) (toolkit : Toolkit) : Except Fault Template :=
  if d.rootCount ≠ 1 then
    .error (Fault.make .rootCount [("Count", Text.natText d.rootCount)])
  else .ok { description := d, body := d.root?.getD 0, toolkit, isModule := true }

/-- Reads a template from the text of a description, or from a line that names one of its
bodies. -/
def parse (decorators : Option (List String)) (toolkit : Toolkit) (s : String) :
    Except Fault Template := do
  if Description.isLine s then
    let (d, index) ← Description.parseLine decorators s
    let t ← ofDescription d toolkit
    match d.bodies[index]? with
    | none => return t
    | some b =>
      match b.kind with
      | .root => return t
      | .template => return (t.inline? b.name).getD t
      | kind => throw (Description.malformed
          ("body " ++ Text.natText index ++ " is a " ++ kind.name ++ " body"))
  else ofDescription (← Description.parse decorators s) toolkit

/-- The watched slots of a template with their values for data. -/
def watchedSlots (w : Workshop) (t : Template) (data : Value) : Run (List (Nat × Value)) :=
  w.renderer.watchedSlots t data

end Template

end Trellis
