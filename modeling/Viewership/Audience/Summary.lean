/-
# Viewership.Audience.Summary -- audiences and subjects in words

An audience is described by who the entity is and by how many manual viewers, exceptions and
candidate lists it has. Who they are is left out.
-/
import Viewership.Audience.Basic
import Viewership.Text.Outline

namespace Viewership

universe u

variable {P : Type u} [HasOutline P]

instance [Viewer P] : HasOutline (Audience P) where
  outline a := .record "ViewEngine"
    [("this", outline a.ownViewer), ("manual", outline a.roster.size),
      ("exceptions", outline a.exceptions.size), ("lists", outline (a.lists.map Array.size))]
    true

instance : HasOutline (Subject P) where
  outline
    | .viewer v => .wrap "Viewer" (outline v)
    | .other => .atom "Other"

end Viewership
