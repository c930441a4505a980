import BlitReel.Input.Metadata
import BlitReel.Journal.Basic
import BlitReel.Settings.Basic

/-!
# The announcement

Before a conversion starts, the program says what it is about to convert, and warns when the start
lies at or beyond the end of the input. An input without a known length is announced without one.
-/

namespace BlitReel.Command

/-- The notes before a conversion. -/
def announce (m : Metadata) (s : Settings) : Journal :=
  let size : List Template.Value := [.int s.width, .int s.height, .float s.fps]
  let title := Template.Value.text (Utf8.text m.title)
  if m.duration ≤ 0 then
    [{ level := .info, template := "Converting %s to %dx%d at %g fps", values := title :: size }]
  else
    let length := Template.Value.text (Duration.text m.duration)
    let opening : Note :=
      { level := .info, template := "Converting %s (%s) to %dx%d at %g fps", values := title :: length :: size }
    match Timestamp.parse s.start with
    | .ok start =>
      if start ≥ m.duration then
        [opening, { level := .warn, template := "Start offset %s is beyond the end of the input (%s)",
                    values := [.text (Duration.text start), length] }]
      else [opening]
    | .error _ => [opening]

end BlitReel.Command
