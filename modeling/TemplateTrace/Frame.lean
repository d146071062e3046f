import TemplateTrace.Kind

/-!
# Frames and backtraces

A *frame* is one link of a chain of instantiations: the name of what was instantiated, as the
compiler writes it, and the kind of instantiation. The evaluated expression at the root of a
chain has no kind. A *backtrace* is such a chain, from the root down.
-/

namespace TemplateTrace

/-- One link of a chain of instantiations. -/
structure Frame where
  name : String
  kind : Option Kind := none
  deriving DecidableEq, Repr, Inhabited

/-- The text that shows a frame: its name, and its kind in parentheses if it has one. -/
def Frame.label (frame : Frame) : String :=
  match frame.kind with
  | none => frame.name
  | some kind => frame.name ++ " (" ++ kind.name ++ ")"

/-- The frames from the root down to the current one. -/
structure Backtrace where
  frames : List Frame := []
  deriving DecidableEq, Repr, Inhabited

namespace Backtrace

/-- The backtrace with one more frame, which becomes the current one. -/
def push (trace : Backtrace) (frame : Frame) : Backtrace := ⟨trace.frames ++ [frame]⟩

/-- The number of frames. -/
def size (trace : Backtrace) : Nat := trace.frames.length

/-- The frame with the given number; the root has number 0. -/
def get? (trace : Backtrace) (index : Nat) : Option Frame := trace.frames[index]?

/-- The innermost frame. -/
def current? (trace : Backtrace) : Option Frame := trace.frames.getLast?

@[simp] theorem frames_push (trace : Backtrace) (frame : Frame) :
    (trace.push frame).frames = trace.frames ++ [frame] := rfl

theorem current?_push (trace : Backtrace) (frame : Frame) :
    (trace.push frame).current? = some frame := by
  simp [current?]

end Backtrace

end TemplateTrace
