import MediaIntake.Json.Scalar
/-! # Graph states

The graph that an endpoint belongs to goes from stopped to running and back, and is in
transition while it pauses or prepares.  An endpoint never changes this state; whoever calls
it says what the state is.
-/
namespace MediaIntake

inductive GraphState where
  /-- No samples flow and the configuration may change. -/
  | stopped
  | transitioning
  /-- Samples flow. -/
  | running
  deriving DecidableEq, Repr, Inhabited

namespace GraphState

/-- All states, in order. -/
def all : List GraphState := [.stopped, .transitioning, .running]

def text : GraphState → String
  | .stopped => "stopped"
  | .transitioning => "transitioning"
  | .running => "running"

/-- The configuration changes only while the graph is stopped. -/
def allowsReconfiguration (s : GraphState) : Bool := s = .stopped

/-- Samples are taken in every state but stopped. -/
def acceptsSamples (s : GraphState) : Bool := s ≠ .stopped

/-- How states are stored: by name. -/
def write (s : GraphState) : String := "\"" ++ s.text ++ "\""

/-- The state that a stored text names. -/
def read (text : String) : Except Json.Error GraphState :=
  Json.readAll (Json.readChoice (all.map fun s => (s.text, s))) text

end GraphState
end MediaIntake
