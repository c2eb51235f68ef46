import Uplift.Text.Split

set_option autoImplicit false

/-! # Faults

A fault is what an outside party (registry, package manager, engine, prompt) reports when it
fails: a message, and the messages of its causes, outermost first. -/

namespace Uplift

/-- A failure with its causes, outermost first. -/
structure Fault where
  message : String
  causes : List String := []
  deriving DecidableEq, Repr, Inhabited

namespace Fault

/-- The message and all causes, outermost first. -/
def messages (f : Fault) : List String := f.message :: f.causes

/-- The fault on one line, with its causes. -/
def line (f : Fault) : String := Text.joined ": " f.messages

/-- Put a fault in context: the old message becomes the first cause. -/
def within (f : Fault) (context : String) : Fault := ⟨context, f.messages⟩

/-- The fault with these messages, outermost first. -/
def ofMessages : List String → Fault
  | [] => ⟨"", []⟩
  | m :: ms => ⟨m, ms⟩

end Fault

end Uplift
