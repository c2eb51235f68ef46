import Uplift.Error
import Uplift.Fault

set_option autoImplicit false

/-! # Requirements

A requirement is a named check with requirements below it that count only if the check passes. A
required check that fails ends the test. When an optional check fails, the user is asked whether to
go on; if so, what is below it is left out. Testing yields the outcome together with the inquiries
that were made, in order; the answer to a question may depend on the inquiries before it. -/

namespace Uplift

/-- What a check consults. -/
inductive Source where
  /-- Only the versions at hand. -/
  | versions
  /-- Whether git is there. -/
  | gitInstalled
  /-- Whether the project is in a git repository. -/
  | gitRepository
  /-- Whether the git working tree has changes. -/
  | gitStatus
  /-- Something that the caller brings along. -/
  | custom
  deriving DecidableEq, Repr

/-- A step of testing requirements. -/
inductive Inquiry where
  /-- A check was made. -/
  | check (name : String) (source : Source)
  /-- A question was put to the user. -/
  | ask (question : String)
  deriving DecidableEq, Repr

/-- How questions are answered, given the inquiries before. -/
abbrev Confirm := List Inquiry → String → Except Fault Bool

/-- The same answer to every question, whatever came before, as when no user is there. -/
def answerAlways {σ : Type} (answer : Bool) : σ → String → Except Fault Bool :=
  fun _ _ => .ok answer

/-- A named check of a context, and what counts only if it passes. -/
inductive Requirement (γ : Type) where
  | node (name : String) (required : Bool) (source : Source) (check : γ → Except Fault Unit)
      (children : List (Requirement γ))

namespace Requirement

variable {γ : Type}

/-- The name of a requirement. -/
def name : Requirement γ → String
  | .node name _ _ _ _ => name

/-- The question after an optional check has failed. -/
def question (name : String) (fault : Fault) : String :=
  name ++ ": " ++ fault.line ++ ". Continue anyway?"

/-- The error after a question was declined. -/
def declined (name : String) (fault : Fault) : Error :=
  .requirementFailed name (fault.line ++ " (declined)")

/-- The error after a question could not be put. -/
def unanswered (name : String) (fault prompt : Fault) : Error :=
  .requirementFailed name (fault.line ++ "; confirmation failed: " ++ prompt.line)

mutual

/-- Test a requirement after the inquiries `seen`. -/
def test (ctx : γ) (confirm : Confirm) : Requirement γ → List Inquiry →
    Except Error Unit × List Inquiry
  | .node name required source check children, seen =>
    let seen := seen ++ [.check name source]
    match check ctx with
    | .ok () => testAll ctx confirm children seen
    | .error fault =>
      if required then (.error (.requirementFailed name fault.line), seen)
      else
        let asked := seen ++ [.ask (question name fault)]
        match confirm seen (question name fault) with
        | .ok true => (.ok (), asked)
        | .ok false => (.error (declined name fault), asked)
        | .error prompt => (.error (unanswered name fault prompt), asked)

/-- Test requirements one after the other; the first that fails ends the test. -/
def testAll (ctx : γ) (confirm : Confirm) : List (Requirement γ) → List Inquiry →
    Except Error Unit × List Inquiry
  | [], seen => (.ok (), seen)
  | r :: rs, seen =>
    match test ctx confirm r seen with
    | (.ok (), seen) => testAll ctx confirm rs seen
    | (.error e, seen) => (.error e, seen)

end

end Requirement

end Uplift
