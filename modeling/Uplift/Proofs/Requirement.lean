import Uplift.Requirement

set_option autoImplicit false

/-! # When requirements are met

A requirement that is reached is *met* in one of two ways: its check passes and everything below it is
met in turn, or it is optional, its check fails, and the user is asked and goes on. `Met` and `MetAll`
say this as rules, together with the inquiries that are made on the way; `testAll_eq_ok_iff` says that
a test succeeds exactly when its requirements are met. -/

namespace Uplift.Requirement

variable {γ : Type} {ctx : γ} {confirm : Confirm}

mutual

/-- A requirement is met, and testing it leads from one list of inquiries to another. -/
inductive Met (ctx : γ) (confirm : Confirm) : Requirement γ → List Inquiry → List Inquiry → Prop
  /-- The check passes, and so does what is below. -/
  | passed {name : String} {required : Bool} {source : Source} {check : γ → Except Fault Unit}
      {children : List (Requirement γ)} {seen after : List Inquiry}
      (hcheck : check ctx = .ok ())
      (hbelow : MetAll ctx confirm children (seen ++ [.check name source]) after) :
      Met ctx confirm (.node name required source check children) seen after
  /-- The check of an optional requirement fails, and the user goes on. -/
  | accepted {name : String} {source : Source} {check : γ → Except Fault Unit}
      {children : List (Requirement γ)} {seen : List Inquiry} {fault : Fault}
      (hcheck : check ctx = .error fault)
      (hyes : confirm (seen ++ [.check name source]) (question name fault) = .ok true) :
      Met ctx confirm (.node name false source check children) seen
        (seen ++ [.check name source] ++ [.ask (question name fault)])

/-- Requirements are met one after the other. -/
inductive MetAll (ctx : γ) (confirm : Confirm) :
    List (Requirement γ) → List Inquiry → List Inquiry → Prop
  | nil {seen : List Inquiry} : MetAll ctx confirm [] seen seen
  | cons {r : Requirement γ} {rs : List (Requirement γ)} {seen mid after : List Inquiry}
      (hhead : Met ctx confirm r seen mid) (hrest : MetAll ctx confirm rs mid after) :
      MetAll ctx confirm (r :: rs) seen after

end

mutual

theorem met_of_test : ∀ (r : Requirement γ) (seen after : List Inquiry),
    test ctx confirm r seen = (.ok (), after) → Met ctx confirm r seen after
  | .node name required source check children, seen, after, h => by
    rw [test] at h
    split at h
    · rename_i hcheck
      exact .passed hcheck (metAll_of_testAll children _ _ h)
    · rename_i fault hcheck
      cases required with
      | true => simp at h
      | false =>
        simp only [Bool.false_eq_true, ↓reduceIte] at h
        split at h
        · rename_i hyes
          obtain ⟨-, rfl⟩ := Prod.mk.inj h
          exact .accepted hcheck hyes
        · simp at h
        · simp at h

theorem metAll_of_testAll : ∀ (rs : List (Requirement γ)) (seen after : List Inquiry),
    testAll ctx confirm rs seen = (.ok (), after) → MetAll ctx confirm rs seen after
  | [], seen, after, h => by
    obtain ⟨-, rfl⟩ := Prod.mk.inj h
    exact .nil
  | r :: rs, seen, after, h => by
    rw [testAll] at h
    split at h
    · rename_i mid hhead
      exact .cons (met_of_test r seen mid hhead) (metAll_of_testAll rs mid after h)
    · simp at h

end

mutual

theorem test_of_met : ∀ {r : Requirement γ} {seen after : List Inquiry},
    Met ctx confirm r seen after → test ctx confirm r seen = (.ok (), after)
  | _, _, _, .passed hcheck hbelow => by
    simp only [test, hcheck]
    exact testAll_of_metAll hbelow
  | _, _, _, .accepted hcheck hyes => by
    simp [test, hcheck, hyes]

theorem testAll_of_metAll : ∀ {rs : List (Requirement γ)} {seen after : List Inquiry},
    MetAll ctx confirm rs seen after → testAll ctx confirm rs seen = (.ok (), after)
  | _, _, _, .nil => rfl
  | _, _, _, .cons hhead hrest => by
    simp only [testAll, test_of_met hhead]
    exact testAll_of_metAll hrest

end

/-- **A test succeeds exactly when its requirements are met**, with the same inquiries. -/
theorem testAll_eq_ok_iff {rs : List (Requirement γ)} {seen after : List Inquiry} :
    testAll ctx confirm rs seen = (.ok (), after) ↔ MetAll ctx confirm rs seen after :=
  ⟨metAll_of_testAll rs seen after, testAll_of_metAll⟩

end Uplift.Requirement
