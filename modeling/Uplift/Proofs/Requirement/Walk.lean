import Uplift.Requirement

set_option autoImplicit false

/-! # In which order requirements are tested

Without regard to answers, a test goes through the requirements depth first, each before what is below
it, and leaves out what is below a check that fails: this is the preorder of the pruned forest (`walk`).
Testing the forest is testing the requirements of this list one by one, as if nothing were below them
(`testAll_walk`). So a test is an affair of a list. It makes the inquiries of the requirements in the
list, up to the first where it is cut (`testAll_along_walk`). -/

namespace Uplift.Requirement

variable {γ : Type} {ctx : γ} {confirm : Confirm}

/-! ## The walk -/

mutual

/-- A requirement and those below it, each before what is below it and with nothing below it. -/
def preorder : Requirement γ → List (Requirement γ)
  | .node name required source check children =>
    .node name required source check [] :: preorderAll children

/-- The requirements of a forest, one tree after the other. -/
def preorderAll : List (Requirement γ) → List (Requirement γ)
  | [] => []
  | r :: rs => preorder r ++ preorderAll rs

end

mutual

/-- A requirement without what is below failed checks. -/
def prune (ctx : γ) : Requirement γ → Requirement γ
  | .node name required source check children =>
    match check ctx with
    | .ok () => .node name required source check (pruneAll ctx children)
    | .error _ => .node name required source check []

/-- A forest without what is below failed checks. -/
def pruneAll (ctx : γ) : List (Requirement γ) → List (Requirement γ)
  | [] => []
  | r :: rs => prune ctx r :: pruneAll ctx rs

end

/-- The requirements that a test comes to if it is never cut, in order. -/
def walk (ctx : γ) (rs : List (Requirement γ)) : List (Requirement γ) := preorderAll (pruneAll ctx rs)

theorem testAll_append (rs more : List (Requirement γ)) (seen : List Inquiry) :
    testAll ctx confirm (rs ++ more) seen = match testAll ctx confirm rs seen with
      | (.ok (), seen) => testAll ctx confirm more seen
      | (.error e, seen) => (.error e, seen) := by
  induction rs generalizing seen with
  | nil => rfl
  | cons r rs ih =>
    rw [List.cons_append, testAll, testAll]
    rcases test ctx confirm r seen with ⟨e | ⟨⟩, seen⟩
    · rfl
    · exact ih seen

theorem testAll_singleton (r : Requirement γ) (seen : List Inquiry) :
    testAll ctx confirm [r] seen = test ctx confirm r seen := by
  rw [testAll]
  rcases test ctx confirm r seen with ⟨e | ⟨⟩, seen⟩ <;> rfl

mutual

theorem testAll_preorder_prune : ∀ (r : Requirement γ) (seen : List Inquiry),
    testAll ctx confirm (preorder (prune ctx r)) seen = test ctx confirm r seen
  | .node name required source check children, seen => by
    rw [prune]
    cases hcheck : check ctx with
    | ok u =>
      simp only [preorder, testAll, test, hcheck]
      exact testAll_walk children _
    | error fault =>
      -- nothing is below a failed check, and what was below it is not looked at
      simp only [preorder, preorderAll, testAll_singleton, test, hcheck]

/-- Testing a forest is testing the requirements of its walk one by one. -/
theorem testAll_walk : ∀ (rs : List (Requirement γ)) (seen : List Inquiry),
    testAll ctx confirm (walk ctx rs) seen = testAll ctx confirm rs seen
  | [], seen => rfl
  | r :: rs, seen => by
    rw [walk, pruneAll, preorderAll, testAll_append, testAll_preorder_prune r seen, testAll]
    rcases test ctx confirm r seen with ⟨e | ⟨⟩, seen⟩
    · rfl
    · exact testAll_walk rs seen

end

/-! ## One requirement of the walk -/

/-- The inquiries that a requirement gives rise to by itself: its check, and one question if it is
    optional and its check fails. -/
def inquiries (ctx : γ) : Requirement γ → List Inquiry
  | .node name required source check _ =>
    match check ctx, required with
    | .error fault, false => [.check name source, .ask (question name fault)]
    | _, _ => [.check name source]

/-- A test that comes to a requirement after the inquiries `seen` is cut there, for the reason that is
    given. -/
inductive Cut (ctx : γ) (confirm : Confirm) (seen : List Inquiry) : Requirement γ → String → Prop
  /-- A required check fails. -/
  | required {name : String} {source : Source} {check : γ → Except Fault Unit}
      {children : List (Requirement γ)} {fault : Fault} (hcheck : check ctx = .error fault) :
      Cut ctx confirm seen (.node name true source check children) fault.line
  /-- An optional check fails, and the user does not go on. -/
  | declined {name : String} {source : Source} {check : γ → Except Fault Unit}
      {children : List (Requirement γ)} {fault : Fault} (hcheck : check ctx = .error fault)
      (hno : confirm (seen ++ [.check name source]) (question name fault) = .ok false) :
      Cut ctx confirm seen (.node name false source check children) (fault.line ++ " (declined)")
  /-- An optional check fails, and the user cannot be asked. -/
  | unanswered {name : String} {source : Source} {check : γ → Except Fault Unit}
      {children : List (Requirement γ)} {fault prompt : Fault} (hcheck : check ctx = .error fault)
      (hfail : confirm (seen ++ [.check name source]) (question name fault) = .error prompt) :
      Cut ctx confirm seen (.node name false source check children)
        (fault.line ++ "; confirmation failed: " ++ prompt.line)

theorem Cut.failed {name : String} {required : Bool} {source : Source} {check : γ → Except Fault Unit}
    {children : List (Requirement γ)} {seen : List Inquiry} {message : String}
    (h : Cut ctx confirm seen (.node name required source check children) message) :
    ∃ fault, check ctx = .error fault ∧ (required = false →
      confirm (seen ++ [.check name source]) (question name fault) ≠ .ok true) := by
  cases h with
  | required hcheck => exact ⟨_, hcheck, fun h => by cases h⟩
  | declined hcheck hno => exact ⟨_, hcheck, fun _ hyes => by simp [hno] at hyes⟩
  | unanswered hcheck hfail => exact ⟨_, hcheck, fun _ hyes => by simp [hfail] at hyes⟩

/-- How the test of a single requirement ends: it goes on after the inquiries of the requirement, or it
    is cut right after them. -/
inductive Ends (ctx : γ) (confirm : Confirm) (seen : List Inquiry) (r : Requirement γ) :
    Except Error Unit × List Inquiry → Prop
  | onward (hgo : ∀ message, ¬ Cut ctx confirm seen r message) :
      Ends ctx confirm seen r (.ok (), seen ++ inquiries ctx r)
  | cut {message : String} (hcut : Cut ctx confirm seen r message) :
      Ends ctx confirm seen r (.error (.requirementFailed r.name message), seen ++ inquiries ctx r)

theorem test_leaf (ctx : γ) (confirm : Confirm) (name : String) (required : Bool) (source : Source)
    (check : γ → Except Fault Unit) (seen : List Inquiry) :
    Ends ctx confirm seen (.node name required source check [])
      (test ctx confirm (.node name required source check []) seen) := by
  cases hcheck : check ctx with
  | ok u =>
    have hgo : ∀ message, ¬ Cut ctx confirm seen (.node name required source check []) message := by
      intro message hcut
      obtain ⟨fault, hfault, -⟩ := hcut.failed
      simp [hcheck] at hfault
    simpa [test, testAll, inquiries, hcheck] using Ends.onward hgo
  | error fault =>
    cases required with
    | true =>
      simpa [test, inquiries, hcheck, Requirement.name] using Ends.cut (.required hcheck)
    | false =>
      cases hanswer : confirm (seen ++ [.check name source]) (question name fault) with
      | error prompt =>
        simpa [test, inquiries, hcheck, hanswer, unanswered, Requirement.name] using
          Ends.cut (.unanswered hcheck hanswer)
      | ok yes =>
        cases yes with
        | false =>
          simpa [test, inquiries, hcheck, hanswer, declined, Requirement.name] using
            Ends.cut (.declined hcheck hanswer)
        | true =>
          have hgo : ∀ message, ¬ Cut ctx confirm seen (.node name false source check []) message := by
            intro message hcut
            obtain ⟨fault', hfault, hstop⟩ := hcut.failed
            obtain rfl : fault = fault' := by simpa [hcheck] using hfault
            exact hstop rfl hanswer
          simpa [test, inquiries, hcheck, hanswer] using Ends.onward hgo

/-! ## The whole walk -/

mutual

theorem eq_leaf_of_mem_preorder : ∀ {r leaf : Requirement γ}, leaf ∈ preorder r →
    ∃ name required source check, leaf = .node name required source check []
  | .node name required source check children, leaf, h => by
    rw [preorder, List.mem_cons] at h
    rcases h with rfl | h
    · exact ⟨name, required, source, check, rfl⟩
    · exact eq_leaf_of_mem_preorderAll h

theorem eq_leaf_of_mem_preorderAll : ∀ {rs : List (Requirement γ)} {leaf : Requirement γ},
    leaf ∈ preorderAll rs → ∃ name required source check, leaf = .node name required source check []
  | [], leaf, h => by cases h
  | r :: rs, leaf, h => by
    rw [preorderAll, List.mem_append] at h
    exact h.elim eq_leaf_of_mem_preorder eq_leaf_of_mem_preorderAll

end

/-- A test that goes through these requirements after the inquiries `seen` is cut at none of them. -/
def Uncut (ctx : γ) (confirm : Confirm) : List Inquiry → List (Requirement γ) → Prop
  | _, [] => True
  | seen, r :: rs =>
    (∀ message, ¬ Cut ctx confirm seen r message) ∧ Uncut ctx confirm (seen ++ inquiries ctx r) rs

/-- How a test that goes through a list ends: after the inquiries of all its requirements, or right
    after those of the first requirement where it is cut. -/
inductive EndsAlong (ctx : γ) (confirm : Confirm) (seen : List Inquiry) (rs : List (Requirement γ)) :
    Except Error Unit × List Inquiry → Prop
  | through (hgo : Uncut ctx confirm seen rs) :
      EndsAlong ctx confirm seen rs (.ok (), seen ++ rs.flatMap (inquiries ctx))
  | cut {front back : List (Requirement γ)} {r : Requirement γ} {message : String}
      (hsplit : rs = front ++ r :: back) (hgo : Uncut ctx confirm seen front)
      (hcut : Cut ctx confirm (seen ++ front.flatMap (inquiries ctx)) r message) :
      EndsAlong ctx confirm seen rs
        (.error (.requirementFailed r.name message), seen ++ (front ++ [r]).flatMap (inquiries ctx))

/-- One more requirement in front, where the test goes on. -/
theorem EndsAlong.cons {r : Requirement γ} {rs : List (Requirement γ)} {seen : List Inquiry}
    {result : Except Error Unit × List Inquiry} (hgo : ∀ message, ¬ Cut ctx confirm seen r message)
    (h : EndsAlong ctx confirm (seen ++ inquiries ctx r) rs result) :
    EndsAlong ctx confirm seen (r :: rs) result := by
  cases h with
  | through hrest =>
    have hall : Uncut ctx confirm seen (r :: rs) := ⟨hgo, hrest⟩
    simpa using EndsAlong.through hall
  | @cut front back last message hsplit hfront hcut =>
    have hall : Uncut ctx confirm seen (r :: front) := ⟨hgo, hfront⟩
    have hlast : Cut ctx confirm (seen ++ (r :: front).flatMap (inquiries ctx)) last message := by
      simpa using hcut
    have hrs : r :: rs = (r :: front) ++ last :: back := by rw [hsplit]; rfl
    simpa using EndsAlong.cut hrs hall hlast

/-- Requirements with nothing below them are tested along their list. -/
theorem testAll_leaves (ctx : γ) (confirm : Confirm) {rs : List (Requirement γ)}
    (h : ∀ r ∈ rs, ∃ name required source check, r = .node name required source check [])
    (seen : List Inquiry) : EndsAlong ctx confirm seen rs (testAll ctx confirm rs seen) := by
  induction rs generalizing seen with
  | nil =>
    have hnil : Uncut ctx confirm seen [] := trivial
    simpa [testAll] using EndsAlong.through hnil
  | cons r rs ih =>
    obtain ⟨name, required, source, check, rfl⟩ := h r List.mem_cons_self
    have hleaf := test_leaf ctx confirm name required source check seen
    rw [testAll]
    rcases htest : test ctx confirm (.node name required source check []) seen with ⟨e | ⟨⟩, after⟩ <;>
      rw [htest] at hleaf
    · cases hleaf with
      | @cut message hcut =>
        have hhere : Cut ctx confirm (seen ++ ([] : List (Requirement γ)).flatMap (inquiries ctx))
            (.node name required source check []) message := by simpa using hcut
        have hcons : Requirement.node name required source check [] :: rs
            = [] ++ .node name required source check [] :: rs := rfl
        simpa using EndsAlong.cut hcons trivial hhere
    · cases hleaf with
      | onward hgo => exact (ih (fun r hr => h r (List.mem_cons_of_mem _ hr)) _).cons hgo

theorem not_cut_of_uncut {front back : List (Requirement γ)} {r : Requirement γ} {seen : List Inquiry}
    (h : Uncut ctx confirm seen (front ++ r :: back)) (message : String) :
    ¬ Cut ctx confirm (seen ++ front.flatMap (inquiries ctx)) r message := by
  induction front generalizing seen with
  | nil => simpa using h.1 message
  | cons first front ih => simpa using ih h.2

/-- Only a failed optional check leads to a question. -/
theorem eq_question_of_mem_inquiries {r : Requirement γ} {q : String}
    (h : .ask q ∈ inquiries ctx r) : ∃ name source check children fault,
      r = .node name false source check children ∧ check ctx = .error fault ∧
        q = question name fault := by
  obtain ⟨name, required, source, check, children⟩ := r
  cases hcheck : check ctx with
  | ok u => simp [inquiries, hcheck] at h
  | error fault =>
    cases required with
    | true => simp [inquiries, hcheck] at h
    | false =>
      have hq : q = question name fault := by simpa [inquiries, hcheck] using h
      exact ⟨name, source, check, children, fault, rfl, hcheck, hq⟩

/-- **A test follows the preorder of the pruned forest, up to the first cut.** It succeeds exactly if
    there is no cut, and has then made the inquiries of all requirements on the way: their checks, and a
    question after each optional check that fails. Otherwise it fails with the name of the requirement
    where it is first cut, and the inquiries of that one are the last. Only optional requirements whose
    checks have failed are asked about. -/
theorem testAll_along_walk (ctx : γ) (confirm : Confirm) (rs : List (Requirement γ))
    (seen : List Inquiry) :
    ((testAll ctx confirm rs seen).1 = .ok () ↔ Uncut ctx confirm seen (walk ctx rs)) ∧
    ((testAll ctx confirm rs seen).1 = .ok () →
      (testAll ctx confirm rs seen).2 = seen ++ (walk ctx rs).flatMap (inquiries ctx)) ∧
    (∀ e, (testAll ctx confirm rs seen).1 = .error e → ∃ front r back message,
      walk ctx rs = front ++ r :: back ∧ Uncut ctx confirm seen front ∧
      Cut ctx confirm (seen ++ front.flatMap (inquiries ctx)) r message ∧
      e = .requirementFailed r.name message ∧
      (testAll ctx confirm rs seen).2 = seen ++ (front ++ [r]).flatMap (inquiries ctx)) ∧
    (∀ r ∈ walk ctx rs, ∀ q, .ask q ∈ inquiries ctx r → ∃ name source check children fault,
      r = .node name false source check children ∧ check ctx = .error fault ∧
        q = question name fault) := by
  have hends : EndsAlong ctx confirm seen (walk ctx rs) (testAll ctx confirm (walk ctx rs) seen) :=
    testAll_leaves ctx confirm (fun r hr => eq_leaf_of_mem_preorderAll hr) seen
  rw [testAll_walk] at hends
  generalize testAll ctx confirm rs seen = result at hends ⊢
  refine ⟨?_, ?_, ?_, fun r _ q hq => eq_question_of_mem_inquiries hq⟩
  · cases hends with
    | through hgo => simpa using hgo
    | @cut front back r message hsplit hgo hcut =>
      simp only [reduceCtorEq, false_iff]
      intro hall
      rw [hsplit] at hall
      exact not_cut_of_uncut hall message hcut
  · intro hok
    cases hends with
    | through hgo => rfl
    | cut hsplit hgo hcut => cases hok
  · intro e he
    cases hends with
    | through hgo => cases he
    | @cut front back r message hsplit hgo hcut =>
      exact ⟨front, r, back, message, hsplit, hgo, hcut, (Except.error.inj he).symm, rfl⟩

end Uplift.Requirement
