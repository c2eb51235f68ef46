import Uplift.Proofs.Requirement

set_option autoImplicit false

/-! # More consent never fails a test

A failed optional check is a question, and consent leaves out what is below the check. So it is not
clear at once that more consent does no harm: a test goes on to other requirements then. But a test
that succeeds has got consent to every question that it put. A milder way to answer gives the same
answers to these, so it leads through the same checks and questions (`MetAll.mono`). -/

namespace Uplift.Requirement

variable {γ : Type} {ctx : γ}

/-! ## Two ways to answer -/

/-- Whatever `stern` accepts, `mild` accepts as well. -/
def AcceptsAtLeast (mild stern : Confirm) : Prop :=
  ∀ seen question, stern seen question = .ok true → mild seen question = .ok true

/-- Consent to everything is the mildest way to answer. -/
theorem always_acceptsAtLeast (confirm : Confirm) : AcceptsAtLeast (answerAlways true) confirm :=
  fun _ _ _ => rfl

/-- Consent to nothing is the sternest way to answer. -/
theorem acceptsAtLeast_never (confirm : Confirm) : AcceptsAtLeast confirm (answerAlways false) := by
  intro seen question h
  cases h

mutual

theorem Met.mono {mild stern : Confirm} (h : AcceptsAtLeast mild stern) :
    ∀ {r : Requirement γ} {seen after : List Inquiry},
      Met ctx stern r seen after → Met ctx mild r seen after
  | _, _, _, .passed hcheck hbelow => .passed hcheck (MetAll.mono h hbelow)
  | _, _, _, .accepted hcheck hyes => .accepted hcheck (h _ _ hyes)

theorem MetAll.mono {mild stern : Confirm} (h : AcceptsAtLeast mild stern) :
    ∀ {rs : List (Requirement γ)} {seen after : List Inquiry},
      MetAll ctx stern rs seen after → MetAll ctx mild rs seen after
  | _, _, _, .nil => .nil
  | _, _, _, .cons hhead hrest => .cons (Met.mono h hhead) (MetAll.mono h hrest)

end

/-- A test that succeeds is the same test with a milder way to answer. -/
theorem testAll_mono {mild stern : Confirm} (h : AcceptsAtLeast mild stern)
    {rs : List (Requirement γ)} {seen : List Inquiry}
    (hok : (testAll ctx stern rs seen).1 = .ok ()) :
    testAll ctx mild rs seen = testAll ctx stern rs seen := by
  have hstern : testAll ctx stern rs seen = (.ok (), (testAll ctx stern rs seen).2) :=
    Prod.ext hok rfl
  rw [hstern]
  exact testAll_eq_ok_iff.2 (MetAll.mono h (testAll_eq_ok_iff.1 hstern))

/-! ## No consent at all -/

/-- Inquiries without a question. -/
def Unasked (inquiries : List Inquiry) : Prop := ∀ question, .ask question ∉ inquiries

mutual

theorem Met.unasked : ∀ {r : Requirement γ} {seen after : List Inquiry},
    Met ctx (answerAlways false) r seen after → ∃ checks, after = seen ++ checks ∧ Unasked checks
  | _, _, _, .passed hcheck hbelow => by
    obtain ⟨checks, rfl, hnone⟩ := MetAll.unasked hbelow
    refine ⟨_, List.append_assoc .., fun question => ?_⟩
    simpa using hnone question
  | _, _, _, .accepted hcheck hyes => by cases hyes

/-- What is met without consent is met by checks alone. -/
theorem MetAll.unasked : ∀ {rs : List (Requirement γ)} {seen after : List Inquiry},
    MetAll ctx (answerAlways false) rs seen after → ∃ checks, after = seen ++ checks ∧ Unasked checks
  | _, _, _, .nil => ⟨[], (List.append_nil _).symm, fun _ => List.not_mem_nil⟩
  | _, _, _, .cons hhead hrest => by
    obtain ⟨first, rfl, hfirst⟩ := Met.unasked hhead
    obtain ⟨others, rfl, hothers⟩ := MetAll.unasked hrest
    refine ⟨first ++ others, List.append_assoc .., fun question => ?_⟩
    simp [hfirst question, hothers question]

end

/-- **Testing is monotone in the answers.** If a test succeeds, then with any milder way to answer the
    same checks are made, the same questions are put, and it succeeds. So a test that succeeds without
    consent succeeds whatever the answers are, and puts no question; and a test that fails in spite of
    consent to everything fails whatever the answers are. Answers may depend on the question alone or
    also on what came before it. -/
theorem testAll_monotone (ctx : γ) (rs : List (Requirement γ)) (seen : List Inquiry) :
    (∀ mild stern : Confirm, AcceptsAtLeast mild stern → (testAll ctx stern rs seen).1 = .ok () →
      testAll ctx mild rs seen = testAll ctx stern rs seen) ∧
    ((testAll ctx (answerAlways false) rs seen).1 = .ok () → ∀ confirm : Confirm,
      (testAll ctx confirm rs seen).1 = .ok () ∧
        ∃ checks, (testAll ctx confirm rs seen).2 = seen ++ checks ∧ Unasked checks) ∧
    (∀ e, (testAll ctx (answerAlways true) rs seen).1 = .error e → ∀ confirm : Confirm,
      ∃ e', (testAll ctx confirm rs seen).1 = .error e') := by
  refine ⟨fun mild stern h hok => testAll_mono h hok, fun hok confirm => ?_, fun e he confirm => ?_⟩
  · have hmet : MetAll ctx (answerAlways false) rs seen
        (testAll ctx (answerAlways false) rs seen).2 := testAll_eq_ok_iff.1 (Prod.ext hok rfl)
    rw [testAll_mono (acceptsAtLeast_never confirm) hok]
    exact ⟨hok, hmet.unasked⟩
  · cases hresult : (testAll ctx confirm rs seen).1 with
    | error e' => exact ⟨e', rfl⟩
    | ok u =>
      -- then consent to everything would have succeeded as well
      rw [testAll_mono (always_acceptsAtLeast confirm) hresult, hresult] at he
      cases he

/-- A check of an unfinished working tree, with a requirement below it that cannot be met, and one more
    requirement after it. -/
def unfinished : List (Requirement Unit) := [
  .node "clean" false .gitStatus (fun _ => .error ⟨"changes", []⟩)
    [.node "pushed" true .custom (fun _ => .error ⟨"no remote", []⟩) []],
  .node "newer" true .versions (fun _ => .ok ()) []]

/-- Consent to one question suffices here, and consent to everything leads to the same inquiries.
    Without the first requirement no question is put. What is below it fails by itself, whatever the
    answers are. -/
theorem testAll_monotone_unfinished :
    let question := "clean: changes. Continue anyway?"
    let stern : Confirm := fun _ q => .ok (q == question)
    let asked : List Inquiry := [.check "clean" .gitStatus, .ask question, .check "newer" .versions]
    let below : List (Requirement Unit) :=
      [.node "pushed" true .custom (fun _ => .error ⟨"no remote", []⟩) []]
    (testAll () stern unfinished []).1 = .ok () ∧
    testAll () (answerAlways true) unfinished [] = (.ok (), asked) ∧
    (∀ confirm : Confirm, (testAll () confirm unfinished.tail []).1 = .ok ()) ∧
    (∀ confirm : Confirm, ∃ e, (testAll () confirm below []).1 = .error e) := by
  intro question stern asked below
  have hstern : testAll () stern unfinished [] = (.ok (), asked) := rfl
  have hok : (testAll () stern unfinished []).1 = .ok () := by rw [hstern]
  refine ⟨hok, ?_, ?_, ?_⟩
  · rw [← hstern]
    exact (testAll_monotone () unfinished []).1 _ stern (always_acceptsAtLeast stern) hok
  · intro confirm
    exact ((testAll_monotone () unfinished.tail []).2.1 rfl confirm).1
  · exact (testAll_monotone () below []).2.2 _ rfl

end Uplift.Requirement
