/-! # Rules tried in order

A value can be held to a list of rules of which the first that fails is reported.  What comes of
that is settled by the order of the rules, by when each of them fails, and by what it reports then
(`SettledBy`), whatever else is wrong with the value.  It is shown rule by rule, the way the value
is looked at: a rule that fails ends it (`SettledBy.stop`), and a rule that holds leaves it to the
rules that follow (`SettledBy.pass`).
-/
namespace MediaIntake

variable {ρ ε α : Type}

/-- A result that rules settle, tried in order. -/
structure SettledBy (rules : List ρ) (fails : ρ → Bool) (report : ρ → Option ε)
    (result : Except ε α) : Prop where
  ok_iff : (∃ a, result = .ok a) ↔ ∀ rule ∈ rules, fails rule = false
  /-- An error is what the first rule that fails reports. -/
  error_iff : ∀ error, result = .error error ↔
    ∃ rule, rules.find? fails = some rule ∧ report rule = some error

namespace SettledBy
variable {rules : List ρ} {fails : ρ → Bool} {report : ρ → Option ε} {result : Except ε α}
  {rule : ρ}

/-- No rule is left. -/
theorem nil (a : α) : SettledBy [] fails report (.ok a) where
  ok_iff := iff_of_true ⟨a, rfl⟩ (List.forall_mem_nil _)
  error_iff error := by simp

/-- A rule that fails is reported, and those after it do not matter. -/
theorem stop {error : ε} (hrule : fails rule = true) (hreport : report rule = some error) :
    SettledBy (rule :: rules) fails report (.error error : Except ε α) where
  ok_iff := by
    refine iff_of_false nofun ?_
    intro h
    rw [h rule List.mem_cons_self] at hrule
    cases hrule
  error_iff error' := by
    rw [List.find?_cons_of_pos hrule]
    constructor
    · rintro h
      cases h
      exact ⟨rule, rfl, hreport⟩
    · rintro ⟨rule', hrule', hreport'⟩
      cases hrule'
      rw [hreport] at hreport'
      cases hreport'
      rfl

/-- A rule that holds leaves the result to those after it. -/
theorem pass (hrule : fails rule = false) (h : SettledBy rules fails report result) :
    SettledBy (rule :: rules) fails report result where
  ok_iff := by rw [h.ok_iff, List.forall_mem_cons, and_iff_right hrule]
  error_iff error := by
    rw [h.error_iff, List.find?_cons_of_neg (ne_true_of_eq_false hrule)]

/-- A look at one rule before the others. -/
theorem ite {p : Prop} [Decidable p] {error : ε} (hp : fails rule = true ↔ p)
    (hreport : report rule = some error) (h : ¬ p → SettledBy rules fails report result) :
    SettledBy (rule :: rules) fails report (if p then .error error else result) := by
  by_cases hfails : p
  · rw [if_pos hfails]
    exact .stop (hp.mpr hfails) hreport
  · rw [if_neg hfails]
    exact .pass (Bool.eq_false_iff.mpr fun hf => hfails (hp.mp hf)) (h hfails)

/-- Where a result is described by no more than one value, the rules settle it in full. -/
theorem eq_ok_iff (h : SettledBy rules fails report result) {accepts : Prop}
    {describes : α → Prop} (haccepts : (∀ rule ∈ rules, fails rule = false) ↔ accepts)
    (hdescribes : ∀ a, result = .ok a → describes a)
    (hunique : ∀ a b, describes a → describes b → a = b) (a : α) :
    result = .ok a ↔ accepts ∧ describes a := by
  constructor
  · intro ha
    exact ⟨haccepts.mp (h.ok_iff.mp ⟨a, ha⟩), hdescribes a ha⟩
  · rintro ⟨haccept, hdescribe⟩
    obtain ⟨b, hb⟩ := h.ok_iff.mpr (haccepts.mpr haccept)
    rw [hb, hunique a b hdescribe (hdescribes b hb)]

/-- What is said of errors by the rules that report them is said of the first rule that fails. -/
theorem exists_error_iff (h : SettledBy rules fails report result) {p : ε → Prop} {q : ρ → Prop}
    (hpq : ∀ rule error, report rule = some error → (p error ↔ q rule)) :
    (∃ error, result = .error error ∧ p error) ↔
      ∃ rule, rules.find? fails = some rule ∧ q rule := by
  constructor
  · rintro ⟨error, herror, hp⟩
    obtain ⟨rule, hrule, hreport⟩ := (h.error_iff error).mp herror
    exact ⟨rule, hrule, (hpq rule error hreport).mp hp⟩
  · rintro ⟨rule, hrule, hq⟩
    -- a rule that fails keeps the result from being a value
    cases hresult : result with
    | ok a =>
      have hholds := h.ok_iff.mp ⟨a, hresult⟩ rule (List.mem_of_find?_eq_some hrule)
      rw [List.find?_some hrule] at hholds
      cases hholds
    | error error =>
      obtain ⟨rule', hrule', hreport⟩ := (h.error_iff error).mp hresult
      obtain rfl : rule = rule' := Option.some.inj (hrule.symm.trans hrule')
      exact ⟨error, rfl, (hpq rule error hreport).mpr hq⟩

end SettledBy
end MediaIntake
