import PolicyLookup.Path

set_option autoImplicit false

namespace PolicyLookup.Path

def isSolid (part : Bytes) : Bool := !(part.isEmpty || part == Name.here)

def way (p : Path) : List Bytes := p.parts.filter isSolid

def lead (p : Path) : Option Step :=
  if p.isAbsolute then some .root
  else if p.parts.head? = some Name.here then some .here
  else none

def stepOf (part : Bytes) : Step := if part = Name.up then .up else .name part

theorem idle_iff (part : Bytes) : isSolid part = false ↔ part = [] ∨ part = Name.here := by
  simp [isSolid, Decidable.or_iff_not_imp_left]

theorem inner_step (part : Bytes) : innerStep? part = if isSolid part then some (stepOf part) else none := by
  rw [innerStep?]
  cases solid : isSolid part with
  | false =>
      rw [if_pos ((idle_iff part).mp solid)]
      rfl
  | true =>
      have goes : ¬ (part = [] ∨ part = Name.here) := by
        rw [← idle_iff, solid]
        exact Bool.noConfusion
      rw [if_neg goes, stepOf]
      split <;> rfl

theorem inner_steps (parts : List Bytes) : parts.filterMap innerStep? = (parts.filter isSolid).map stepOf := by
  induction parts with
  | nil => rfl
  | cons part parts ih =>
      cases solid : isSolid part with
      | true =>
          have step : innerStep? part = some (stepOf part) := by rw [inner_step, solid, if_pos rfl]
          rw [List.filterMap_cons_some step, List.filter_cons_of_pos solid, List.map_cons, ih]
      | false =>
          have notSolid : ¬ isSolid part = true := by simp [solid]
          have step : innerStep? part = none := by rw [inner_step, if_neg notSolid]
          rw [List.filterMap_cons_none step, List.filter_cons_of_neg notSolid, ih]

theorem steps_eq (p : Path) : p.steps = p.lead.toList ++ p.way.map stepOf := by
  rw [steps, lead, way]
  by_cases absolute : p.isAbsolute = true
  · rw [if_pos absolute, if_pos absolute, inner_steps]
    rfl
  · rw [if_neg absolute, if_neg absolute]
    cases parts : p.parts with
    | nil => rfl
    | cons first rest =>
        by_cases dot : first = Name.here
        · subst dot
          have idle : ¬ isSolid Name.here = true := by decide
          simp only [firstStep?, if_true, List.head?_cons, List.filter_cons_of_neg idle, inner_steps]
        · have head : ¬ (first :: rest).head? = some Name.here := by simpa using dot
          simp only [firstStep?, if_neg dot, if_neg head, ← inner_steps, List.filterMap_cons]
          cases innerStep? first <;> rfl

theorem step_inj {a b : Bytes} (same : stepOf a = stepOf b) : a = b := by
  rw [stepOf, stepOf] at same
  by_cases up : a = Name.up
  · by_cases upToo : b = Name.up
    · rw [up, upToo]
    · rw [if_pos up, if_neg upToo] at same
      contradiction
  · by_cases upToo : b = Name.up
    · rw [if_neg up, if_pos upToo] at same
      contradiction
    · rw [if_neg up, if_neg upToo] at same
      exact Step.name.inj same

theorem lead_cases (p : Path) : p.lead = none ∨ p.lead = some .root ∨ p.lead = some .here := by
  rw [lead]
  split
  · exact Or.inr (Or.inl rfl)
  · split
    · exact Or.inr (Or.inr rfl)
    · exact Or.inl rfl

def Step.isLead (s : Step) : Bool := s == .root || s == .here

theorem step_is_no_lead (part : Bytes) : (stepOf part).isLead = false := by
  rw [stepOf]
  split <;> rfl

-- The start can be told from the steps: no step of the way is the root or a dot.
theorem lead_of_steps (p : Path) : p.steps.head?.filter Step.isLead = p.lead := by
  rw [steps_eq]
  rcases p.lead_cases with start | start | start
  · rw [start, Option.toList_none, List.nil_append]
    cases p.way with
    | nil => rfl
    | cons part rest => simp [step_is_no_lead]
  · rw [start]
    rfl
  · rw [start]
    rfl

theorem same_iff (p q : Path) : p.same q = true ↔ p.lead = q.lead ∧ p.way = q.way := by
  rw [same, beq_iff_eq]
  constructor
  · intro steps
    have lead : p.lead = q.lead := by rw [← lead_of_steps, ← lead_of_steps, steps]
    rw [steps_eq, steps_eq, lead] at steps
    exact ⟨lead, (List.map_inj_right fun _ _ => step_inj).mp (List.append_cancel_left steps)⟩
  · rintro ⟨lead, way⟩
    rw [steps_eq, steps_eq, lead, way]

theorem same_congr {p q : Path} (alike : p.same q = true) (other : Path) : p.same other = q.same other := by
  rw [same, beq_iff_eq] at alike
  rw [same, same, alike]

theorem absolute_of_same {p q : Path} (same : p.same q = true) : p.isAbsolute = q.isAbsolute := by
  have absolute_iff (r : Path) : r.isAbsolute = true ↔ r.lead = some .root := by
    rw [lead]
    by_cases absolute : r.isAbsolute = true
    · simp [absolute]
    · rw [if_neg absolute]
      split <;> simp [absolute]
  rw [Bool.eq_iff_iff, absolute_iff, absolute_iff, ((same_iff p q).mp same).1]

end PolicyLookup.Path
