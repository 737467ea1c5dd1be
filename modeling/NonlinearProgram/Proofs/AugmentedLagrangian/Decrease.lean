import NonlinearProgram.Proofs.Arith.Exact
import NonlinearProgram.Proofs.AugmentedLagrangian.Finiteness
import NonlinearProgram.Proofs.AugmentedLagrangian.Steps

/-!
# Steps that decrease the merit

In exact arithmetic an accepted step never increases the merit. A move against the gradient that is
projected into the box does not go up in any coordinate, because the point that is left is in the
box and the length of the move is positive; so the slope that enters the test of the merit is not
positive. The values of that test are those of the new point, since the callback gives the same
values when it is asked again for the derivatives.
-/

namespace NonlinearProgram

/-- The values that count as defined are those of a function of the point, whatever else is wanted
and however often they are asked for. Nothing is said of requests that want no values, such as the
notification at the end of a solve. -/
def Callback.Computes {R τ : Type} {n nf neg : Nat} (callback : Callback R τ n nf neg)
    (F : Vector R n → Vector R nf) : Prop :=
  ∀ request f g state, 0 < request.valuesWanted →
    -1 < (callback request f g state).1.status →
      (callback request f g state).1.f = F request.x

namespace AugmentedLagrangian

/-! ## Callbacks that compute a function -/

section Computes

variable {R : Type} [Arith R] {τ : Type} {n nf neg : Nat}
variable {callback : Callback R τ n nf neg} {F : Vector R n → Vector R nf}
variable {program : Program R n nf neg} {before after : Evaluator R τ nf neg} {x : Vector R n}

theorem call_of_computes (computes : callback.Computes F) {needDerivatives : Bool}
    (defined : (before.call callback x needDerivatives).1 = .defined ()) :
    let after := (before.call callback x needDerivatives).2
    after.f = F x ∧ allFinite after.f ∧ (needDerivatives → allFinite after.g) := by
  obtain ⟨replied, finite⟩ := verdict_eq_defined_iff.1 defined
  exact ⟨computes _ _ _ _ Int.zero_lt_one replied, finite⟩

theorem values_of_computes (computes : callback.Computes F) {f : Vector R nf}
    (called : before.values callback program x = (.defined f, after)) :
    f = assembleValues program.linear x (F x) := by
  rw [Evaluator.values_eq] at called
  rcases defined : (before.call callback x false).1 with ⟨⟩ | _ | _
  · simp only [defined, Evaluated.map, Prod.mk.injEq, Evaluated.defined.injEq] at called
    rw [← called.1, (call_of_computes computes defined).1]
  · simp [defined, Evaluated.map] at called
  · simp [defined, Evaluated.map] at called

theorem point_of_computes (computes : callback.Computes F) {point : Point R n nf}
    (called : before.point callback program x = (.defined point, after)) :
    point.x = x ∧ point.f = assembleValues program.linear x (F x) ∧ allFinite (F x) ∧
      ∃ g, point.jacobian = assembleJacobian program g ∧ allFinite g := by
  rw [Evaluator.point_eq] at called
  rcases defined : (before.call callback x true).1 with ⟨⟩ | _ | _
  · simp only [defined, Evaluated.map, Prod.mk.injEq, Evaluated.defined.injEq] at called
    obtain ⟨same, finite, finite'⟩ := call_of_computes computes defined
    rw [← called.1, same]
    exact ⟨rfl, rfl, same ▸ finite, _, rfl, finite' rfl⟩
  · simp [defined, Evaluated.map] at called
  · simp [defined, Evaluated.map] at called

end Computes

/-! ## Exact inner problems -/

variable {K : Type} [Field K] [LinearOrder K] {τ : Type} {n nf neg : Nat}

/-- The data of an inner problem are numbers, and every constraint is met by some number. -/
structure InnerProblem.IsExact (inner : InnerProblem (Exact K) τ n nf neg) : Prop where
  lambda : ∀ row, Arith.isFinite (inner.multipliers.lambda.get row)
  penalty : ∃ value, value ≠ 0 ∧ inner.multipliers.penalty = .number value
  linear : ∀ term ∈ inner.program.linear, Arith.isFinite term.2.2
  rows : ∀ row ≠ inner.program.objective, ∃ value,
    Exact.Within (inner.program.fLower.get row) (inner.program.fUpper.get row) value

/-- The coordinates are numbers, and the point is in the box. -/
def Program.Holds (program : Program (Exact K) n nf neg) (x : Vector (Exact K) n) : Prop :=
  ∀ j, ∃ value, x.get j = .number value ∧
    Exact.Within (program.xLower.get j) (program.xUpper.get j) value

/-- A point in the box with numbers as function values and derivatives. -/
structure Point.IsExact (program : Program (Exact K) n nf neg) (point : Point (Exact K) n nf) :
    Prop where
  x : program.Holds point.x
  f : ∀ row, Arith.isFinite (point.f.get row)
  jacobian : ∀ j row, Arith.isFinite ((point.jacobian.get j).get row)

section Merit

variable {inner : InnerProblem (Exact K) τ n nf neg} (data : inner.IsExact)

include data

theorem isFinite_penalty : Arith.isFinite inner.multipliers.penalty := by
  obtain ⟨value, _, isValue⟩ := data.penalty
  exact Exact.isFinite_iff.2 ⟨value, isValue⟩

theorem isFinite_residual {f : Vector (Exact K) nf} {row : Fin nf}
    (constraint : row ≠ inner.program.objective) (finite : Arith.isFinite (f.get row)) :
    Arith.isFinite (residual inner.program inner.multipliers f row) := by
  obtain ⟨value, isValue⟩ := Exact.isFinite_iff.1 finite
  obtain ⟨multiplier, isMultiplier⟩ := Exact.isFinite_iff.1 (data.lambda row)
  obtain ⟨penalty, nonzero, isPenalty⟩ := data.penalty
  obtain ⟨inside, within⟩ := data.rows row constraint
  rw [residual, isValue, isMultiplier, isPenalty, Exact.number_div _ nonzero, Exact.number_sub]
  obtain ⟨nearest, clamped, _⟩ := Exact.clamp_number within (value - multiplier / penalty)
  rw [clamped]
  exact Exact.isFinite_number _

theorem isFinite_merit {f : Vector (Exact K) nf} (finite : ∀ row, Arith.isFinite (f.get row)) :
    Arith.isFinite (merit inner.program inner.multipliers f) := by
  apply List.foldlRecOn (motive := fun sum => Arith.isFinite sum = true) inner.program.rows _
    (finite inner.program.objective)
  intro sum known row member
  have constraint : row ≠ inner.program.objective := of_decide_eq_true (List.mem_filter.1 member).2
  have residual := isFinite_residual data constraint (finite row)
  have linear := Exact.isFinite_mul (data.lambda row) residual
  have half : Arith.isFinite (0.5 * inner.multipliers.penalty) :=
    Exact.isFinite_mul rfl (isFinite_penalty data)
  have square := Exact.isFinite_mul (Exact.isFinite_mul half residual) residual
  exact Exact.isFinite_add (Exact.isFinite_sub known linear) square

theorem isFinite_gradientOfMerit {point : Point (Exact K) n nf}
    (known : point.IsExact inner.program) (j : Fin n) :
    Arith.isFinite ((gradientOfMerit inner.program inner.multipliers point).get j) := by
  simp only [gradientOfMerit, combineRows, Vector.get_eq_getElem, Vector.getElem_map]
  apply Exact.isAdditive_isFinite.dot_of_products
  intro row
  apply Exact.isFinite_mul (known.jacobian j row)
  simp only [Vector.get_eq_getElem, Vector.getElem_ofFn]
  split
  case isTrue => rfl
  case isFalse constraint =>
    have residual := isFinite_residual data constraint (known.f row)
    have weighted := Exact.isFinite_mul (isFinite_penalty data) residual
    exact Exact.isFinite_add (Exact.isFinite_neg (data.lambda row)) weighted

end Merit

/-! ## Projected moves -/

section Moves

variable {program : Program (Exact K) n nf neg} {x gradient : Vector (Exact K) n} {length : Exact K}

/-- A projected move leads to a point of the box. -/
theorem holds_trialPoint (inside : program.Holds x)
    (finite : ∀ j, Arith.isFinite (gradient.get j)) (number : Arith.isFinite length) :
    program.Holds (trialPoint program x gradient length) := by
  intro j
  obtain ⟨value, isValue, within⟩ := inside j
  obtain ⟨slope, isSlope⟩ := Exact.isFinite_iff.1 (finite j)
  obtain ⟨move, rfl⟩ := Exact.isFinite_iff.1 number
  obtain ⟨nearest, clamped, kept, _⟩ := Exact.clamp_number within (value - slope * move)
  refine ⟨nearest, ?_, kept⟩
  rw [← clamped, ← Exact.number_sub, ← Exact.number_mul, ← isValue, ← isSlope]
  simp [trialPoint, project]

variable [IsStrictOrderedRing K]

/-- A projected move against a gradient does not go up. -/
theorem slope_trialPoint_nonpos (inside : program.Holds x)
    (finite : ∀ j, Arith.isFinite (gradient.get j)) (positive : length.IsPositive) :
    ∃ slope ≤ 0,
      dot gradient (difference (trialPoint program x gradient length) x) = .number slope := by
  apply Exact.isAdditive_nonpos.dot_of_products
  intro j
  obtain ⟨value, isValue, within⟩ := inside j
  obtain ⟨slope, isSlope⟩ := Exact.isFinite_iff.1 (finite j)
  obtain ⟨move, positive, rfl⟩ := positive
  have nonpos := Exact.slope_of_move_nonpos within slope positive
  rw [← isValue, ← isSlope] at nonpos
  simpa [trialPoint, project, difference] using nonpos

end Moves

/-! ## Lengths of moves -/

section Lengths

theorem isFinite_largest {values : Vector (Exact K) n}
    (finite : ∀ j, Arith.isFinite (values.get j)) : Arith.isFinite (largest values) := by
  have abs (j : Fin n) : Arith.isFinite (Arith.abs (values.get j)) := by
    obtain ⟨value, isValue⟩ := Exact.isFinite_iff.1 (finite j)
    rw [isValue]
    rfl
  exact largest_of_abs (fun value => Arith.isFinite value) rfl abs

theorem isFinite_dot {left right : Vector (Exact K) n} (finite : ∀ j, Arith.isFinite (left.get j))
    (finite' : ∀ j, Arith.isFinite (right.get j)) : Arith.isFinite (dot left right) :=
  Exact.isAdditive_isFinite.dot_of_products fun j => Exact.isFinite_mul (finite j) (finite' j)

theorem isFinite_difference {left right : Vector (Exact K) n}
    (finite : ∀ j, Arith.isFinite (left.get j)) (finite' : ∀ j, Arith.isFinite (right.get j))
    (j : Fin n) : Arith.isFinite ((difference left right).get j) := by
  have entry := Exact.isFinite_sub (finite j) (finite' j)
  simpa [difference] using entry

variable [IsStrictOrderedRing K]

theorem isPositive_halve {length : Exact K} (positive : length.IsPositive) :
    (halve length).IsPositive :=
  positive.mul (Exact.isPositive_ofScientific (by decide) _ _)

theorem isPositive_halves {length : Exact K} (positive : length.IsPositive) (k : Nat) :
    (halve^[k] length).IsPositive := by
  induction k with
  | zero => exact positive
  | succ k ih =>
      rw [Function.iterate_succ_apply']
      exact isPositive_halve ih

theorem isPositive_nextLength {moved changed : Vector (Exact K) n} {length : Exact K}
    (finite : ∀ j, Arith.isFinite (moved.get j)) (finite' : ∀ j, Arith.isFinite (changed.get j))
    (positive : length.IsPositive) : (nextLength moved changed length).IsPositive := by
  have least : (minStep : Exact K).IsPositive := Exact.isPositive_ofScientific (by decide) _ _
  have most : (maxStep : Exact K).IsPositive := Exact.isPositive_ofScientific (by decide) _ _
  rw [nextLength]
  split
  case isTrue curved =>
    obtain ⟨square, isSquare⟩ := Exact.isFinite_iff.1 (isFinite_dot finite finite)
    obtain ⟨curvature, isCurvature⟩ := Exact.isFinite_iff.1 (isFinite_dot finite finite')
    rw [isCurvature] at curved
    rw [isSquare, isCurvature, Exact.number_div _ (Exact.number_lt.1 curved).ne']
    exact Exact.isPositive_clamp (Exact.isFinite_number _) least most
  case isFalse =>
    have two : (2.0 : Exact K).IsPositive := Exact.isPositive_ofScientific (by decide) _ _
    exact Exact.isPositive_minimum (two.mul positive) most

end Lengths

/-! ## Steps -/

/-- Where an inner solve stands in exact arithmetic: in the box, and with a move of positive length
to try. -/
structure Descent.IsExact (inner : InnerProblem (Exact K) τ n nf neg)
    (descent : Descent (Exact K) τ n nf neg) : Prop where
  point : descent.point.IsExact inner.program
  gradient : ∀ j, Arith.isFinite (descent.gradient.get j)
  length : descent.length.IsPositive

/-- Slope of the merit along the move of a given length. -/
def Descent.slope (inner : InnerProblem (Exact K) τ n nf neg)
    (descent : Descent (Exact K) τ n nf neg) (length : Exact K) : Exact K :=
  dot descent.gradient
    (difference (trialPoint inner.program descent.point.x descent.gradient length) descent.point.x)

theorem isFinite_of_holds {program : Program (Exact K) n nf neg} {x : Vector (Exact K) n}
    (inside : program.Holds x) (j : Fin n) : Arith.isFinite (x.get j) := by
  obtain ⟨value, isValue, _⟩ := inside j
  exact Exact.isFinite_iff.2 ⟨value, isValue⟩

section Steps

variable {inner : InnerProblem (Exact K) τ n nf neg} (data : inner.IsExact)
variable {F : Vector (Exact K) n → Vector (Exact K) nf} (computes : inner.callback.Computes F)

include data computes in
/-- A point of the box at which the callback is defined has numbers only. -/
theorem isExact_of_point {before after : Evaluator (Exact K) τ nf neg} {x : Vector (Exact K) n}
    {point : Point (Exact K) n nf} (inside : inner.program.Holds x)
    (called : before.point inner.callback inner.program x = (.defined point, after)) :
    point.IsExact inner.program := by
  obtain ⟨same, values, finite, g, derivatives, finite'⟩ := point_of_computes computes called
  constructor
  case x => exact same ▸ inside
  case f =>
    intro row
    rw [values, get_assembleValues]
    apply List.foldlRecOn (motive := fun sum => Arith.isFinite sum = true) _ _
      (isFinite_get_of_allFinite finite row)
    intro sum known term member
    have coefficient := data.linear term (List.mem_filter.1 member).1
    exact Exact.isFinite_add known (Exact.isFinite_mul coefficient (isFinite_of_holds inside _))
  case jacobian =>
    intro j row
    rw [derivatives, get_assembleJacobian_eq_sum]
    apply List.foldlRecOn (motive := fun sum => Arith.isFinite sum = true) _ _ rfl
    intro sum known amount member
    exact Exact.isFinite_add known (isFinite_of_mem_amountsAt finite' data.linear member)

variable [IsStrictOrderedRing K]

include data in
theorem isExact_start {point : Point (Exact K) n nf} (known : point.IsExact inner.program)
    (remaining : Nat) (evaluator : Evaluator (Exact K) τ nf neg) :
    (inner.start remaining point evaluator).IsExact inner where
  point := known
  gradient := isFinite_gradientOfMerit data known
  length := Exact.isPositive_one.div (Exact.isPositive_maximum
    (isFinite_largest (isFinite_gradientOfMerit data known)) Exact.isPositive_one)

variable {standing next : Descent (Exact K) τ n nf neg} (known : standing.IsExact inner)

include data computes known

/-- A step leads to where a move of one of the lengths tried does, and decreases the merit by a
part of the slope. -/
theorem Step.decreases (step : Step inner standing next) :
    next.IsExact inner ∧ ∃ k < maxTries,
      next.point.x = trialPoint inner.program standing.point.x standing.gradient
        (halve^[k] standing.length) ∧
      next.point.f = assembleValues inner.program.linear next.point.x (F next.point.x) ∧
      next.merit inner ≤ standing.merit inner +
        sufficientDecrease * standing.slope inner (halve^[k] standing.length) := by
  cases step with
  | accepted goesOn some found =>
      obtain ⟨⟨k, inside, rfl⟩, accepts⟩ := searchStep_accepted found
      cases accepts with
      | intro values decreases derivatives =>
          have positive := isPositive_halves known.length k
          have trial := holds_trialPoint known.point.x known.gradient positive.isFinite
          have reached := isExact_of_point data computes trial derivatives
          obtain ⟨same, derived, _⟩ := point_of_computes computes derivatives
          have valued := values_of_computes computes values
          have gradient := isFinite_gradientOfMerit data reached
          refine ⟨⟨reached, gradient, ?_⟩, k, inside, same, same ▸ derived, ?_⟩
          · have moved := isFinite_difference (isFinite_of_holds reached.x)
              (isFinite_of_holds known.point.x)
            exact isPositive_nextLength moved (isFinite_difference gradient known.gradient) positive
          · rw [valued, ← derived] at decreases
            exact decreases

end Steps

section Descents

variable [IsStrictOrderedRing K] {inner : InnerProblem (Exact K) τ n nf neg}
variable {F : Vector (Exact K) n → Vector (Exact K) nf}
variable {standing later : Descent (Exact K) τ n nf neg}

/-- The slope of every move tried is not positive. -/
theorem Descent.IsExact.slope_nonpos (known : standing.IsExact inner) {length : Exact K}
    (positive : length.IsPositive) : ∃ slope ≤ 0, standing.slope inner length = .number slope :=
  slope_trialPoint_nonpos known.point.x known.gradient positive

theorem Step.merit_le (data : inner.IsExact) (computes : inner.callback.Computes F)
    (known : standing.IsExact inner) (step : Step inner standing later) :
    later.merit inner ≤ standing.merit inner := by
  obtain ⟨reached, k, _, _, _, decreases⟩ := step.decreases data computes known
  obtain ⟨slope, nonpos, isSlope⟩ := known.slope_nonpos (isPositive_halves known.length k)
  obtain ⟨before, isBefore⟩ := Exact.isFinite_iff.1 (isFinite_merit data known.point.f)
  obtain ⟨after, isAfter⟩ := Exact.isFinite_iff.1 (isFinite_merit data reached.point.f)
  obtain ⟨part, positive, isPart⟩ :
      (sufficientDecrease : Exact K).IsPositive := Exact.isPositive_ofScientific (by decide) _ _
  have isBefore : standing.merit inner = _ := isBefore
  have isAfter : later.merit inner = _ := isAfter
  rw [isSlope, isBefore, isAfter, isPart, Exact.number_mul, Exact.number_add,
    Exact.number_le] at decreases
  rw [isBefore, isAfter, Exact.number_le]
  have down : part * slope ≤ 0 := mul_nonpos_of_nonneg_of_nonpos positive.le nonpos
  exact decreases.trans (add_le_of_nonpos_right down)

theorem steps_merit_le (data : inner.IsExact) (computes : inner.callback.Computes F)
    (known : standing.IsExact inner) (steps : Steps inner standing later) :
    later.IsExact inner ∧ later.merit inner ≤ standing.merit inner := by
  -- The next step decreases the merit because it starts in the box with numbers only.
  induction steps with
  | refl =>
      obtain ⟨value, isValue⟩ := Exact.isFinite_iff.1 (isFinite_merit data known.point.f)
      have isValue : standing.merit inner = _ := isValue
      rw [isValue]
      exact ⟨known, Exact.number_le.2 (le_refl value)⟩
  | tail _ step ih =>
      obtain ⟨between, decreased⟩ := ih
      exact ⟨(step.decreases data computes between).1,
        LawfulOrder.le_trans (step.merit_le data computes between) decreased⟩

/-- An inner solve from a point of the box is a sequence of steps. Wherever it stands, the moves it
tries have a positive length and a slope that is not positive; a step decreases the merit by at
least a part of the slope; and so the merit never increases from one point to a later one. -/
theorem solve_decreases (data : inner.IsExact) (computes : inner.callback.Computes F)
    {point : Point (Exact K) n nf} (known : point.IsExact inner.program) (remaining : Nat)
    (evaluator : Evaluator (Exact K) τ nf neg) :
    let start := inner.start remaining point evaluator
    (∃ last, Steps inner start last ∧
      last.point = (inner.solve remaining point evaluator).1.point) ∧
    ∀ standing, Steps inner start standing →
      (∀ k, (halve^[k] standing.length).IsPositive) ∧
      (∀ length, length.IsPositive → standing.slope inner length ≤ 0) ∧
      (∀ next, Step inner standing next → ∃ k < maxTries,
        next.point.x = trialPoint inner.program standing.point.x standing.gradient
          (halve^[k] standing.length) ∧
        next.point.f = assembleValues inner.program.linear next.point.x (F next.point.x) ∧
        next.merit inner ≤ standing.merit inner +
          sufficientDecrease * standing.slope inner (halve^[k] standing.length)) ∧
      ∀ later, Steps inner standing later → later.merit inner ≤ standing.merit inner := by
  intro start
  obtain ⟨last, steps, reached, _⟩ := solve_steps inner remaining point evaluator
  refine ⟨⟨last, steps, reached⟩, fun standing steps => ?_⟩
  have here := (steps_merit_le data computes (isExact_start data known remaining evaluator) steps).1
  refine ⟨isPositive_halves here.length, fun length positive => ?_,
    fun next step => (step.decreases data computes here).2,
    fun later steps => (steps_merit_le data computes here steps).2⟩
  obtain ⟨slope, nonpos, isSlope⟩ := here.slope_nonpos positive
  rw [isSlope]
  exact Exact.number_le.2 nonpos

end Descents

/-! ## A small inner solve -/

/-- Minimization of the square of a variable that is at least one, with the optimal multiplier. -/
def squareProblem : InnerProblem (Exact ℚ) Unit 1 2 1 where
  program :=
    { objective := ⟨0, Nat.zero_lt_two⟩
      entries := #v[(⟨0, Nat.zero_lt_two⟩, ⟨0, Nat.zero_lt_one⟩)]
      linear := [(⟨1, Nat.one_lt_two⟩, ⟨0, Nat.zero_lt_one⟩, 1)]
      xLower := #v[.infinite true]
      xUpper := #v[.number 4]
      fLower := #v[.infinite true, 1]
      fUpper := #v[.infinite false, .infinite false]
      start := #v[.number 2]
      values := #v[0, 0]
      multipliers? := none }
  callback request _ _ :=
    let x := request.x[0]
    pure ⟨0, #v[x * x, 0], #v[x + x]⟩
  multipliers := ⟨#v[0, .number 2], .number 8⟩
  unboundedObjective := .infinite false
  tolerance := 0

/-- The point two, where the square is four. -/
def squarePoint : Point (Exact ℚ) 1 2 :=
  ⟨#v[.number 2], #v[.number 4, .number 2], #v[#v[.number 4, 1]]⟩

/-- One step leads from two to the bound of the constraint. -/
theorem solve_decreases_square :
    let start := squareProblem.start 10 squarePoint (.fresh ())
    let result := (squareProblem.solve 10 squarePoint (.fresh ())).1
    result.exit = .converged ∧ result.point.x = #v[.number 1] ∧
      ∃ last, Steps squareProblem start last ∧ last.point = result.point ∧
        last.merit squareProblem ≤ start.merit squareProblem := by
  intro start result
  have data : squareProblem.IsExact := by
    constructor
    case lambda => decide
    case penalty => exact ⟨8, by norm_num, rfl⟩
    case linear => decide
    case rows =>
      intro row constraint
      fin_cases row
      · exact (constraint rfl).elim
      · exact ⟨1, by decide⟩
  have computes : squareProblem.callback.Computes fun x => #v[x[0] * x[0], 0] := by
    intro request f g state _ _
    rfl
  have known : squarePoint.IsExact squareProblem.program := by
    constructor
    case x =>
      intro j
      fin_cases j
      exact ⟨2, rfl, by decide⟩
    case f => decide
    case jacobian => decide
  obtain ⟨⟨last, steps, reached⟩, decreases⟩ := solve_decreases data computes known 10 (.fresh ())
  exact ⟨by decide +kernel, by decide +kernel, last, steps, reached,
    (decreases start .refl).2.2.2 last steps⟩

end AugmentedLagrangian

end NonlinearProgram
