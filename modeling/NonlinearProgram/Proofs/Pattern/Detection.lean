import NonlinearProgram.Proofs.Backend.Preparation
import NonlinearProgram.Proofs.Differentiation.Divisors
import NonlinearProgram.Proofs.Differentiation.Quotients
import NonlinearProgram.Proofs.Pattern.Positions

/-!
# What a detection finds

A detection adds up magnitudes over its probes and keeps the entries whose sum is not zero. A sum of
magnitudes is zero only if every term is, so these are the entries of which a difference quotient is
not zero at some probe. Of a problem that computes a function, the quotients are those of the
function: then the order of the probes does not matter, and a variable that a constraint ignores has
no entry there, provided that it is finite at every probe. The divisor of a difference at an
infinite value is not a number, and neither is the quotient.
-/

namespace NonlinearProgram

variable {R σ : Type} {nx ng : Nat}

/-! ## Probes -/

namespace Probes

/-- The probes in another order. -/
def permute (probes : Probes R) (order : Equiv.Perm (Fin 3)) : Probes R :=
  .ofFn fun index => probes.get (order index)

theorem get_permute (probes : Probes R) (order : Equiv.Perm (Fin 3)) (index : Fin 3) :
    (probes.permute order).get index = probes.get (order index) := by
  simp [permute]

theorem perm_toList (probes : Probes R) (order : Equiv.Perm (Fin 3)) :
    (probes.permute order).toList.Perm probes.toList := by
  have listed : probes.toList = List.ofFn probes.get := by
    obtain ⟨first, second, third, rfl⟩ := probes.exists_eq
    simp [List.ofFn_succ]
  rw [listed, permute, Vector.toList_ofFn]
  exact Equiv.Perm.ofFn_comp_perm order probes.get

theorem perm_ofSize {probes : Probes R} (sizes : ∀ index : Fin 3, (probes.get index).size = nx)
    (order : Equiv.Perm (Fin 3))
    (sizes' : ∀ index : Fin 3, ((probes.permute order).get index).size = nx) :
    ((probes.permute order).ofSize sizes').Perm (probes.ofSize sizes) := by
  have same : (probes.permute order).ofSize sizes' =
      List.ofFn ((fun index => ⟨probes.get index, sizes index⟩ : Fin 3 → Vector R nx) ∘ order) := by
    refine congrArg List.ofFn (funext fun index => ?_)
    rw [Function.comp_apply, Vector.mk.injEq]
    exact get_permute probes order index
  rw [same]
  exact Equiv.Perm.ofFn_comp_perm order _

variable [Arith R]

theorem sizes_of_check {probes : Probes R} {points : List (Vector R (probes.get 0).size)}
    (passed : probes.check = .ok points) (index : Fin 3) :
    (probes.get index).size = (probes.get 0).size := by
  obtain ⟨first, second, third, rfl⟩ := probes.exists_eq
  rw [check] at passed
  obtain ⟨listed, fit, _⟩ := bind_eq_ok.1 passed
  have secondSize : second.size = first.size := by
    by_contra different
    simp [Probes.points, different, bind, Except.bind] at fit
  have thirdSize : third.size = first.size := by
    by_contra different
    simp [Probes.points, secondSize, different, bind, Except.bind] at fit
  fin_cases index
  exacts [rfl, secondSize, thirdSize]

theorem beq_comm_list {T : Type} [BEq T] [PartialEquivBEq T] (left right : List T) :
    (left == right) = (right == left) := by
  induction left generalizing right with
  | nil => cases right <;> rfl
  | cons first rest ih =>
      cases right with
      | nil => rfl
      | cons first' rest' =>
          rw [List.cons_beq_cons, List.cons_beq_cons, ih rest', BEq.comm (a := first)]

/-- Whether probes are distinct does not depend on their order. -/
theorem areDistinct_permute [PartialEquivBEq R] {probes : Probes R} (order : Equiv.Perm (Fin 3)) :
    (probes.permute order).AreDistinct ↔ probes.AreDistinct := by
  refine (probes.perm_toList order).pairwise_iff ?_
  intro left right different
  rwa [← Array.beq_toList, beq_comm_list, Array.beq_toList]

end Probes

/-! ## Jacobians -/

variable [Arith R] [Precision R]

namespace Sampling

variable {problem : Problem R σ} {scheme : Scheme}

/-- Difference Jacobians at some points, one after the other on the same buffers. -/
def jacobians (problem : Problem R σ) (scheme : Scheme) :
    List (Vector R nx) → Sampling R σ nx ng nx (List (Vector (Vector R (ng + 1)) nx))
  | [] => return []
  | point :: rest => do
      differenceJacobian problem scheme point
      let jacobian := (← get).jacobian
      return jacobian :: (← jacobians problem scheme rest)

/-- A sum of magnitudes is that of the entries of the Jacobians. -/
theorem addMagnitudes_ok {points : List (Vector R nx)} {total sums : Vector (Vector R ng) nx}
    {before after : Scratch R σ nx ng nx}
    (run : (addMagnitudes problem scheme total points).run before = (.ok sums, after)) :
    ∃ found, (jacobians problem scheme points).run before = (.ok found, after) ∧
      ∀ row column, (sums.get column).get row =
        (found.map fun jacobian => (jacobian.get column).get row.succ).foldl
          (fun sum value => sum + Arith.abs value) ((total.get column).get row) := by
  induction points generalizing total before with
  | nil =>
      obtain ⟨rfl, rfl⟩ := run_pure_eq_ok.1 run
      exact ⟨[], rfl, fun _ _ => rfl⟩
  | cons point rest ih =>
      simp only [addMagnitudes, run_bind_eq_ok, run_get_eq_ok] at run
      obtain ⟨_, _, formed, _, between, ⟨rfl, rfl⟩, added⟩ := run
      obtain ⟨found, ran, entries⟩ := ih added
      refine ⟨between.jacobian :: found, ?_, fun row column => ?_⟩
      · simp only [jacobians, run_bind_eq_ok, run_get_eq_ok, run_pure_eq_ok]
        exact ⟨_, between, formed, _, _, ⟨rfl, rfl⟩, found, after, ran, rfl, rfl⟩
      · rw [entries]
        simp [Nat.add_comm 1]

/-- The Jacobians of a problem that computes a function hold the quotients of the function. -/
theorem quotient_of_jacobians {F : RowFunction R nx ng} (computes : problem.Computes F)
    {points : List (Vector R nx)} {found : List (Vector (Vector R (ng + 1)) nx)}
    {before after : Scratch R σ nx ng nx}
    (run : (jacobians problem scheme points).run before = (.ok found, after)) :
    List.Forall₂ (fun point jacobian => ∀ column row,
      F.quotient scheme point column row = .ok ((jacobian.get column).get row)) points found := by
  induction points generalizing before found with
  | nil =>
      obtain ⟨rfl, rfl⟩ := run_pure_eq_ok.1 run
      exact .nil
  | cons point rest ih =>
      simp only [jacobians, run_bind_eq_ok, run_get_eq_ok, run_pure_eq_ok] at run
      obtain ⟨_, _, formed, _, between, ⟨rfl, rfl⟩, later, _, ran, rfl, rfl⟩ := run
      exact .cons (quotient_of_differenceJacobian computes formed).2 (ih ran)

end Sampling

/-! ## Entries -/

/-- A difference quotient of the function is not zero at some of the points. -/
def RowFunction.IsSeen (F : RowFunction R nx ng) (scheme : Scheme) (points : List (Vector R nx))
    (row : Fin ng) (column : Fin nx) : Prop :=
  ∃ point ∈ points, ∃ quotient,
    F.quotient scheme point column row.succ = .ok quotient ∧ (quotient == 0) = false

/-- A row of the function does not depend on a variable. -/
def RowFunction.Ignores (F : RowFunction R nx ng) (row : Fin ng) (column : Fin nx) : Prop :=
  ∀ x value rows rows', F.real x = .ok rows → F.real (x.set column value column.isLt) = .ok rows' →
    rows'.get row.succ = rows.get row.succ

/-- What is seen in the Jacobians is seen of the function. -/
theorem RowFunction.isSeen_iff {F : RowFunction R nx ng} {scheme : Scheme}
    {points : List (Vector R nx)} {found : List (Vector (Vector R (ng + 1)) nx)}
    (quotients : List.Forall₂ (fun point jacobian => ∀ column row,
      F.quotient scheme point column row = .ok ((jacobian.get column).get row)) points found)
    {row : Fin ng} {column : Fin nx} :
    F.IsSeen scheme points row column ↔
      ∃ jacobian ∈ found, ((jacobian.get column).get row.succ == 0) = false := by
  induction quotients with
  | nil => simp [IsSeen]
  | cons quotient _ ih =>
      rw [IsSeen] at ih ⊢
      simp only [List.exists_mem_cons_iff, ih, quotient column row.succ, Except.ok.injEq,
        exists_eq_left']

/-! ## Problems with one constraint -/

omit [Precision R] in
/-- A problem that keeps to some entries computes a function that ignores all other variables. -/
theorem RespectsEntries.ignores {problem : Problem R σ} {pairs : List (Fin ng × Fin nx)}
    (respects : RespectsEntries pairs problem.real) {F : RowFunction R nx ng}
    (computes : problem.Computes F) (state : σ) {row : Fin ng} {column : Fin nx}
    (undeclared : (row, column) ∉ pairs) : F.Ignores row column := by
  intro x value rows rows' known known'
  have sample {x : Vector R nx} {rows : Vector R (ng + 1)} (known : F.real x = .ok rows) :
      IsSample (problem.real x) rows :=
    isSample_of_rows ((computes.real x (.replicate ng 0) state).trans known)
  refine (respects.constraint row ?_ (sample known) (sample known')).symm
  intro other declared
  rw [get_set, if_neg]
  rintro rfl
  exact undeclared declared

/-- A problem with one constraint, which is the first variable. -/
def firstVariable : Problem Double Unit :=
  (Formulas.ofExprs (.constant 0) [.var 0] none).toProblem

theorem exists_computes_firstVariable :
    ∃ F : RowFunction Double 2 1, firstVariable.Computes F ∧ F.Ignores 0 1 := by
  have determined : firstVariable.IsDetermined 2 1 0 :=
    Formulas.isDetermined _ fun _ => by simp [Formulas.ofExprs]
  obtain ⟨F, computes⟩ := determined.exists_computes 0 ()
  let declared : List (Fin 1 × Fin 2) := [(0, 0)]
  have respects : RespectsEntries declared firstVariable.real :=
    Formulas.respectsEntries_ofExprs (by simp) (by simp [declared, Expr.indices])
  exact ⟨F, computes, respects.ignores computes () (by decide)⟩

/-- A constraint that is written only where the first variable is not positive: it tells zero from
what is less. -/
def writtenBelow : Problem Double Unit :=
  Formulas.toProblem {
    objective := fun _ => .ok (Scalar.ofReal 0)
    constraints := fun x _ =>
      match x.toList with
      | [] => []
      | first :: _ =>
          if 0 < Scalar.re first then []
          else [.ok (Scalar.ofReal (if Scalar.re first < 0 then 1 else 0))] }

/-! ## Detected patterns -/

namespace Pattern

variable {problem : Problem Double σ} {probes : Probes Double} {scheme : Scheme} {state state' : σ}
  {pattern : Pattern}

theorem exists_of_coordinates {result : Except SetupError Pattern} {listed : List (Nat × Nat)}
    (shown : result.toOption.map coordinates = some listed) :
    ∃ pattern, result = .ok pattern ∧ pattern.coordinates = listed := by
  cases result with
  | error failure => cases shown
  | ok pattern => exact ⟨pattern, rfl, Option.some.inj shown⟩

theorem mem_of_coordinates {nrows ncols : Nat} {entries : Entries nrows ncols}
    {row : Fin nrows} {column : Fin ncols}
    (member : (row.val + 1, column.val + 1) ∈ (sparse nrows ncols entries).coordinates) :
    (row, column) ∈ entries.pairs := by
  obtain ⟨⟨row', column'⟩, declared, same⟩ := List.mem_map.1 member
  have sameRow : row' = row := Fin.ext (Nat.succ.inj (Prod.mk.inj same).1)
  have sameColumn : column' = column := Fin.ext (Nat.succ.inj (Prod.mk.inj same).2)
  rwa [sameRow, sameColumn] at declared

/-- A detection that succeeds keeps the entries that are not zero in some Jacobian. -/
theorem exists_jacobians_of_detect (sizes : ∀ index : Fin 3, (probes.get index).size = nx)
    (detected : detect problem ng probes scheme state = (.ok pattern, state')) :
    ∃ found after, (Sampling.jacobians problem scheme (probes.ofSize sizes)).run (.fresh state) =
        (.ok found, after) ∧
      ∃ keep : Fin ng → Fin nx → Bool, pattern = .sparse ng nx (.select keep) ∧
        ∀ row column, keep row column = true ↔
          ∃ jacobian ∈ found, ((jacobian.get column).get row.succ == 0) = false := by
  obtain rfl : (probes.get 0).size = nx := sizes 0
  obtain ⟨points, sums, after, passed, added, rfl, -⟩ := detect_eq_ok.1 detected
  obtain ⟨-, rfl⟩ := (Probes.check_eq_ok sizes).1 passed
  obtain ⟨found, ran, sum⟩ := Sampling.addMagnitudes_ok added
  refine ⟨found, after, ran, _, rfl, fun row column => ?_⟩
  have start (size : Nat) (column : Fin size) :
      ((Vector.replicate size (Vector.replicate ng (0 : Double))).get column).get row = 0 := by
    simp
  rw [sum, start, bne, Bool.not_eq_true', ← Bool.not_eq_true, Double.sum_abs_beq_zero]
  simp

/-- A detection from points succeeds if these are distinct and everything can be evaluated. -/
theorem exists_detect_of_sizes (sizes : ∀ index : Fin 3, (probes.get index).size = nx) :
    (∃ pattern state', detect problem ng probes scheme state = (.ok pattern, state')) ↔
      probes.AreDistinct ∧
        problem.Evaluates ng ((probes.ofSize sizes).flatMap scheme.jacobianRequests) state := by
  obtain rfl : (probes.get 0).size = nx := sizes 0
  exact exists_detect_eq_ok sizes

theorem sizes_of_detect (detected : detect problem ng probes scheme state = (.ok pattern, state'))
    (index : Fin 3) : (probes.get index).size = (probes.get 0).size := by
  obtain ⟨points, _, _, passed, _⟩ := detect_eq_ok.1 detected
  exact Probes.sizes_of_check passed index

variable {F : RowFunction Double nx ng}

/-- A detection of a problem that computes a function keeps what is seen of the function. -/
theorem exists_isSeen_of_detect (computes : problem.Computes F)
    (sizes : ∀ index : Fin 3, (probes.get index).size = nx)
    (detected : detect problem ng probes scheme state = (.ok pattern, state')) :
    ∃ keep : Fin ng → Fin nx → Bool, pattern = .sparse ng nx (.select keep) ∧
      ∀ row column, keep row column = true ↔
        F.IsSeen scheme (probes.ofSize sizes) row column := by
  obtain ⟨found, after, ran, keep, rfl, kept⟩ := exists_jacobians_of_detect sizes detected
  refine ⟨keep, rfl, fun row column => ?_⟩
  rw [kept, RowFunction.isSeen_iff (Sampling.quotient_of_jacobians computes ran)]

/-- Probes in another order give the same pattern. -/
theorem detect_permute (computes : problem.Computes F)
    (sizes : ∀ index : Fin 3, (probes.get index).size = nx)
    (detected : detect problem ng probes scheme state = (.ok pattern, state'))
    (order : Equiv.Perm (Fin 3)) (other : σ) :
    (detect problem ng (probes.permute order) scheme other).1 = .ok pattern := by
  have sizes' (index : Fin 3) : ((probes.permute order).get index).size = nx := by
    rw [Probes.get_permute]
    exact sizes (order index)
  have perm := probes.perm_ofSize sizes order sizes'
  obtain ⟨distinct, evaluates⟩ := (exists_detect_of_sizes sizes).1 ⟨_, _, detected⟩
  have again : ∃ pattern' after,
      detect problem ng (probes.permute order) scheme other = (.ok pattern', after) := by
    refine (exists_detect_of_sizes sizes').2
      ⟨(Probes.areDistinct_permute order).2 distinct, ?_⟩
    -- The samples can be taken one by one, whatever was taken before.
    rw [Sampling.evaluates_iff computes] at evaluates ⊢
    intro request member
    exact evaluates request ((perm.flatMap_right _).mem_iff.1 member)
  obtain ⟨pattern', after, detected'⟩ := again
  obtain ⟨keep, rfl, kept⟩ := exists_isSeen_of_detect computes sizes detected
  obtain ⟨keep', rfl, kept'⟩ := exists_isSeen_of_detect computes sizes' detected'
  have same : keep' = keep := by
    funext row column
    rw [Bool.eq_iff_iff, kept, kept']
    simp only [RowFunction.IsSeen, perm.mem_iff]
  rw [detected', same]

/-- The requests at a point are among those of a detection. -/
theorem real_of_evaluates (computes : problem.Computes F) {points : List (Vector Double nx)}
    (evaluates : problem.Evaluates ng (points.flatMap scheme.jacobianRequests) state)
    {point : Vector Double nx} (member : point ∈ points) :
    ∃ rows, F.real point = .ok rows ∧ ∀ row, Arith.isFinite (rows.get row) := by
  rw [Sampling.evaluates_iff computes] at evaluates
  have checked := evaluates (.rows point) (List.mem_flatMap.2 ⟨point, member, List.mem_cons_self⟩)
  rw [RowFunction.check, checkRows] at checked
  obtain ⟨rows, known, finite⟩ := bind_eq_ok.1 checked
  exact ⟨rows, known, Sampling.requireFinite_eq_ok.1 finite⟩

/-- A quotient in a variable that a row ignores is zero. -/
theorem quotient_of_ignores (isReal : scheme ≠ .complexStep) {x : Vector Double nx}
    {row : Fin ng} {column : Fin nx} (ignores : F.Ignores row column)
    {rows : Vector Double (ng + 1)} (known : F.real x = .ok rows)
    (finite : Arith.isFinite (rows.get row.succ)) (finite' : Arith.isFinite (x.get column))
    {quotient : Double}
    (formed : F.quotient scheme x column row.succ = .ok quotient) : (quotient == 0) = true := by
  have settled := Double.sub_self_div_beq_zero isReal finite finite'
  cases scheme with
  | forward =>
      rw [RowFunction.quotient] at formed
      obtain ⟨plus, shifted, formed⟩ := bind_eq_ok.1 formed
      obtain ⟨base, known', formed⟩ := bind_eq_ok.1 formed
      cases known.symm.trans known'
      cases formed
      rwa [ignores _ _ _ _ known shifted]
  | central =>
      rw [RowFunction.quotient] at formed
      obtain ⟨plus, shifted, formed⟩ := bind_eq_ok.1 formed
      obtain ⟨minus, shifted', formed⟩ := bind_eq_ok.1 formed
      cases formed
      rwa [ignores _ _ _ _ known shifted, ignores _ _ _ _ known shifted']
  | complexStep => exact absurd rfl isReal

/-- A variable that a row ignores is not seen there, if it is finite at all points. -/
theorem not_isSeen_of_ignores (isReal : scheme ≠ .complexStep) (computes : problem.Computes F)
    {points : List (Vector Double nx)}
    (evaluates : problem.Evaluates ng (points.flatMap scheme.jacobianRequests) state)
    {row : Fin ng} {column : Fin nx} (ignores : F.Ignores row column)
    (finite : ∀ point ∈ points, Arith.isFinite (point.get column)) :
    ¬F.IsSeen scheme points row column := by
  rintro ⟨point, member, quotient, formed, nonzero⟩
  obtain ⟨rows, known, finiteRows⟩ := real_of_evaluates computes evaluates member
  have zero := quotient_of_ignores isReal ignores known (finiteRows row.succ) (finite point member)
    formed
  rw [zero] at nonzero
  cases nonzero

/-- A detection succeeds if and only if the probes have one size, are pairwise different, and the
problem can be evaluated at every point that their difference Jacobians ask for. Then its pattern
has a row for each constraint and a column for each variable, and stands in column-major order; its
entries are those that are not zero in some of the difference Jacobians at the probes.

If the problem computes a function, these are the entries of which a difference quotient of the
function is not zero at some probe, and the probes in another order give the same pattern. Forward
and central differences find no entry of a variable that the constraint ignores and that is finite
at every probe. -/
theorem detect_finds (problem : Problem Double σ) (ng : Nat) (probes : Probes Double)
    (scheme : Scheme) (state : σ) :
    let nx := (probes.get 0).size
    let result := (detect problem ng probes scheme state).1
    ((∃ pattern, result = .ok pattern) ↔
      ∃ sizes : ∀ index : Fin 3, (probes.get index).size = nx, probes.AreDistinct ∧
        problem.Evaluates ng ((probes.ofSize sizes).flatMap scheme.jacobianRequests) state) ∧
    ∀ pattern, result = .ok pattern →
      ∃ (sizes : ∀ index : Fin 3, (probes.get index).size = nx) (entries : Entries ng nx),
        pattern = .sparse ng nx entries ∧
        (entries.pairs.Pairwise fun left right => Entries.columnMajor left right = .lt) ∧
        (∃ jacobians after,
          (Sampling.jacobians problem scheme (probes.ofSize sizes)).run (.fresh state) =
            (.ok jacobians, after) ∧
          ∀ row column, (row, column) ∈ entries.pairs ↔
            ∃ jacobian ∈ jacobians, ((jacobian.get column).get row.succ == 0) = false) ∧
        ∀ F : RowFunction Double nx ng, problem.Computes F →
          (∀ row column, (row, column) ∈ entries.pairs ↔
            F.IsSeen scheme (probes.ofSize sizes) row column) ∧
          (∀ order other, (detect problem ng (probes.permute order) scheme other).1 = .ok pattern) ∧
          (scheme ≠ .complexStep → ∀ row column, F.Ignores row column →
            (∀ point ∈ probes.ofSize sizes, Arith.isFinite (point.get column)) →
              (row, column) ∉ entries.pairs) := by
  intro nx result
  have paired {pattern : Pattern} (formed : result = .ok pattern) :
      detect problem ng probes scheme state =
        (.ok pattern, (detect problem ng probes scheme state).2) := Prod.ext formed rfl
  refine ⟨⟨?_, ?_⟩, fun pattern formed => ?_⟩
  · rintro ⟨pattern, formed⟩
    have sizes := sizes_of_detect (paired formed)
    exact ⟨sizes, (exists_detect_of_sizes sizes).1 ⟨pattern, _, paired formed⟩⟩
  · rintro ⟨sizes, supported⟩
    obtain ⟨pattern, state', detected⟩ := (exists_detect_of_sizes sizes).2 supported
    exact ⟨pattern, congrArg Prod.fst detected⟩
  · have detected := paired formed
    have sizes := sizes_of_detect detected
    have evaluates := ((exists_detect_of_sizes sizes).1 ⟨pattern, _, detected⟩).2
    obtain ⟨found, after, ran, keep, rfl, kept⟩ := exists_jacobians_of_detect sizes detected
    refine ⟨sizes, .select keep, rfl, Entries.pairwise_select keep, ?_, fun F computes => ?_⟩
    · exact ⟨found, after, ran, fun row column => by rw [Entries.mem_select, kept]⟩
    · have seen (row : Fin ng) (column : Fin nx) : (row, column) ∈ (Entries.select keep).pairs ↔
          F.IsSeen scheme (probes.ofSize sizes) row column := by
        rw [Entries.mem_select, kept,
          RowFunction.isSeen_iff (Sampling.quotient_of_jacobians computes ran)]
      refine ⟨seen, detect_permute computes sizes detected, ?_⟩
      intro isReal row column ignores finite
      rw [seen]
      exact not_isSeen_of_ignores isReal computes evaluates ignores finite

end Pattern

/-- The first variable has an entry and the second has none, in whatever order the probes are. -/
theorem detect_finds_firstVariable :
    let probes : Probes Double := #v[#[0, 0], #[1, 0], #[2.0, 1]]
    ∃ entries : Entries 1 2,
      (Pattern.detect firstVariable 1 probes .forward ()).1 = .ok (.sparse 1 2 entries) ∧
        (0, 0) ∈ entries.pairs ∧ (0, 1) ∉ entries.pairs ∧
        ∀ order, (Pattern.detect firstVariable 1 (probes.permute order) .forward ()).1 =
          .ok (.sparse 1 2 entries) := by
  intro probes
  obtain ⟨F, computes, ignores⟩ := exists_computes_firstVariable
  obtain ⟨_, finds⟩ := Pattern.detect_finds firstVariable 1 probes .forward ()
  have shown : (Pattern.detect firstVariable 1 probes .forward ()).1.toOption.map
      Pattern.coordinates = some [(1, 1)] := by decide +kernel
  have finite : ∀ index : Fin 3, ∀ size : (probes.get index).size = 2,
      Arith.isFinite ((⟨probes.get index, size⟩ : Vector Double 2).get 1) := by decide +kernel
  obtain ⟨pattern, ran, listed⟩ := Pattern.exists_of_coordinates shown
  obtain ⟨sizes, entries, rfl, -, -, computed⟩ := finds pattern ran
  obtain ⟨-, permuted, absent⟩ := computed F computes
  refine ⟨entries, ran, ?_, ?_, fun order => permuted order ()⟩
  · exact Pattern.mem_of_coordinates (listed ▸ List.mem_singleton.2 rfl)
  · refine absent nofun 0 (1 : Fin 2) ignores fun point member => ?_
    obtain ⟨index, rfl⟩ := List.mem_ofFn.1 member
    exact finite index (sizes index)

/-- At infinite values of a variable that a constraint ignores the quotient is not a number, and
counts as an entry. And a constraint that is not written at every point is not decided by the point:
what it held before depends on the probe before. -/
theorem detect_spurious :
    (let probes : Probes Double :=
        #v[#[0, Arith.infinity], #[1, Arith.infinity], #[2.0, Arith.infinity]]
      ∃ F : RowFunction Double 2 1, firstVariable.Computes F ∧ F.Ignores 0 1 ∧
        ∃ entries : Entries 1 2,
          (Pattern.detect firstVariable 1 probes .forward ()).1 = .ok (.sparse 1 2 entries) ∧
            (0, 1) ∈ entries.pairs) ∧
    (let probes : Probes Double := #v[#[0], #[-1.0], #[-2.0]]
      ∃ order pattern pattern',
        (Pattern.detect writtenBelow 1 probes .forward ()).1 = .ok pattern ∧
          (Pattern.detect writtenBelow 1 (probes.permute order) .forward ()).1 = .ok pattern' ∧
            pattern ≠ pattern') := by
  constructor
  · intro probes
    obtain ⟨F, computes, ignores⟩ := exists_computes_firstVariable
    have shown : (Pattern.detect firstVariable 1 probes .forward ()).1.toOption.map
        Pattern.coordinates = some [(1, 1), (1, 2)] := by decide +kernel
    obtain ⟨pattern, ran, listed⟩ := Pattern.exists_of_coordinates shown
    have sizes : ∀ index : Fin 3, (probes.get index).size = 2 := by decide +kernel
    obtain ⟨_, _, _, keep, rfl, -⟩ := Pattern.exists_jacobians_of_detect sizes (Prod.ext ran rfl)
    refine ⟨F, computes, ignores, _, ran, Pattern.mem_of_coordinates ?_⟩
    rw [listed]
    decide
  · intro probes
    have shown : (Pattern.detect writtenBelow 1 probes .forward ()).1.toOption.map
        Pattern.coordinates = some [] := by decide +kernel
    have shown' : (Pattern.detect writtenBelow 1 (probes.permute (Equiv.swap 0 1)) .forward
        ()).1.toOption.map Pattern.coordinates = some [(1, 1)] := by decide +kernel
    obtain ⟨pattern, ran, listed⟩ := Pattern.exists_of_coordinates shown
    obtain ⟨pattern', ran', listed'⟩ := Pattern.exists_of_coordinates shown'
    refine ⟨Equiv.swap 0 1, pattern, pattern', ran, ran', ?_⟩
    rintro rfl
    cases listed.symm.trans listed'

end NonlinearProgram
