import NonlinearProgram.Arith.Double
import NonlinearProgram.Proofs.Setup
import NonlinearProgram.Solver.Saved

/-!
# Saved starts that load

A record loads if the parts of its state are consistent, and it loads as it is. Otherwise the first
of a list of checks that the state does not pass says why. The problem a start is used for adds its
sizes and a finite point to these conditions. What has been loaded can be saved and loaded again.

The number of function rows of a problem is a word. It wraps around to zero if the number of
constraints is the largest word; a start without function values then passes for one of the problem.
-/

namespace NonlinearProgram

/-- A check of a saved state: of one of its lengths, of its number of superbasics, or of one of its
codes. -/
inductive SavedCheck where
  | length (component : StateField)
  | superbasics
  | code (value : Int)

namespace SolverState

variable {R : Type} {state : SolverState R}

/-- Number of variables or of function rows, whichever a component has entries for. -/
def ownLength (state : SolverState R) : StateField → Nat
  | .x | .xState | .xMul => state.x.size
  | .f | .fState | .fMul => state.f.size

/-- The checks of a saved state in their order. -/
def savedChecks (state : SolverState R) : List SavedCheck :=
  [.length .xState, .length .xMul, .length .fState, .length .fMul, .superbasics] ++
    (state.xState.toList ++ state.fState.toList).map .code

/-- What a check asks for. -/
def Passes (state : SolverState R) : SavedCheck → Prop
  | .length component => state.length component = state.ownLength component
  | .superbasics => 0 ≤ state.superbasics
  | .code value => 0 ≤ value ∧ value ≤ 5

instance (state : SolverState R) : (check : SavedCheck) → Decidable (state.Passes check)
  | .length component =>
      inferInstanceAs (Decidable (state.length component = state.ownLength component))
  | .superbasics => inferInstanceAs (Decidable (0 ≤ state.superbasics))
  | .code value => inferInstanceAs (Decidable (0 ≤ value ∧ value ≤ 5))

/-- What is wrong with a state that does not pass a check. -/
def failure (state : SolverState R) : SavedCheck → SetupError
  | .length component =>
      .wrongSize (.savedStart component) (state.ownLength component) (state.length component)
  | .superbasics => .unusableValue (.negativeSuperbasics state.superbasics)
  | .code value => .unusableValue (.stateCode value)

/-- Makes one check. -/
def check (state : SolverState R) (check : SavedCheck) : Except SetupError Unit :=
  if state.Passes check then .ok () else .error (state.failure check)

theorem check_eq_ok {check : SavedCheck} : state.check check = .ok () ↔ state.Passes check := by
  rw [SolverState.check]
  split <;> simp [*]

theorem check_eq_error {check : SavedCheck} {failure : SetupError} :
    state.check check = .error failure ↔
      ¬state.Passes check ∧ failure = state.failure check := by
  rw [SolverState.check]
  split <;> simp [*, eq_comm]

/-- A state whose parts agree with each other. -/
structure IsConsistent (state : SolverState R) : Prop where
  xState : state.xState.size = state.x.size
  xMul : state.xMul.size = state.x.size
  fState : state.fState.size = state.f.size
  fMul : state.fMul.size = state.f.size
  superbasics : 0 ≤ state.superbasics
  codes : ∀ code ∈ state.xState.toList ++ state.fState.toList, 0 ≤ code ∧ code ≤ 5

/-- The checks ask for consistency and for nothing else. -/
theorem passes_iff_isConsistent :
    (∀ check ∈ state.savedChecks, state.Passes check) ↔ state.IsConsistent := by
  simp only [savedChecks, List.cons_append, List.nil_append, List.forall_mem_cons,
    List.forall_mem_map]
  constructor
  · rintro ⟨xState, xMul, fState, fMul, superbasics, codes⟩
    exact ⟨xState, xMul, fState, fMul, superbasics, codes⟩
  · rintro ⟨xState, xMul, fState, fMul, superbasics, codes⟩
    exact ⟨xState, xMul, fState, fMul, superbasics, codes⟩

/-- The checks of codes stop at the first code that no solver accepts. -/
theorem forM_codes (state : SolverState R) (codes : List Int) :
    (codes.map .code).forM state.check =
      match codes.find? fun code => !(0 ≤ code && code ≤ largestStateCode) with
      | some code => .error (.unusableValue (.stateCode code))
      | none => .ok () := by
  induction codes with
  | nil => rfl
  | cons code rest ih =>
      have accepted : (decide (0 ≤ code) && decide (code ≤ largestStateCode)) = true ↔
          state.Passes (.code code) := by
        rw [Bool.and_eq_true, decide_eq_true_iff, decide_eq_true_iff]
        exact Iff.rfl
      rw [List.map_cons, List.forM_eq_forM, List.forM_cons, ← List.forM_eq_forM, ih,
        List.find?_cons]
      by_cases passes : state.Passes (.code code)
      · rw [check_eq_ok.2 passes, accepted.2 passes]
        rfl
      · rw [check_eq_error.2 ⟨passes, rfl⟩, Bool.eq_false_iff.2 (mt accepted.1 passes)]
        rfl

end SolverState

/-! ## Loading -/

namespace SavedRecord

variable {R : Type} {saved : SavedRecord R} {start : Start R}

/-- Loading makes the checks and keeps the record as it is. -/
theorem load_eq_forM (saved : SavedRecord R) :
    saved.load = (saved.state.savedChecks.forM saved.state.check >>= fun _ =>
      .ok ⟨saved.mode, saved.state⟩) := by
  simp only [load, SolverState.savedChecks, List.forM_eq_forM, List.cons_append, List.nil_append,
    List.forM_cons, bind_assoc]
  refine bind_congr fun _ => bind_congr fun _ => bind_congr fun _ => bind_congr fun _ => ?_
  rw [← List.forM_eq_forM, SolverState.forM_codes, badCode?]
  by_cases counted : saved.state.Passes .superbasics
  · rw [if_neg (not_lt.2 counted), SolverState.check_eq_ok.2 counted]
    cases (saved.state.xState.toList ++ saved.state.fState.toList).find? _ <;> rfl
  · rw [if_pos (not_le.1 counted), SolverState.check_eq_error.2 ⟨counted, rfl⟩]
    rfl

theorem load_eq_ok_iff :
    saved.load = .ok start ↔ saved.state.IsConsistent ∧ start = ⟨saved.mode, saved.state⟩ := by
  rw [load_eq_forM, then_eq_ok, forM_eq_ok, Except.ok.injEq, eq_comm (b := start)]
  simp only [SolverState.check_eq_ok, SolverState.passes_iff_isConsistent]

end SavedRecord

end NonlinearProgram
