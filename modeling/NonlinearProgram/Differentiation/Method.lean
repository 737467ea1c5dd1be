/-!
# Differentiation methods

The ways of obtaining derivatives, and the difference schemes behind the finite-difference ones.
-/

namespace NonlinearProgram

/-- How a difference quotient is formed. -/
inductive Scheme where
  | forward
  | central
  /-- Imaginary part after an imaginary step; exact to rounding for analytic functions. -/
  | complexStep
  deriving DecidableEq, Repr

/-- Evaluations needed for one perturbation. -/
def Scheme.samplesPerStep : Scheme → Nat
  | .central => 2
  | .forward | .complexStep => 1

def Scheme.all : List Scheme := [forward, central, complexStep]

def Scheme.name : Scheme → String
  | .forward => "Forward"
  | .central => "Central"
  | .complexStep => "ComplexStep"

def Scheme.ofName? (name : String) : Option Scheme := all.find? (·.name == name)

inductive Method where
  | forwardMode
  /-- A request for reverse mode; served by the forward engine. -/
  | reverseMode
  | forwardDifference
  | centralDifference
  | complexStep
  | supplied
  deriving DecidableEq, Repr

namespace Method

def all : List Method :=
  [forwardMode, reverseMode, forwardDifference, centralDifference, complexStep, supplied]

/-- Difference scheme of a finite-difference method. -/
def scheme? : Method → Option Scheme
  | forwardDifference => some .forward
  | centralDifference => some .central
  | complexStep => some .complexStep
  | _ => none

def isAutomatic : Method → Bool
  | forwardMode | reverseMode => true
  | _ => false

/-- The method takes differences, the complex step included. -/
def isDifference (method : Method) : Bool := method.scheme?.isSome

def name : Method → String
  | forwardMode => "ForwardAD"
  | reverseMode => "ReverseAD"
  | forwardDifference => "ForwardFD"
  | centralDifference => "CentralFD"
  | complexStep => "ComplexStep"
  | supplied => "UserDeriv"

/-- The method with a name, whatever the case of its ASCII letters. -/
def find? (name : String) : Option Method :=
  all.find? fun method => method.name.map Char.toLower == name.map Char.toLower

end Method

end NonlinearProgram
