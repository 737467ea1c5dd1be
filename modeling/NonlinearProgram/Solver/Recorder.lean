import NonlinearProgram.Solver.Engine

/-!
# Recording engines

A recorder stands in front of an engine, passes every call on and keeps what went through. It may
answer storage requests itself, so that the negotiation of a workspace can be steered.
-/

namespace NonlinearProgram

/-- What passes between a caller and an engine. -/
inductive EngineEvent (R : Type) where
  | opened (config : OutputRouting) (succeeded : Bool)
  | closed
  /-- Storage was asked for, with the engine's own answer. -/
  | storage (request : StorageRequest) (estimate : StorageEstimate)
  | option (key : String) (value : OptionValue R) (errors : UInt64)
  | solve {n nf neg : Nat} (call : EngineCall R n nf neg)
  | report (report : EngineReport R)

structure Recorder (R ε : Type) where
  engine : ε
  /-- Answer to storage requests in place of the engine's. -/
  estimate? : Option StorageEstimate := none
  events : Array (EngineEvent R) := #[]

namespace Recorder

variable {R ε : Type}

def note (recorder : Recorder R ε) (event : EngineEvent R) (engine : ε) : Recorder R ε :=
  { recorder with engine, events := recorder.events.push event }

instance [Engine R ε] : Engine R (Recorder R ε) where
  openChannels config recorder :=
    let (outcome, engine) := Engine.openChannels config recorder.engine
    (outcome, recorder.note (.opened config outcome.isOk) engine)
  closeChannels recorder := recorder.note .closed (Engine.closeChannels recorder.engine)
  storage request workspace recorder :=
    let (estimate, workspace, engine) := Engine.storage request workspace recorder.engine
    (recorder.estimate?.getD estimate, workspace, recorder.note (.storage request estimate) engine)
  setOption key value workspace recorder :=
    let (errors, workspace, engine) := Engine.setOption key value workspace recorder.engine
    (errors, workspace, recorder.note (.option key value errors) engine)
  solve call callback recorder state :=
    let (result, engine, state) := Engine.solve call callback recorder.engine state
    let recorder := recorder.note (.solve call) engine
    (result, recorder.note (.report result.1) engine, state)

end Recorder

end NonlinearProgram
