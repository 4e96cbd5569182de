/-!
# The stages of a compile

A compile moves through its stages in order. The C target may be skipped, and a checked program may
be finished at any stage from there on. A compile may fail at any stage; a compile that is done or
failed moves no further.
-/

namespace MachineCompiler

/-- How far a compile has come. -/
inductive Stage where
  | idle
  | parsed
  | modelInstalled
  | checked
  | cTargetGenerated
  | verificationTargetGenerated
  | done
  | failed
deriving DecidableEq, Repr, Inhabited

namespace Stage

/-- The name of a stage. -/
def name : Stage → String
  | .idle => "idle"
  | .parsed => "parsed"
  | .modelInstalled => "model-installed"
  | .checked => "checked"
  | .cTargetGenerated => "c-target-generated"
  | .verificationTargetGenerated => "verification-target-generated"
  | .done => "done"
  | .failed => "failed"

/-- All stages. -/
def all : List Stage :=
  [.idle, .parsed, .modelInstalled, .checked, .cTargetGenerated, .verificationTargetGenerated,
    .done, .failed]

/-- The stage of a name. -/
def ofName? (name : String) : Option Stage :=
  all.find? fun stage => stage.name == name

/-- The compile has come to its end. -/
def isTerminal : Stage → Bool
  | .done | .failed => true
  | _ => false

/-- A compile may move from one stage to the other. -/
def leadsTo : Stage → Stage → Bool
  | .done, _ | .failed, _ => false
  | _, .failed => true
  | .idle, .parsed => true
  | .parsed, .modelInstalled => true
  | .modelInstalled, .checked => true
  | .checked, .cTargetGenerated => true
  | .checked, .verificationTargetGenerated => true
  | .cTargetGenerated, .verificationTargetGenerated => true
  | .checked, .done => true
  | .cTargetGenerated, .done => true
  | .verificationTargetGenerated, .done => true
  | _, _ => false

end Stage

/-- A move that the order of stages does not allow. -/
structure StageError where
  source : Stage
  target : Stage
deriving DecidableEq

/-- The text of a refused move. -/
def StageError.message (error : StageError) : String :=
  "cannot move from " ++ error.source.name ++ " to " ++ error.target.name

/-- Move to another stage. -/
def Stage.advance (stage next : Stage) : Except StageError Stage :=
  if stage.leadsTo next then .ok next else .error ⟨stage, next⟩

end MachineCompiler
