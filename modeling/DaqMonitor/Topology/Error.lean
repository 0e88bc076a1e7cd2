/-
  DaqMonitor.Topology.Error

  Why a topology cannot be assembled, or its file not be read.
-/
import DaqMonitor.Graph.Frl
import DaqMonitor.Json.Source
import DaqMonitor.Text.Quoted

namespace DaqMonitor.Topology

/-- What a topology declares. -/
inductive Declared where
  | subsystem
  | fmmApplication
  | fmm
  | ttcPartition
  | frlPc
  | bu
  | ru
  | fed
  deriving DecidableEq, Repr

/-- The words for what a topology declares. -/
def Declared.words : Declared → String
  | subsystem => "subsystem"
  | fmmApplication => "FMM application"
  | fmm => "FMM"
  | ttcPartition => "TTC partition"
  | frlPc => "FRL PC"
  | bu => "BU"
  | ru => "RU"
  | fed => "FED"

/-- Why a topology cannot be assembled. -/
inductive BuildError where
  /-- Something is referred to that is not declared. -/
  | unknownReference (kind : Declared) (name : String)
  | duplicateHostname (kind : Declared) (hostname : String)
  | duplicateName (kind : Declared) (name : String)
  | duplicateFedId (id : UInt32)
  /-- A FED is plugged into an input that the card does not have. -/
  | inputOutOfRange (fed : UInt32) (input : UInt8) (kind : CardKind)
  /-- A FED is plugged into an input that another one is plugged into. -/
  | inputTaken (fed : UInt32) (input : UInt8)
  /-- More than one readout unit is the event manager. -/
  | multipleEvms (hostnames : List String)
  deriving DecidableEq, Repr

/-- The message for a topology that cannot be assembled. -/
def BuildError.message : BuildError → String
  | unknownReference kind name =>
    kind.words ++ " '" ++ name ++ "' is referenced but not declared"
  | duplicateHostname kind hostname =>
    kind.words ++ " hostname '" ++ hostname ++ "' is declared twice"
  | duplicateName kind name => kind.words ++ " '" ++ name ++ "' is declared twice"
  | duplicateFedId id => "FED " ++ Text.ofNat id.toNat ++ " is declared twice"
  | inputOutOfRange fed input kind =>
    "FED " ++ Text.ofNat fed.toNat ++ " uses input " ++ Text.ofNat input.toNat ++ " which a " ++
      kind.label ++ " card does not have"
  | inputTaken fed input =>
    "FED " ++ Text.ofNat fed.toNat ++ " uses input " ++ Text.ofNat input.toNat ++
      " which is already taken on its FRL"
  | multipleEvms hostnames =>
    "more than one event manager declared: " ++ Text.quotedList hostnames

/-- Why the file of a topology cannot be read as one. -/
inductive LoadError where
  | notFound
  | notUtf8
  | fault (fault : Json.Fault)
  deriving DecidableEq, Repr

/-- The message for a file that cannot be read; `none` where its text is at fault. -/
def LoadError.message? (path : String) : LoadError → Option String
  | notFound =>
    some ("cannot read topology file " ++ path ++ ": No such file or directory (os error 2)")
  | notUtf8 =>
    some ("cannot read topology file " ++ path ++ ": stream did not contain valid UTF-8")
  | fault _ => none

end DaqMonitor.Topology
