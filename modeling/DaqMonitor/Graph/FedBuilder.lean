/-
  DaqMonitor.Graph.FedBuilder

  The slices of the event building: a FED builder is read out by one readout unit
  and consists of sub-FED-builders, lines of cards that share a TTC partition.
-/
import DaqMonitor.Graph.IdentityForm

namespace DaqMonitor

open Json

/-- A slice of the event building. -/
structure FedBuilder where
  uid : Uid
  name : String
  subFedBuilders : List SubFedBuilderId
  ru : RuId
  deriving DecidableEq

/-- The JSON form of a FED builder. -/
def FedBuilder.form : Form FedBuilder where
  shape := .record (.ofList [
    ("uid", .required, .uint64),
    ("name", .required, .text),
    ("subFedBuilders", .required, .list .uint32),
    ("ru", .required, .uint32)])
  toVal f := (f.uid.value, f.name, EntityId.listForm.toVal f.subFedBuilders, f.ru.index, ())
  ofVal
    | (uid, name, subFedBuilders, ru, ()) =>
      { uid := ⟨uid⟩, name, subFedBuilders := EntityId.listForm.ofVal subFedBuilders, ru := ⟨ru⟩ }
  ofVal_toVal f := by simp

@[simp] theorem FedBuilder.form_kept (f : FedBuilder) : FedBuilder.form.kept f = f := rfl

/-- A line of cards that share a TTC partition. -/
structure SubFedBuilder where
  uid : Uid
  name : String
  fedBuilder : FedBuilderId
  frls : List FrlId
  ttcPartition : TtcPartitionId
  frlPc : Option FrlPcId
  /-- The least event counter of its FEDs; worked out after each cycle. -/
  minTrigger : UInt64 := 0
  /-- The greatest event counter of its FEDs; worked out after each cycle. -/
  maxTrigger : UInt64 := 0
  deriving DecidableEq

namespace SubFedBuilder

/-- The least and the greatest of some counters, zeros where there are none. -/
def triggerRange : List UInt64 → UInt64 × UInt64
  | [] => (0, 0)
  | counter :: rest =>
    rest.foldl (fun range c => (min range.1 c, max range.2 c)) (counter, counter)

/-- Takes over the range of the given counters. -/
def setTriggerRange (s : SubFedBuilder) (counters : List UInt64) : SubFedBuilder :=
  { s with
    minTrigger := (triggerRange counters).1
    maxTrigger := (triggerRange counters).2 }

/-- The JSON form of a sub-FED-builder. -/
def form : Form SubFedBuilder where
  shape := .record (.ofList [
    ("uid", .required, .uint64),
    ("name", .required, .text),
    ("fedBuilder", .required, .uint32),
    ("frls", .required, .list .uint32),
    ("ttcPartition", .required, .uint32),
    ("frlPc", .omissible, .option .uint32),
    ("minTrig", .required, .uint64),
    ("maxTrig", .required, .uint64)])
  toVal s :=
    (s.uid.value, s.name, s.fedBuilder.index, EntityId.listForm.toVal s.frls,
      s.ttcPartition.index, EntityId.optionForm.toVal s.frlPc, s.minTrigger, s.maxTrigger, ())
  ofVal
    | (uid, name, fedBuilder, frls, ttcPartition, frlPc, minTrigger, maxTrigger, ()) =>
      { uid := ⟨uid⟩, name, fedBuilder := ⟨fedBuilder⟩, frls := EntityId.listForm.ofVal frls
        ttcPartition := ⟨ttcPartition⟩, frlPc := EntityId.optionForm.ofVal frlPc, minTrigger
        maxTrigger }
  ofVal_toVal s := by simp

@[simp] theorem form_kept (s : SubFedBuilder) : form.kept s = s := rfl

end SubFedBuilder

end DaqMonitor
