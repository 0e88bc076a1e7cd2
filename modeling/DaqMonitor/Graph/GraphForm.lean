/-
  DaqMonitor.Graph.GraphForm

  The JSON form of a graph: every entity once, in the list of its arena, with
  plain positions for its references. The look-up tables and the running totals
  of the FEDs are left out.
-/
import DaqMonitor.Graph.Basic

namespace DaqMonitor.Graph

open Json

/-- What the JSON form keeps of a graph: all but the look-up tables and the running totals. -/
def exported (g : Graph) : Graph := { g with feds := g.feds.map Fed.withoutTotal, indexes := {} }

/-- The JSON form of a graph. -/
def form : Form Graph where
  shape := .record (.ofList [
    ("uid", .required, .uint64),
    ("run", .required, RunInfo.form.shape),
    ("fedBuilderSummary", .required, FedBuilderSummary.form.shape),
    ("buSummary", .required, BuSummary.form.shape),
    ("tcdsGlobalInfo", .required, TcdsInfo.form.shape),
    ("fedBuilders", .required, FedBuilder.form.list.shape),
    ("subFedBuilders", .required, SubFedBuilder.form.list.shape),
    ("frls", .required, Frl.form.list.shape),
    ("frlPcs", .required, FrlPc.form.list.shape),
    ("feds", .required, Fed.form.list.shape),
    ("rus", .required, Ru.form.list.shape),
    ("bus", .required, Bu.form.list.shape),
    ("fmms", .required, Fmm.form.list.shape),
    ("fmmApplications", .required, FmmApplication.form.list.shape),
    ("ttcPartitions", .required, TtcPartition.form.list.shape),
    ("subSystems", .required, SubSystem.form.list.shape)])
  toVal g :=
    (g.uid.value, RunInfo.form.toVal g.run, FedBuilderSummary.form.toVal g.fedBuilderSummary,
      BuSummary.form.toVal g.buSummary, TcdsInfo.form.toVal g.tcds,
      FedBuilder.form.list.toVal g.fedBuilders, SubFedBuilder.form.list.toVal g.subFedBuilders,
      Frl.form.list.toVal g.frls, FrlPc.form.list.toVal g.frlPcs, Fed.form.list.toVal g.feds,
      Ru.form.list.toVal g.rus, Bu.form.list.toVal g.bus, Fmm.form.list.toVal g.fmms,
      FmmApplication.form.list.toVal g.fmmApplications,
      TtcPartition.form.list.toVal g.ttcPartitions, SubSystem.form.list.toVal g.subSystems, ())
  ofVal
    | (uid, run, fedBuilderSummary, buSummary, tcds, fedBuilders, subFedBuilders, frls, frlPcs,
        feds, rus, bus, fmms, fmmApplications, ttcPartitions, subSystems, ()) =>
      { uid := ⟨uid⟩
        run := RunInfo.form.ofVal run
        fedBuilderSummary := FedBuilderSummary.form.ofVal fedBuilderSummary
        buSummary := BuSummary.form.ofVal buSummary
        tcds := TcdsInfo.form.ofVal tcds
        fedBuilders := FedBuilder.form.list.ofVal fedBuilders
        subFedBuilders := SubFedBuilder.form.list.ofVal subFedBuilders
        frls := Frl.form.list.ofVal frls
        frlPcs := FrlPc.form.list.ofVal frlPcs
        feds := Fed.form.list.ofVal feds
        rus := Ru.form.list.ofVal rus
        bus := Bu.form.list.ofVal bus
        fmms := Fmm.form.list.ofVal fmms
        fmmApplications := FmmApplication.form.list.ofVal fmmApplications
        ttcPartitions := TtcPartition.form.list.ofVal ttcPartitions
        subSystems := SubSystem.form.list.ofVal subSystems }
  kept := exported
  ofVal_toVal g := by
    have hfeds : Fed.form.list.kept g.feds = g.feds.map Fed.withoutTotal := rfl
    simp [exported, hfeds, Form.list_kept FedBuilder.form_kept,
      Form.list_kept SubFedBuilder.form_kept, Form.list_kept Frl.form_kept,
      Form.list_kept FrlPc.form_kept, Form.list_kept Ru.form_kept, Form.list_kept Bu.form_kept,
      Form.list_kept Fmm.form_kept, Form.list_kept FmmApplication.form_kept,
      Form.list_kept TtcPartition.form_kept, Form.list_kept SubSystem.form_kept]

/-- The JSON value of a graph. -/
def toJson (g : Graph) : Json := form.encode g

/-- Reads a graph from a JSON value. Its look-up tables are empty. -/
def ofJson (json : Json) : Except Fault Graph := form.ofJson json

/-- Reads a graph from a text. Its look-up tables are empty. -/
def ofText (text : String) : Except Fault Graph := form.ofText text

end DaqMonitor.Graph
