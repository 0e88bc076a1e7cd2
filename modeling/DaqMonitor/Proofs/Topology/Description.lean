/-
  DaqMonitor.Proofs.Topology.Description

  Descriptions that are written and read back.

  A part of a description is written as an object or as the list of its fields, whatever
  its neighbours and its own parts are written as, and an object may leave out what has
  its standard value. All of these ways are told apart by the reader, so that none of
  them changes what is built.

    * `Spec.writes_toJson` — the JSON value of a description is a way to write it.
    * `Spec.ofJson_eq_of_writes` — all ways to write a description are read as the same.
-/
import DaqMonitor.Proofs.Json.RoundTrip
import DaqMonitor.Topology.Build

namespace DaqMonitor.Topology.Spec

open Json

theorem sound_form : form.shape.sound = true := by decide +kernel

theorem plain_form : form.shape.plain = true := by decide +kernel

@[simp] theorem form_kept (spec : Spec) : form.kept spec = spec := rfl

/-- Nothing in a description is a double, so it can always be written. -/
theorem writes_toJson (spec : Spec) : form.Writes spec spec.toJson := by
  refine Form.writes_encode sound_form fun x hx => ?_
  rw [Form.doubles, form.shape.doubles_of_plain plain_form] at hx
  exact absurd hx List.not_mem_nil

theorem ofJson_toJson (spec : Spec) : form.ofJson spec.toJson = .ok spec :=
  Form.ofJson_of_writes sound_form spec.writes_toJson

/-- However a description is written, with objects and lists mixed and standard values left out, it
    is read as that description; its JSON value is one of the ways to write it. So it makes no
    difference to what is built of a text whether it is brought to that form first. -/
theorem ofJson_eq_of_writes (spec : Spec) :
    (∀ json, form.Writes spec json → form.ofJson json = .ok spec) ∧
      form.Writes spec spec.toJson ∧
      ∀ text uids, ((ofText text).bind fun accepted => form.ofJson accepted.toJson).map
        (·.build uids) = (ofText text).map (·.build uids) := by
  refine ⟨fun json => Form.ofJson_of_writes sound_form, spec.writes_toJson, fun text uids => ?_⟩
  simp only [ofJson_toJson]
  -- What is refused has no such form, and nothing is built of it.
  cases ofText text <;> rfl

/-- Objects that leave out whatever has its standard value, and the list of all fields of a FED, a
    line of cards and a readout unit among them. -/
theorem ofJson_eq_of_writes_mixed :
    let partition : TtcPartitionSpec :=
      { name := "TIBTID", number := 7, subsystem := none, fmm := none, fmmOutput := 0
        tcds := some { pmNumber := 1, iciNumber := 2, nullCause := none } }
    let fmm : FmmSpec := { application := "fmm-1", slot := 5, dual := false }
    let bu : UnitSpec := { hostname := "bu-1", instanceId := none, evm := false }
    let fed : FedSpec :=
      { id := 50, expectedId := none, input := 0, fmm := none, slink := true, tts := true
        mainFeds := [] }
    let follower : FedSpec :=
      { id := 51, expectedId := some 60, input := 1, fmm := none, slink := false, tts := true
        mainFeds := [50] }
    let card : FrlSpec := { slot := 1, kind := .ferol, feds := [fed, follower] }
    let line : SubFedBuilderSpec :=
      { name := "TRACKER-1", ttcPartition := "TIBTID", frlPc := none, frls := [card] }
    let ru : UnitSpec := { hostname := "ru-1", instanceId := some 0, evm := true }
    let slice : FedBuilderSpec := { name := "TRACKER", ru, subFedBuilders := [line] }
    let partitionJson : Json := .object [("name", .text "TIBTID"), ("ttcpNr", ofUInt64 7),
      ("tcds", .object [("iciNr", ofInt64 2), ("pmNr", ofInt64 1)])]
    let fmmJson : Json := .object [("application", .text "fmm-1"), ("geoslot", ofUInt64 5)]
    let buJson : Json := .object [("hostname", .text "bu-1")]
    let fedJson : Json := .object [("id", ofUInt64 50)]
    let followerJson : Json := .list [ofUInt64 51, ofUInt64 60, ofUInt64 1, .null, .bool false,
      .bool true, .list [ofUInt64 50]]
    let cardJson : Json :=
      .object [("feds", .list [fedJson, followerJson]), ("geoSlot", ofUInt64 1)]
    let lineJson : Json := .list [.text "TRACKER-1", .text "TIBTID", .null, .list [cardJson]]
    let ruJson : Json := .list [.text "ru-1", ofUInt64 0, .bool true]
    let sliceJson : Json := .object [("name", .text "TRACKER"), ("ru", ruJson),
      ("subFedBuilders", .list [lineJson])]
    let json : Json := .object [("bus", .list [buJson]), ("fedBuilders", .list [sliceJson]),
      ("fmms", .list [fmmJson]), ("ttcPartitions", .list [partitionJson])]
    let spec : Spec :=
      { sessionId := none, subsystems := [], ttcPartitions := [partition], frlPcs := []
        fmmApplications := [], fmms := [fmm], bus := [bu], fedBuilders := [slice] }
    form.Writes spec json ∧ form.ofJson json = .ok spec := by
  intro partition fmm bu fed follower card line ru slice partitionJson fmmJson buJson fedJson
    followerJson cardJson lineJson ruJson sliceJson json spec
  -- A part follows the parts that stand in it. Where a pair of proofs stands for a field, it is left
  -- out: it may be, and it has its standard value.
  have hpartition : TtcPartitionSpec.form.Writes partition partitionJson := by
    refine .inl ⟨_, rfl, by decide, .intro rfl <| .intro rfl <| .intro ⟨by decide, rfl⟩ <|
      .intro ⟨by decide, rfl⟩ <| .intro ⟨by decide, rfl⟩ <| .intro ?_ trivial⟩
    refine .inr ⟨_, rfl, nofun, .inl ⟨_, rfl, by decide, ?_⟩⟩
    exact .intro rfl <| .intro rfl <| .intro ⟨by decide, rfl⟩ trivial
  have hfmm : FmmSpec.form.Writes fmm fmmJson :=
    .inl ⟨_, rfl, by decide, .intro rfl <| .intro rfl <| .intro ⟨by decide, rfl⟩ trivial⟩
  have hbu : UnitSpec.form.Writes bu buJson :=
    .inl ⟨_, rfl, by decide, .intro rfl <| .intro ⟨by decide, rfl⟩ <|
      .intro ⟨by decide, rfl⟩ trivial⟩
  have hfed : FedSpec.form.Writes fed fedJson := by
    refine .inl ⟨_, rfl, by decide, .intro rfl ?_⟩
    iterate 6 refine .intro ⟨by decide, rfl⟩ ?_
    trivial
  have hfollower : FedSpec.form.Writes follower followerJson := by
    refine .inr ⟨_, rfl, .intro rfl <| .intro (.inr ⟨_, rfl, nofun, rfl⟩) <| .intro rfl <|
      .intro (.inl ⟨rfl, rfl⟩) <| .intro rfl <| .intro rfl <| .intro ?_ rfl⟩
    exact ⟨_, rfl, .cons rfl .nil⟩
  have hcard : FrlSpec.form.Writes card cardJson := by
    refine .inl ⟨_, rfl, by decide, .intro rfl <| .intro ⟨by decide, rfl⟩ <| .intro ?_ trivial⟩
    exact Form.writes_list (.cons hfed (.cons hfollower .nil))
  have hline : SubFedBuilderSpec.form.Writes line lineJson := by
    refine .inr ⟨_, rfl, .intro rfl <| .intro rfl <| .intro (.inl ⟨rfl, rfl⟩) <| .intro ?_ rfl⟩
    exact Form.writes_list (.cons hcard .nil)
  have hru : UnitSpec.form.Writes ru ruJson :=
    .inr ⟨_, rfl, .intro rfl <| .intro (.inr ⟨_, rfl, nofun, rfl⟩) <| .intro rfl rfl⟩
  have hslice : FedBuilderSpec.form.Writes slice sliceJson := by
    refine .inl ⟨_, rfl, by decide, .intro rfl <| .intro hru <| .intro ?_ trivial⟩
    exact Form.writes_list (.cons hline .nil)
  have hspec : form.Writes spec json := by
    refine .inl ⟨_, rfl, by decide, .intro ⟨by decide, rfl⟩ <| .intro ⟨by decide, rfl⟩ <|
      .intro ?_ <| .intro ⟨by decide, rfl⟩ <| .intro ⟨by decide, rfl⟩ <| .intro ?_ <|
      .intro ?_ <| .intro ?_ trivial⟩
    · exact Form.writes_list (.cons hpartition .nil)
    · exact Form.writes_list (.cons hfmm .nil)
    · exact Form.writes_list (.cons hbu .nil)
    · exact Form.writes_list (.cons hslice .nil)
  exact ⟨hspec, (ofJson_eq_of_writes spec).1 json hspec⟩

end DaqMonitor.Topology.Spec
