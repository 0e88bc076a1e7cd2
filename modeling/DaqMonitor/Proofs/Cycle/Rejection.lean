/-
  DaqMonitor.Proofs.Cycle.Rejection

  What a table leaves of an entity that refuses its row.

  A row that is refused changes nothing, and an entity has no other row of the
  table. All that is left is what the table does besides: before the rows of the
  readout units are given out, all FEDs lose the flags of their lists, and a FED
  that refuses its row does not get them back. Of the TTS channels, partitions and
  global outputs whose channels cannot be read stay as they are.

    * `Channels.Unreadable` — a channel that is there and cannot be read.
    * `dispatch_of_refused` — who refuses a row, or cannot be read, after a dispatch.
-/
import DaqMonitor.Proofs.Cycle.Channels
import DaqMonitor.Proofs.Cycle.Rowwise

namespace DaqMonitor

open Flashlist Matching

/-! ## Channels that cannot be read -/

/-- The channel at an address is there and cannot be read. -/
def Channels.Unreadable {α : Type} (channels : Channels) (read : Row → Except RowError α)
    (address : ChannelAddress) : Prop :=
  ∃ c error, channels.at? address = some c ∧ read c.row = .error error

/-- A partition has a place in the TCDS, and one of its channels cannot be read. -/
def TtcPartition.Unreadable (p : TtcPartition) (channels : Channels) (service : String) : Prop :=
  p.tcds.nullCause = none ∧
    (channels.Unreadable readTtsState
        (.make service partitionType p.tcds.pmNumber p.tcds.iciNumber) ∨
      channels.Unreadable readEmulatorState
        (.make service emulatorType p.tcds.pmNumber p.tcds.iciNumber))

section Unreadable

variable {channels : Channels} {service : String}

theorem exists_readChannel?_eq_error {read : Row → Except RowError String}
    {address : ChannelAddress} (h : channels.Unreadable read address) :
    ∃ error, readChannel? read (channels.at? address) = .error error := by
  obtain ⟨c, error, hc, herror⟩ := h
  refine ⟨error, ?_⟩
  rw [hc, readChannel?, herror]
  rfl

theorem partitionAfter_of_unreadable {p : TtcPartition} (h : p.Unreadable channels service) :
    (partitionAfter channels service p).value = p := by
  obtain ⟨hcause, hunreadable⟩ := h
  unfold partitionAfter
  rw [hcause]
  rcases hunreadable with hown | hemulator
  · obtain ⟨error, herror⟩ := exists_readChannel?_eq_error hown
    simp only [herror]
  · obtain ⟨error, herror⟩ := exists_readChannel?_eq_error hemulator
    -- The other channel may be readable or not.
    cases hown : readChannel? readTtsState
        (channels.at? (.make service partitionType p.tcds.pmNumber p.tcds.iciNumber)) with
    | error error' => simp only [hown]
    | ok state => simp only [hown, herror]

theorem globalOutput_of_unreadable {type : String}
    (h : channels.Unreadable readGlobalState (.make service type 0 0)) :
    (globalOutput channels service type).value = none := by
  obtain ⟨c, error, hc, herror⟩ := h
  simp only [globalOutput, hc, herror]

theorem find?_takeOutputs_of_unreadable {type : String}
    (h : channels.Unreadable readGlobalState (.make service type 0 0))
    (states : SortedMap String GlobalTtsState) :
    (takeOutputs states (globalOutputs channels service)).find? type = states.find? type := by
  have hnone : outputState? (globalOutputs channels service) type = none := by
    rw [Option.eq_none_iff_forall_ne_some]
    intro state hstate
    have hvalue := (outputState?_globalOutputs.1 hstate).2
    rw [globalOutput_of_unreadable h] at hvalue
    cases hvalue
  rw [find?_takeOutputs, hnone, Option.none_or]

end Unreadable

/-! ## After a dispatch -/

section Dispatch

variable (session : Session) (g : Graph) {f : Flashlist} {kind : Kind}
  (hkind : f.dispatchKind? = some kind)

include hkind

theorem getElem?_dispatch {s : TargetSort} {n : Nat} {e : s.Entity}
    (he : (g.entities s)[n]? = some e) :
    ((dispatch session g f).graph.entities s)[n]?
      = some (s.take kind (Table.row? session g f.rows s n kind)
          (Table.aside session kind f.rows s n e)) := by
  rw [dispatch_graph session g hkind, Graph.entities_apply, List.getElem?_mapIdx, he,
    Option.map_some, Table.effect_eq_take]

/-- An entity that refuses its row of a table is after the dispatch as before it; but a FED that
    refuses a row of the readout units has lost the flags of their lists, like all other FEDs that no
    row gives them back to. So are partitions and global outputs one of whose channels cannot be
    read. -/
theorem dispatch_of_refused :
    (∀ (s : TargetSort) (n : Nat) (e : s.Entity) (row : Row), (g.entities s)[n]? = some e →
      Table.row? session g f.rows s n kind = some row → s.refuses kind row e = true →
      ((dispatch session g f).graph.entities s)[n]?
        = some (if kind = .ru then Effect.clearing s n e else e)) ∧
    ∀ service context, kind = .tcdsTtsChannels → session.tcds? = some (service, context) →
      (∀ (n : Nat) p, g.ttcPartitions[n]? = some p →
        p.Unreadable (Channels.ofRows f.rows) service →
        (dispatch session g f).graph.ttcPartitions[n]? = some p) ∧
      ∀ type, (Channels.ofRows f.rows).Unreadable readGlobalState (.make service type 0 0) →
        (dispatch session g f).graph.tcds.globalTtsStates.find? type
          = g.tcds.globalTtsStates.find? type := by
  constructor
  · intro s n e row he hrow hrefuses
    have hchannels : kind ≠ .tcdsTtsChannels := by
      rintro rfl
      obtain ⟨r, hr, hr'⟩ := Table.exists_route_of_row? hrow
      obtain rfl := List.mem_singleton.1 hr
      rw [Route.row?_eq_none List.not_mem_nil] at hr'
      cases hr'
    have haside : Table.aside session kind f.rows s n e
        = if kind = .ru then Effect.clearing s n e else e := by
      cases kind <;> first | rfl | exact absurd rfl hchannels
    have hfixed : s.fixed (if kind = .ru then Effect.clearing s n e else e) = s.fixed e := by
      split
      · exact Effect.fixed_clearing s n e
      · rfl
    rw [getElem?_dispatch session g hkind he, hrow, haside, TargetSort.take_of_refuses]
    rw [TargetSort.refuses_congr hfixed, hrefuses]
  · rintro service context rfl htcds
    have hgraph : (dispatch session g f).graph = g.apply (.channels service context f.rows) := by
      rw [dispatch_graph session g hkind]
      unfold Table.effect Table.effectOn plan
      simp only [List.foldr_cons, List.foldr_nil, Route.effect, htcds]
      rfl
    refine ⟨fun n p hp hunreadable => ?_, fun type hunreadable => ?_⟩
    · have hentity : (g.entities .ttcPartition)[n]? = some p := hp
      change ((dispatch session g f).graph.entities .ttcPartition)[n]? = some p
      rw [hgraph, Graph.entities_apply, List.getElem?_mapIdx, hentity, Option.map_some]
      exact congrArg some (partitionAfter_of_unreadable hunreadable)
    · rw [hgraph]
      exact find?_takeOutputs_of_unreadable hunreadable g.tcds.globalTtsStates

end Dispatch

/-- A FED that is flagged, and the only row of the readout units lists it, but has no list in another
    column: the row is refused, and the FED is no longer flagged. -/
theorem dispatch_changes_refusing_fed :
    let fed : Fed := { uid := ⟨2⟩, id := 7, expectedId := 7, state := { inError := true } }
    let g : Graph := Graph.indexed { uid := ⟨1⟩, feds := [fed] }
    let row : Row :=
      .object [("fedIdsWithErrors", .list [.ofNat 7]), ("fedIdsWithoutFragments", .text "x")]
    let f : Flashlist := .ofKind .ru [row]
    f.dispatchKind? = some .ru ∧ (g.entities .fed)[0]? = some fed ∧
      Table.row? {} g f.rows .fed 0 .ru = some row ∧ TargetSort.fed.refuses .ru row fed = true ∧
      ((dispatch {} g f).graph.entities .fed)[0]? ≠ some fed := by
  intro fed g row f
  refine ⟨rfl, rfl, rfl, rfl, ?_⟩
  have hflag : ((dispatch {} g f).graph.entities .fed)[0]?.map (·.state.inError) = some false := rfl
  intro hsame
  rw [hsame] at hflag
  exact absurd hflag (by decide)

/-- A refused row of the readout units, and a channel that carries no number. -/
theorem dispatch_of_refused_lists_and_channel :
    let fed : Fed := { uid := ⟨2⟩, id := 7, expectedId := 7, state := { inError := true } }
    let partition : TtcPartition :=
      { uid := ⟨3⟩, name := "TK", number := 1, tcds := { pmNumber := 1, iciNumber := 2 }
        tcdsPmTtsState := some "READY" }
    let g : Graph := Graph.indexed { uid := ⟨1⟩, feds := [fed], ttcPartitions := [partition] }
    let session : Session := ({} : Session).withTcds "pm" "http://pm"
    let row : Row :=
      .object [("fedIdsWithErrors", .list [.ofNat 7]), ("fedIdsWithoutFragments", .text "x")]
    let channel (type : String) (pmNumber iciNumber : Nat) : Row :=
      .object [("service", .text "pm"), ("type", .text type), ("pm_number", .ofNat pmNumber),
        ("ici_number", .ofNat iciNumber), ("value", .text "x")]
    let lists : Flashlist := .ofKind .ru [row]
    let states : Flashlist := .ofKind .tcdsTtsChannels [channel "tts_ici" 1 2, channel "tts_all" 0 0]
    (lists.dispatchKind? = some .ru ∧ (g.entities .fed)[0]? = some fed ∧
      Table.row? session g lists.rows .fed 0 .ru = some row ∧
      TargetSort.fed.refuses .ru row fed = true ∧
      ((dispatch session g lists).graph.entities .fed)[0]? = some fed.clearProblems) ∧
    states.dispatchKind? = some .tcdsTtsChannels ∧ session.tcds? = some ("pm", "http://pm") ∧
      g.ttcPartitions[0]? = some partition ∧
      partition.Unreadable (Channels.ofRows states.rows) "pm" ∧
      (Channels.ofRows states.rows).Unreadable readGlobalState (.make "pm" "tts_all" 0 0) ∧
      (dispatch session g states).graph.ttcPartitions[0]? = some partition ∧
      (dispatch session g states).graph.tcds.globalTtsStates.find? "tts_all"
        = g.tcds.globalTtsStates.find? "tts_all" := by
  intro fed partition g session row channel lists states
  have hlists : lists.dispatchKind? = some .ru := rfl
  have hstates : states.dispatchKind? = some .tcdsTtsChannels := rfl
  have hfed : (g.entities .fed)[0]? = some fed := rfl
  have hrow : Table.row? session g lists.rows .fed 0 .ru = some row := rfl
  have hrefuses : TargetSort.fed.refuses .ru row fed = true := rfl
  have hpartition : partition.Unreadable (Channels.ofRows states.rows) "pm" :=
    ⟨rfl, .inl ⟨_, _, rfl, rfl⟩⟩
  have houtput : (Channels.ofRows states.rows).Unreadable readGlobalState
      (.make "pm" "tts_all" 0 0) := ⟨_, _, rfl, rfl⟩
  have hrefused := (dispatch_of_refused session g hlists).1 .fed 0 fed row hfed hrow hrefuses
  have hchannels := (dispatch_of_refused session g hstates).2 "pm" "http://pm" rfl rfl
  exact ⟨⟨hlists, hfed, hrow, hrefuses, hrefused⟩, hstates, rfl, rfl, hpartition, houtput,
    hchannels.1 0 partition rfl hpartition, hchannels.2 "tts_all" houtput⟩

end DaqMonitor
