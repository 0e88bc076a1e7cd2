/-
  DaqMonitor.Cycle.TtsChannels

  The table of TTS channels of a TCDS partition manager.

  Each row is a channel, addressed by the service, the type of the channel and two
  numbers. Of rows with one address the last one stands. Channels of two types
  belong to single partitions: one carries the state of the partition itself, the
  other that of the emulator in front of it. Every other type is a global output,
  whose state is that of its channel (0, 0).

    * `Channels.ofRows rows` — the rows that have an address.
    * `Channels.at? channels address` — the row that stands for an address.
    * `applyTtsChannels g session rows` — the graph after such a table.
-/
import DaqMonitor.Cycle.Notice
import DaqMonitor.Cycle.Session
import DaqMonitor.Graph.Basic

namespace DaqMonitor

open Flashlist

/-! ## States -/

/-- The name of the state with the given code. -/
def ttsStateOfCode (code : Int64) : String :=
  if code = 0 then "DISCONNECTED"
  else if code = 1 then "WARNING"
  else if code = 2 then "OUT_OF_SYNC"
  else if code = 4 then "BUSY"
  else if code = 8 then "READY"
  else if code = 12 then "ERROR"
  else if code = 15 then "DISCONNECTED"
  else "INVALID"

/-- The state that a row carries. -/
def readTtsState (row : Row) : Except RowError String := (row.integer "value").map ttsStateOfCode

/-- The state of an emulator; one that is labelled as unused has the state `x`. -/
def readEmulatorState (row : Row) : Except RowError String := do
  let label ← row.text "label"
  if Text.equalsFolded label "Unused" then .ok "x" else readTtsState row

/-- The state of a global output; without fractions in the row its percentages are zero. -/
def readGlobalState (row : Row) : Except RowError GlobalTtsState := do
  let state ← readTtsState row
  let percentBusy ← row.optional "outputFractionBusy" 0.0 Row.double
  let percentWarning ← row.optional "outputFractionWarning" 0.0 Row.double
  .ok { state, percentBusy, percentWarning }

/-! ## Channels -/

/-- The address of a channel. The service is in lower case. -/
structure ChannelAddress where
  service : String
  type : String
  pmNumber : Int64
  iciNumber : Int64
  deriving DecidableEq

/-- An address, for a service in any case. -/
def ChannelAddress.make (service type : String) (pmNumber iciNumber : Int64) : ChannelAddress :=
  { service := Text.lowerLatin service, type, pmNumber, iciNumber }

/-- The address of a row. -/
def ChannelAddress.ofRow (row : Row) : Except RowError ChannelAddress := do
  let service ← row.text "service"
  let type ← row.text "type"
  let pmNumber ← row.integer "pm_number"
  let iciNumber ← row.integer "ici_number"
  .ok (.make service type pmNumber iciNumber)

/-- A row with an address, and its number in the table. -/
structure Channel where
  address : ChannelAddress
  number : Nat
  row : Row

/-- The rows with an address, in order. -/
abbrev Channels := List Channel

namespace Channels

/-- The rows of a table that have an address. -/
def ofRows (rows : List Row) : Channels :=
  rows.zipIdx.filterMap fun r =>
    match ChannelAddress.ofRow r.1 with
    | .ok address => some { address, number := r.2, row := r.1 }
    | .error _ => none

/-- The channel at an address: the last row with it. -/
def at? (channels : Channels) (address : ChannelAddress) : Option Channel :=
  channels.reverse.find? fun c => c.address = address

/-- The channels of a service. -/
def ofService (channels : Channels) (service : String) : Channels :=
  channels.filter fun c => c.address.service == Text.lowerLatin service

/-- The types of channels that a service has, in order and each once. -/
def types (channels : Channels) (service : String) : List String :=
  (SortedMap.ofList ((channels.ofService service).map fun c => (c.address.type, ()))).keys

/-- The number of addresses. -/
def addressCount (channels : Channels) : Nat :=
  (channels.map (·.address)).eraseDups.length

end Channels

/-! ## Partitions and global outputs -/

/-- The type of the channels with the states of partitions. -/
def partitionType : String := "tts_ici"

/-- The type of the channels with the states of the emulators in front of partitions. -/
def emulatorType : String := "tts_apve"

/-- What comes of a part of the table. -/
structure TtsPart (α : Type) where
  value : α
  /-- The numbers of the rows that were looked at. -/
  used : List Nat := []
  error : Option RowError := none

/-- Reads the state of a channel, where there is one. -/
def readChannel? (read : Row → Except RowError String) (channel : Option Channel) :
    Except RowError (Option String) :=
  match channel with
  | none => .ok none
  | some c => (read c.row).map some

/-- What becomes of a partition. One without a place in the TCDS has the cause of that as both of
    its states. A channel that is absent leaves its state as it is, and one that cannot be read
    leaves both. -/
def partitionAfter (channels : Channels) (service : String) (p : TtcPartition) :
    TtsPart TtcPartition :=
  match p.tcds.nullCause with
  | some cause =>
    { value := { p with tcdsPmTtsState := some cause, tcdsApvPmTtsState := some cause } }
  | none =>
    let channel (type : String) : Option Channel :=
      channels.at? (.make service type p.tcds.pmNumber p.tcds.iciNumber)
    let own := channel partitionType
    let emulator := channel emulatorType
    let used := (own.toList ++ emulator.toList).map (·.number)
    match readChannel? readTtsState own, readChannel? readEmulatorState emulator with
    | .ok ownState, .ok emulatorState =>
      { value := { p with
          tcdsPmTtsState := ownState.or p.tcdsPmTtsState
          tcdsApvPmTtsState := emulatorState.or p.tcdsApvPmTtsState }
        used }
    -- The rows were looked at even if one of them cannot be read.
    | .error e, _ => { value := p, used, error := some e }
    | _, .error e => { value := p, used, error := some e }

/-- What becomes of the global output of a type. Without a channel (0, 0) it has no state to
    take. -/
def globalOutput (channels : Channels) (service type : String) :
    TtsPart (Option GlobalTtsState) :=
  match channels.at? (.make service type 0 0) with
  | none => { value := none }
  | some c =>
    match readGlobalState c.row with
    | .ok state => { value := some state, used := [c.number] }
    | .error e => { value := none, used := [c.number], error := some e }

/-- What comes of a whole table. -/
structure TtsResult where
  graph : Graph
  /-- The rows of the service that were looked at. -/
  matched : Nat
  /-- The rows of the service that were not. -/
  unmatched : Nat
  /-- The partitions and outputs that could not be read. -/
  failed : Nat
  notices : List Notice

/-- The graph after a table of TTS channels; `none` without a TCDS partition manager. -/
def applyTtsChannels (g : Graph) (session : Session) (rows : List Row) : Option TtsResult :=
  session.tcds?.map fun (service, context) =>
    let channels := Channels.ofRows rows
    let partitions := g.ttcPartitions.map (partitionAfter channels service)
    -- All types but those of partitions are those of global outputs.
    let types := (channels.types service).filter fun t => t != partitionType && t != emulatorType
    let outputs := types.map fun type => (type, globalOutput channels service type)
    let used := (partitions.flatMap (·.used) ++ outputs.flatMap (·.2.used)).eraseDups
    let partitionNotices := partitions.filterMap fun p =>
      p.error.map (Notice.partitionUnreadable p.value.name)
    let outputNotices := outputs.filterMap fun o =>
      o.2.error.map (Notice.globalOutputUnreadable o.1)
    { graph := { g with
        ttcPartitions := partitions.map (·.value)
        tcds := { g.tcds with
          serviceName := some service
          serviceContext := some context
          globalTtsStates := outputs.foldl (fun states o =>
            match o.2.value with
            | some state => states.insert o.1 state
            | none => states) g.tcds.globalTtsStates } }
      matched := used.length
      unmatched := (channels.ofService service).length - used.length
      failed := partitionNotices.length + outputNotices.length
      notices := partitionNotices ++ outputNotices }

end DaqMonitor
