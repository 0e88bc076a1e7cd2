/-
  DaqMonitor.Flashlist.Kind

  The kinds of flashlists that the monitor knows.

  A flashlist is a table that one service of the data acquisition publishes over
  and over. Its kind is recognised by the name it is published under, with or
  without the scheme in front, or by the short name that reports use. Flashlists
  of other names are nobody's business and are left alone.
-/
import DaqMonitor.SortedMap
import DaqMonitor.Text.Basic

namespace DaqMonitor.Flashlist

/-- The kinds of flashlists. -/
inductive Kind where
  /-- Readout units. -/
  | ru
  /-- The event manager, which is a readout unit of its own kind. -/
  | evm
  /-- Builder units. -/
  | bu
  /-- Counters of the streams of FEROL cards. -/
  | ferolInputStream
  /-- Inputs of FMMs, one row for each FED. -/
  | fmmInput
  /-- States of FEROL cards. -/
  | ferolStatus
  /-- Which streams of FEROL cards are enabled. -/
  | ferolConfiguration
  /-- Links of FRL controllers. -/
  | frlMonitoring
  /-- Outputs of FMMs. -/
  | fmmStatus
  /-- Which processes are alive. -/
  | jobControl
  /-- The level-zero function manager: what does not change. -/
  | levelZeroStatic
  /-- The level-zero function manager: states of subsystems. -/
  | levelZeroSubsystems
  /-- The level-zero function manager: values of the run. -/
  | levelZeroDynamic
  /-- Trigger counts of the TCDS. -/
  | tcdsCounts
  /-- Deadtimes of the TCDS. -/
  | tcdsDeadtimes
  /-- Trigger rates of the TCDS. -/
  | tcdsRates
  /-- Counts of the actions of a TCDS partition manager. -/
  | tcdsActionCounts
  /-- TTS channels of a TCDS partition manager. -/
  | tcdsTtsChannels
  /-- Counters of the streams of FEROL40 cards. -/
  | ferol40InputStream
  /-- Which streams of FEROL40 cards are enabled. -/
  | ferol40StreamConfiguration
  /-- States of FEROL40 cards. -/
  | ferol40Status
  /-- Configurations of FEROL40 cards. -/
  | ferol40Configuration
  deriving DecidableEq, Repr, Inhabited

namespace Kind

/-- All kinds, in the order of reports. -/
def all : List Kind :=
  [.ru, .evm, .bu, .ferolInputStream, .fmmInput, .ferolStatus, .ferolConfiguration,
    .frlMonitoring, .fmmStatus, .jobControl, .levelZeroStatic, .levelZeroSubsystems,
    .levelZeroDynamic, .tcdsCounts, .tcdsDeadtimes, .tcdsRates, .tcdsActionCounts,
    .tcdsTtsChannels, .ferol40InputStream, .ferol40StreamConfiguration, .ferol40Status,
    .ferol40Configuration]

theorem mem_all (kind : Kind) : kind ∈ all := by cases kind <;> decide

/-- The position of a kind among all kinds. -/
def ordinal (kind : Kind) : Nat := kind.ctorIdx

theorem all_ordinal (kind : Kind) : all[kind.ordinal]? = some kind := by cases kind <;> rfl

theorem ordinal_injective {a b : Kind} (h : a.ordinal = b.ordinal) : a = b :=
  Option.some.inj (by rw [← all_ordinal a, ← all_ordinal b, h])

instance : Ord Kind := ⟨compareOn ordinal⟩

instance : Std.TransOrd Kind := inferInstanceAs (Std.TransCmp (compareOn ordinal))

instance : Std.LawfulEqOrd Kind where
  eq_of_compare h := ordinal_injective (Std.LawfulEqOrd.eq_of_compare (α := Nat) h)

/-! ## Names -/

/-- The name of a kind in reports and messages. -/
def shortName : Kind → String
  | ru => "RU"
  | evm => "EVM"
  | bu => "BU"
  | ferolInputStream => "FEROL_INPUT_STREAM"
  | fmmInput => "FMM_INPUT"
  | ferolStatus => "FEROL_STATUS"
  | ferolConfiguration => "FEROL_CONFIGURATION"
  | frlMonitoring => "FRL_MONITORING"
  | fmmStatus => "FMM_STATUS"
  | jobControl => "JOB_CONTROL"
  | levelZeroStatic => "LEVEL_ZERO_FM_STATIC"
  | levelZeroSubsystems => "LEVEL_ZERO_FM_SUBSYS"
  | levelZeroDynamic => "LEVEL_ZERO_FM_DYNAMIC"
  | tcdsCounts => "TCDS_CPM_COUNTS"
  | tcdsDeadtimes => "TCDS_CPM_DEADTIMES"
  | tcdsRates => "TCDS_CPM_RATES"
  | tcdsActionCounts => "TCDS_PM_ACTION_COUNTS"
  | tcdsTtsChannels => "TCDS_PM_TTS_CHANNEL"
  | ferol40InputStream => "FEROL40_INPUT_STREAM"
  | ferol40StreamConfiguration => "FEROL40_STREAM_CONFIGURATION"
  | ferol40Status => "FEROL40_STATUS"
  | ferol40Configuration => "FEROL40_CONFIGURATION"

/-- The name under which a kind is published, its scheme left out. -/
def bareName : Kind → String
  | ru => "RU"
  | evm => "EVM"
  | bu => "BU"
  | ferolInputStream => "ferolInputStream"
  | fmmInput => "FMMInput"
  | ferolStatus => "ferolStatus"
  | ferolConfiguration => "ferolConfiguration"
  | frlMonitoring => "frlcontrollerLink"
  | fmmStatus => "FMMStatus"
  | jobControl => "jobcontrol"
  | levelZeroStatic => "levelZeroFM_static"
  | levelZeroSubsystems => "levelZeroFM_subsys"
  | levelZeroDynamic => "levelZeroFM_dynamic"
  | tcdsCounts => "tcds_cpm_counts"
  | tcdsDeadtimes => "tcds_cpm_deadtimes"
  | tcdsRates => "tcds_cpm_rates"
  | tcdsActionCounts => "tcds_pm_action_counts"
  | tcdsTtsChannels => "tcds_pm_tts_channel"
  | ferol40InputStream => "ferol40InputStream"
  | ferol40StreamConfiguration => "ferol40StreamConfiguration"
  | ferol40Status => "ferol40Status"
  | ferol40Configuration => "ferol40Configuration"

/-- What stands in front of the bare name of a published flashlist. -/
def scheme : String := "urn:xdaq-flashlist:"

/-- The name under which a kind is published. -/
def publishedName (kind : Kind) : String := scheme ++ kind.bareName

/-- The kind of the flashlist of the given name. Blanks around the name do not count. -/
def ofName? (name : String) : Option Kind :=
  let name := Text.trim name
  let bare := (Text.dropLeading? scheme name).getD name
  all.find? fun kind => kind.shortName == name || kind.bareName == bare

/-- The kind with the given short name, to the letter. -/
def ofShortName? (name : String) : Option Kind := all.find? fun kind => kind.shortName == name

/-! ## Order within a cycle -/

/-- Kinds of lower priority number are dispatched first. The values of the run hold the session that
    the states of the subsystems are filtered by, so they come before everything else. -/
def priority : Kind → Nat
  | levelZeroDynamic => 0
  | _ => 1

end Kind

end DaqMonitor.Flashlist
