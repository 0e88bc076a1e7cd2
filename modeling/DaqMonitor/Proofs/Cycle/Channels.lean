/-
  DaqMonitor.Proofs.Cycle.Channels

  Which rows of a table of TTS channels are used.

  A row is used if it is a channel of the service, stands for its address, and if
  someone wants that address: a partition with a place in the TCDS, or a global
  output. Partitions may share an address, and one row may serve many of them; it
  is counted once.

    * `isChannelOf service row` — the rows that are counted.
    * `Channels.outputTypes` — the types of the global outputs.
    * `Graph.uses` — the rows that are used.
    * `Graph.mem_usedRows` — the rows whose numbers are noted while the table is applied.
-/
import DaqMonitor.Proofs.Cycle.Routes
import DaqMonitor.Proofs.Matching.Counting

namespace DaqMonitor

open Flashlist

/-! ## Rows and channels -/

/-- Whether a row is a channel of the service: one with an address, and that of the service. -/
def isChannelOf (service : String) (row : Row) : Bool :=
  match ChannelAddress.ofRow row with
  | .ok address => address.service == Text.lowerLatin service
  | .error _ => false

/-- Whether an address is that of a partition with a place in the TCDS, or that of a global
    output. -/
def Graph.wants (g : Graph) (address : ChannelAddress) : Bool :=
  if address.type = partitionType ∨ address.type = emulatorType then
    g.ttcPartitions.any fun p =>
      p.tcds.nullCause.isNone && p.tcds.pmNumber == address.pmNumber &&
        p.tcds.iciNumber == address.iciNumber
  else address.pmNumber == 0 && address.iciNumber == 0

/-- Whether a row of a table is used: it is the last channel with its address, of the service, and
    someone wants that address. -/
def Graph.uses (g : Graph) (service : String) (rows : List Row) (n : Nat) (row : Row) : Bool :=
  match ChannelAddress.ofRow row with
  | .ok address =>
    address.service == Text.lowerLatin service && g.wants address &&
      ((Channels.ofRows rows).at? address).any (·.number == n)
  | .error _ => false

namespace Channels

section Rows

variable {rows : List Row} {c : Channel}

/-- The channels of a table are its rows with an address. -/
theorem mem_ofRows :
    c ∈ ofRows rows ↔ rows[c.number]? = some c.row ∧ ChannelAddress.ofRow c.row = .ok c.address := by
  simp only [ofRows, List.mem_filterMap]
  constructor
  · rintro ⟨⟨row, n⟩, hmem, hc⟩
    cases haddress : ChannelAddress.ofRow row with
    | error error => simp [haddress] at hc
    | ok address =>
      simp only [haddress, Option.some.injEq] at hc
      subst hc
      exact ⟨List.mem_zipIdx_iff_getElem?.1 hmem, haddress⟩
  · rintro ⟨hrow, haddress⟩
    exact ⟨(c.row, c.number), List.mem_zipIdx_iff_getElem?.2 hrow, by simp only [haddress]⟩

theorem of_at?_eq_some {channels : Channels} {address : ChannelAddress}
    (h : channels.at? address = some c) : c ∈ channels ∧ c.address = address := by
  refine ⟨List.mem_reverse.1 (List.mem_of_find?_eq_some h), ?_⟩
  have hfound := List.find?_some h
  exact of_decide_eq_true hfound

theorem mem_types {channels : Channels} {service type : String} :
    type ∈ channels.types service ↔
      ∃ c ∈ channels, c.address.service = Text.lowerLatin service ∧ c.address.type = type := by
  rw [types, SortedMap.mem_keys_iff, SortedMap.find?_ofList, Option.isSome_map, List.find?_isSome]
  simp only [ofService, List.mem_reverse, List.mem_map, List.mem_filter, beq_iff_eq]
  constructor
  · rintro ⟨_, ⟨c, ⟨hc, hservice⟩, rfl⟩, htype⟩
    exact ⟨c, hc, hservice, of_decide_eq_true htype⟩
  · rintro ⟨c, hc, hservice, htype⟩
    exact ⟨(type, ()), ⟨c, ⟨hc, hservice⟩, by rw [htype]⟩, decide_eq_true rfl⟩

/-- The channels of a service are the rows that are channels of it. -/
theorem numbers_ofService (rows : List Row) (service : String) :
    ((ofRows rows).ofService service).map (·.number)
      = (rows.zipIdx.filter fun r => isChannelOf service r.1).map (·.2) := by
  unfold ofRows ofService
  rw [List.filter_filterMap, List.map_filterMap, ← List.filterMap_eq_map, List.filterMap_filter]
  congr 1
  funext r
  unfold isChannelOf
  cases ChannelAddress.ofRow r.1 with
  | error error => rfl
  | ok address =>
    by_cases hservice : address.service = Text.lowerLatin service <;> simp [hservice]

end Rows

end Channels

/-! ## Global outputs -/

/-- A type of channels is that of a global output, and of no partition. -/
def IsOutput (type : String) : Prop := type ≠ partitionType ∧ type ≠ emulatorType

/-- The types of the global outputs of a service, in order. -/
def Channels.outputTypes (channels : Channels) (service : String) : List String :=
  (channels.types service).filter fun t => t != partitionType && t != emulatorType

section Outputs

variable {channels : Channels} {service type : String}

theorem Channels.mem_outputTypes :
    type ∈ channels.outputTypes service ↔ type ∈ channels.types service ∧ IsOutput type := by
  simp only [outputTypes, List.mem_filter, Bool.and_eq_true, bne_iff_ne, IsOutput]

theorem Channels.nodup_outputTypes : (channels.outputTypes service).Nodup :=
  (SortedMap.nodup_keys _).filter _

theorem globalOutputs_eq (channels : Channels) (service : String) :
    globalOutputs channels service
      = (channels.outputTypes service).map fun t => (t, globalOutput channels service t) := rfl

/-- A type of the service gets its own state. -/
theorem outputState?_globalOutputs {state : GlobalTtsState} :
    outputState? (globalOutputs channels service) type = some state ↔
      type ∈ channels.outputTypes service ∧ (globalOutput channels service type).value = some state := by
  have hsound : ∀ {state}, outputState? (globalOutputs channels service) type = some state →
      type ∈ channels.outputTypes service ∧
        (globalOutput channels service type).value = some state := by
    intro state hstate
    obtain ⟨o, ho, hfound⟩ := List.exists_of_findSome?_eq_some hstate
    obtain ⟨t, ht, rfl⟩ := List.mem_map.1 (List.mem_reverse.1 ho)
    obtain ⟨htype, hvalue⟩ := Option.ite_none_right_eq_some.1 hfound
    obtain rfl : t = type := htype
    exact ⟨ht, hvalue⟩
  refine ⟨hsound, fun ⟨htype, hvalue⟩ => ?_⟩
  -- Some state is found, and it can be no other one.
  have hsome : (outputState? (globalOutputs channels service) type).isSome := by
    rw [outputState?, List.findSome?_isSome_iff]
    refine ⟨(type, globalOutput channels service type), ?_, ?_⟩
    · rw [globalOutputs_eq, List.mem_reverse]
      exact List.mem_map_of_mem htype
    · rw [if_pos rfl, hvalue, Option.isSome_some]
  obtain ⟨state', hstate'⟩ := Option.isSome_iff_exists.1 hsome
  rw [hstate', ← (hsound hstate').2, hvalue]

end Outputs

/-! ## Used rows -/

section Used

variable (g : Graph) (service : String) (rows : List Row) {n : Nat}

/-- The rows that a partition uses: those for its two addresses. -/
theorem mem_used_partitionAfter {channels : Channels} {p : TtcPartition} :
    n ∈ (partitionAfter channels service p).used ↔
      p.tcds.nullCause = none ∧ ∃ type, (type = partitionType ∨ type = emulatorType) ∧
        ∃ c, channels.at? (.make service type p.tcds.pmNumber p.tcds.iciNumber) = some c ∧
          c.number = n := by
  cases hcause : p.tcds.nullCause with
  | some cause => simp [partitionAfter, hcause]
  | none =>
    have hused : (partitionAfter channels service p).used
        = ((channels.at? (.make service partitionType p.tcds.pmNumber p.tcds.iciNumber)).toList ++
            (channels.at? (.make service emulatorType p.tcds.pmNumber
              p.tcds.iciNumber)).toList).map (·.number) := by
      simp only [partitionAfter, hcause]
      -- What is used does not hang on whether the channels can be read.
      split <;> rfl
    simp only [hused, List.mem_map, List.mem_append, Option.mem_toList, true_and]
    constructor
    · rintro ⟨c, hc | hc, rfl⟩
      · exact ⟨_, .inl rfl, c, hc, rfl⟩
      · exact ⟨_, .inr rfl, c, hc, rfl⟩
    · rintro ⟨_, rfl | rfl, c, hc, rfl⟩
      · exact ⟨c, .inl hc, rfl⟩
      · exact ⟨c, .inr hc, rfl⟩

/-- The row that a global output uses: that for its address. -/
theorem mem_used_globalOutput {channels : Channels} {type : String} :
    n ∈ (globalOutput channels service type).used ↔
      ∃ c, channels.at? (.make service type 0 0) = some c ∧ c.number = n := by
  unfold globalOutput
  cases channels.at? (.make service type 0 0) with
  | none => simp
  | some c =>
    simp only [Option.some.injEq, exists_eq_left']
    split <;> simp [eq_comm]

/-- The numbers of the rows that are used. -/
def Graph.usedRows : List Nat :=
  let channels := Channels.ofRows rows
  ((g.ttcPartitions.map (partitionAfter channels service)).flatMap (·.used) ++
    (globalOutputs channels service).flatMap (·.2.used)).eraseDups

theorem Graph.nodup_usedRows : (g.usedRows service rows).Nodup := nodup_eraseDups _

theorem Graph.wants_iff {address : ChannelAddress} :
    g.wants address = true ↔
      ((address.type = partitionType ∨ address.type = emulatorType) ∧
        ∃ p ∈ g.ttcPartitions, p.tcds.nullCause = none ∧ p.tcds.pmNumber = address.pmNumber ∧
          p.tcds.iciNumber = address.iciNumber) ∨
      (¬ (address.type = partitionType ∨ address.type = emulatorType) ∧
        address.pmNumber = 0 ∧ address.iciNumber = 0) := by
  unfold wants
  by_cases htype : address.type = partitionType ∨ address.type = emulatorType
  · simp only [htype, if_true, List.any_eq_true, Bool.and_eq_true, Option.isNone_iff_eq_none,
      beq_iff_eq, true_and, not_true, false_and, or_false, and_assoc]
  · simp only [htype, if_false, Bool.and_eq_true, beq_iff_eq, false_and, not_false_iff, true_and,
      false_or]

/-- An address of a service is the one that is made for it. -/
theorem ChannelAddress.eq_make {address : ChannelAddress}
    (hservice : address.service = Text.lowerLatin service) :
    address = .make service address.type address.pmNumber address.iciNumber := by
  rw [make, ← hservice]

/-- A row that stands for an address that is wanted is used. -/
theorem Graph.uses_of_at? {address : ChannelAddress} {c : Channel}
    (hservice : address.service = Text.lowerLatin service) (hwants : g.wants address = true)
    (hc : (Channels.ofRows rows).at? address = some c) :
    ∃ row, rows[c.number]? = some row ∧ g.uses service rows c.number row = true := by
  obtain ⟨hmem, rfl⟩ := Channels.of_at?_eq_some hc
  obtain ⟨hrow, haddress⟩ := Channels.mem_ofRows.1 hmem
  refine ⟨c.row, hrow, ?_⟩
  simp [uses, haddress, hservice, hwants, hc]

/-- The rows that are used are those that stand for an address that is wanted. -/
theorem Graph.mem_usedRows :
    n ∈ g.usedRows service rows ↔
      ∃ row, rows[n]? = some row ∧ g.uses service rows n row = true := by
  simp only [usedRows, globalOutputs_eq, List.mem_eraseDups, List.mem_append, List.mem_flatMap,
    List.mem_map, Channels.mem_outputTypes]
  constructor
  · rintro (⟨_, ⟨p, hp, rfl⟩, hused⟩ | ⟨_, ⟨type, ⟨-, htype⟩, rfl⟩, hused⟩)
    · obtain ⟨hcause, type, htype, c, hc, rfl⟩ := (mem_used_partitionAfter service).1 hused
      exact g.uses_of_at? service rows rfl (g.wants_iff.2 (.inl ⟨htype, p, hp, hcause, rfl, rfl⟩)) hc
    · obtain ⟨c, hc, rfl⟩ := (mem_used_globalOutput service).1 hused
      have houtput : ¬ (type = partitionType ∨ type = emulatorType) := not_or.2 htype
      exact g.uses_of_at? service rows rfl (g.wants_iff.2 (.inr ⟨houtput, rfl, rfl⟩)) hc
  · rintro ⟨row, hrow, huses⟩
    cases haddress : ChannelAddress.ofRow row with
    | error error => simp [uses, haddress] at huses
    | ok address =>
      simp only [uses, haddress, Bool.and_eq_true, beq_iff_eq, Option.any_eq_true] at huses
      obtain ⟨⟨hservice, hwants⟩, c, hc, rfl⟩ := huses
      rcases g.wants_iff.1 hwants with ⟨htype, p, hp, hcause, hpm, hici⟩ | ⟨htype, hpm, hici⟩
      · -- A partition wants the address.
        left
        refine ⟨_, ⟨p, hp, rfl⟩, (mem_used_partitionAfter service).2 ?_⟩
        refine ⟨hcause, address.type, htype, c, ?_, rfl⟩
        rw [hpm, hici, ← ChannelAddress.eq_make service hservice]
        exact hc
      · -- It is that of a global output, whose type occurs because the row has it.
        right
        obtain ⟨hmem, heq⟩ := Channels.of_at?_eq_some hc
        refine ⟨_, ⟨address.type, ⟨?_, ?_⟩, rfl⟩, (mem_used_globalOutput service).2 ⟨c, ?_, rfl⟩⟩
        · exact Channels.mem_types.2 ⟨c, hmem, by rw [heq, hservice], by rw [heq]⟩
        · exact not_or.1 htype
        · have hmake := ChannelAddress.eq_make service hservice
          rw [hpm, hici] at hmake
          rw [← hmake]
          exact hc

/-- Only channels of the service are used. -/
theorem isChannelOf_of_uses {row : Row} (huses : g.uses service rows n row = true) :
    isChannelOf service row = true := by
  unfold isChannelOf
  cases haddress : ChannelAddress.ofRow row with
  | error error => simp [Graph.uses, haddress] at huses
  | ok address =>
    simp only [Graph.uses, haddress, Bool.and_eq_true] at huses
    exact huses.1.1

end Used

end DaqMonitor
