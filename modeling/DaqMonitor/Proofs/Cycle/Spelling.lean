/-
  DaqMonitor.Proofs.Cycle.Spelling

  TCDS tables of a service that is spelled in another way.

  The name of a TCDS service is the same in any case of its Latin letters. The
  tables of a service look for it in two ways: some take the first row with a name
  that compares equal to that of the session, the table of TTS channels keeps a
  channel for each address with the name in lower case. Both ways come to the same:
  whatever the spellings in the session and in the rows, the same is recorded, and
  the graph is the same. Only the name of the service in the graph is in the
  spelling of the session.

    * `Row.SameButService`, `Session.SameTcds` — rows and sessions with the same
      service.
    * `Monitor.dispatch_of_sameService` — what is left of the spelling.
-/
import DaqMonitor.Cycle.Monitor
import DaqMonitor.Proofs.Cycle.Independence
import DaqMonitor.Proofs.Cycle.Tables
import DaqMonitor.Proofs.Failing
import DaqMonitor.Proofs.Text.Folding

namespace DaqMonitor

open Flashlist Matching Text

/-! ## Related lists -/

section Related

variable {α β : Type} {R : α → β → Prop} {as : List α} {bs : List β} (h : List.Forall₂ R as bs)

include h

theorem getElem?_of_forall₂ (n : Nat) : Option.Rel R as[n]? bs[n]? := by
  induction h generalizing n with
  | nil => exact .none
  | cons hfirst _ ih =>
    cases n with
    | zero => exact .some hfirst
    | succ n => simpa using ih n

theorem zipIdx_of_forall₂ (n : Nat) :
    List.Forall₂ (fun a b => R a.1 b.1 ∧ a.2 = b.2) (as.zipIdx n) (bs.zipIdx n) := by
  induction h generalizing n with
  | nil => exact .nil
  | cons hfirst _ ih => exact .cons ⟨hfirst, rfl⟩ (ih (n + 1))

theorem map_of_forall₂ {γ : Type} {f : α → γ} {f' : β → γ} (hf : ∀ a b, R a b → f a = f' b) :
    as.map f = bs.map f' := by
  induction h with
  | nil => rfl
  | cons hfirst _ ih => rw [List.map_cons, List.map_cons, hf _ _ hfirst, ih]

variable {p : α → Bool} {q : β → Bool} (hpq : ∀ a b, R a b → p a = q b)

include hpq

theorem find?_of_forall₂ : Option.Rel R (as.find? p) (bs.find? q) := by
  induction h with
  | nil => exact .none
  | cons hfirst _ ih =>
    rw [List.find?_cons, List.find?_cons, hpq _ _ hfirst]
    split
    · exact .some hfirst
    · exact ih

theorem findIdx?_of_forall₂ : as.findIdx? p = bs.findIdx? q := by
  induction h with
  | nil => rfl
  | cons hfirst _ ih => rw [List.findIdx?_cons, List.findIdx?_cons, hpq _ _ hfirst, ih]

end Related

/-! ## Rows -/

/-- Rows that are equal but for the case of the Latin letters in the text of their service. -/
structure Flashlist.Row.SameButService (row row' : Row) : Prop where
  service : row.find? "service" = row'.find? "service" ∨
    ∃ s s', row.find? "service" = some (.text s) ∧ row'.find? "service" = some (.text s') ∧
      SameButCase s s'
  others : ∀ column, column ≠ "service" → row.find? column = row'.find? column

namespace Flashlist.Row.SameButService

variable {row row' : Row} (h : row.SameButService row')

include h

section Columns

variable {column : String} (hcolumn : column ≠ "service")

include hcolumn

theorem read_eq {α : Type} (wanted : Wanted) (as? : Json → Option α) :
    row.read wanted as? column = row'.read wanted as? column := by
  simp only [Row.read, Row.value, h.others column hcolumn]

theorem text_eq : row.text column = row'.text column := h.read_eq hcolumn .text asText?

theorem integer_eq : row.integer column = row'.integer column :=
  h.read_eq hcolumn .integer asInteger?

theorem double_eq : row.double column = row'.double column := h.read_eq hcolumn .double asDouble?

theorem count_eq : row.count column = row'.count column := by
  rw [Row.count, Row.count, h.integer_eq hcolumn]

theorem optional_double_eq (absent : Float) :
    row.optional column absent Row.double = row'.optional column absent Row.double := by
  rw [Row.optional, Row.optional, Row.has, Row.has, h.others column hcolumn, h.double_eq hcolumn]

end Columns

/-- The service is refused in both rows for one reason, or is the same in both. -/
theorem text_service : (∃ e, row.text "service" = .error e ∧ row'.text "service" = .error e) ∨
    ∃ s s', row.text "service" = .ok s ∧ row'.text "service" = .ok s' ∧ SameButCase s s' := by
  rcases h.service with heq | ⟨s, s', hs, hs', hsame⟩
  · have htext : row.text "service" = row'.text "service" := by
      simp only [Row.text, Row.read, Row.value, heq]
    rw [htext]
    cases row'.text "service" with
    | error e => exact .inl ⟨e, rfl, rfl⟩
    | ok s => exact .inr ⟨s, s, rfl, rfl, lowerLatin_eq_iff.1 rfl⟩
  · right
    refine ⟨s, s', ?_, ?_, hsame⟩
    · simp only [Row.text, Row.read, Row.value, hs, ok_bind, asText?]
    · simp only [Row.text, Row.read, Row.value, hs', ok_bind, asText?]

/-- Both rows are of the same services. -/
theorem ofService_eq {service service' : String} (hservice : SameButCase service service') :
    ofService service row = ofService service' row' := by
  unfold ofService
  rcases h.text_service with ⟨e, he, he'⟩ | ⟨s, s', hs, hs', hsame⟩
  · rw [he, he']
  · rw [hs, hs']
    simp only [equalsFolded, lowerLatin_eq_iff.2 hsame, lowerLatin_eq_iff.2 hservice]

/-- Both rows have the same address as channels. -/
theorem address_eq : ChannelAddress.ofRow row = ChannelAddress.ofRow row' := by
  unfold ChannelAddress.ofRow
  rw [h.text_eq (by decide : "type" ≠ "service"), h.integer_eq (by decide : "pm_number" ≠ "service"),
    h.integer_eq (by decide : "ici_number" ≠ "service")]
  rcases h.text_service with ⟨e, he, he'⟩ | ⟨s, s', hs, hs', hsame⟩
  · rw [he, he']
  · simp only [hs, hs', ok_bind, ChannelAddress.make, lowerLatin_eq_iff.2 hsame]

end Flashlist.Row.SameButService

/-! ## Rows of the service -/

/-- The kinds of tables about a TCDS service. -/
def Flashlist.Kind.ofTcds : List Kind :=
  [.tcdsCounts, .tcdsDeadtimes, .tcdsRates, .tcdsActionCounts, .tcdsTtsChannels]

section Updates

variable {row row' : Row} (h : row.SameButService row')

include h

theorem TcdsInfo.update_sameService (tcds : TcdsInfo) (kind : Kind) :
    tcds.update kind row = tcds.update kind row' := by
  cases kind with
  | tcdsCounts => simp (disch := decide) only [update, afterCounts, h.count_eq]
  | tcdsDeadtimes => simp (disch := decide) only [update, afterDeadtimes, h.double_eq]
  | tcdsRates => simp (disch := decide) only [update, afterRates, h.double_eq]
  | tcdsActionCounts => simp (disch := decide) only [update, afterActions, h.count_eq]
  | _ => rfl

/-- No target reads the service of a row. -/
theorem Graph.update?_sameService (g : Graph) (t : Target) {kind : Kind} (hkind : kind ∈ Kind.ofTcds) :
    g.update? t kind row = g.update? t kind row' := by
  cases t with
  | tcds => simp only [update?, TcdsInfo.update_sameService h]
  | frl id => simp (disch := decide) only [update?, Frl.update, h.text_eq]
  | _ =>
    -- The others do not listen to these tables.
    simp only [Kind.ofTcds, List.mem_cons, List.not_mem_nil, or_false] at hkind
    rcases hkind with rfl | rfl | rfl | rfl | rfl <;> rfl

end Updates

section Tables

variable {rows rows' : List Row} (h : List.Forall₂ Row.SameButService rows rows')

include h

theorem applyOutcome_sameService (g : Graph) {kind : Kind} (hkind : kind ∈ Kind.ofTcds) (o : Outcome) :
    applyOutcome g kind rows o = applyOutcome g kind rows' o := by
  have hgive : Applied.give kind rows = Applied.give kind rows' := by
    funext a t n
    have hrow := getElem?_of_forall₂ h n
    unfold Applied.give
    generalize rows[n]? = row?, rows'[n]? = row?' at hrow ⊢
    cases hrow with
    | none => rfl
    | some hrow => simp only [a.graph.update?_sameService hrow t hkind]
  rw [applyOutcome, applyOutcome, hgive]

variable {service service' : String} (hservice : SameButCase service service')

include hservice

/-- The first row of the service is the same row. -/
theorem matchTcdsService_sameService :
    matchTcdsService service rows = matchTcdsService service' rows' := by
  have hfirst : rows.findIdx? (ofService service) = rows'.findIdx? (ofService service') :=
    findIdx?_of_forall₂ h fun row row' hrow => hrow.ofService_eq hservice
  have hlength := h.length_eq
  unfold matchTcdsService
  rw [hfirst]
  split
  · exact map_of_forall₂ h fun _ _ _ => rfl
  · exact List.ext_getElem (by simpa using hlength) (by simp)

end Tables

/-! ## Channels of the service -/

/-- Channels with one address and one number, whose rows are equal but for the case of the service. -/
structure Channel.SameButService (c c' : Channel) : Prop where
  address : c.address = c'.address
  number : c.number = c'.number
  row : c.row.SameButService c'.row

theorem ChannelAddress.make_sameService {service service' : String}
    (hservice : SameButCase service service') (type : String) (pmNumber iciNumber : Int64) :
    ChannelAddress.make service type pmNumber iciNumber
      = .make service' type pmNumber iciNumber := by
  rw [make, make, lowerLatin_eq_iff.2 hservice]

section Channels

variable {rows rows' : List Row} (h : List.Forall₂ Row.SameButService rows rows')

include h

theorem Channels.ofRows_sameService :
    List.Forall₂ Channel.SameButService (ofRows rows) (ofRows rows') := by
  refine List.rel_filterMap ?_ (zipIdx_of_forall₂ h 0)
  rintro ⟨row, n⟩ ⟨row', n'⟩ ⟨hrow, rfl⟩
  dsimp only at hrow ⊢
  rw [hrow.address_eq]
  cases ChannelAddress.ofRow row' with
  | error e => exact .none
  | ok address => exact .some ⟨rfl, rfl, hrow⟩

/-- At an address both tables have no channel, or one whose row is equal but for the service. -/
theorem Channels.at?_sameService (address : ChannelAddress) :
    ((ofRows rows).at? address = none ∧ (ofRows rows').at? address = none) ∨
      ∃ c c', (ofRows rows).at? address = some c ∧ (ofRows rows').at? address = some c' ∧
        c.SameButService c' := by
  have hchannel : Option.Rel Channel.SameButService ((ofRows rows).at? address)
      ((ofRows rows').at? address) :=
    find?_of_forall₂ (List.rel_reverse (ofRows_sameService h)) fun c c' hc => by rw [hc.address]
  generalize (ofRows rows).at? address = c?, (ofRows rows').at? address = c?' at hchannel ⊢
  cases hchannel with
  | none => exact .inl ⟨rfl, rfl⟩
  | some hc => exact .inr ⟨_, _, rfl, rfl, hc⟩

variable {service service' : String} (hservice : SameButCase service service')

include hservice

theorem Channels.forall₂_ofService :
    List.Forall₂ Channel.SameButService ((ofRows rows).ofService service)
      ((ofRows rows').ofService service') := by
  refine List.rel_filter ?_ (ofRows_sameService h)
  intro c c' hc
  dsimp only
  rw [hc.address, lowerLatin_eq_iff.2 hservice]

theorem Channels.types_sameService :
    (ofRows rows).types service = (ofRows rows').types service' := by
  unfold types
  rw [map_of_forall₂ (forall₂_ofService h hservice) fun c c' hc => by rw [hc.address]]

end Channels

section Reading

variable {row row' : Row} (h : row.SameButService row')

include h

theorem readTtsState_sameService : readTtsState row = readTtsState row' := by
  simp (disch := decide) only [readTtsState, h.integer_eq]

theorem readEmulatorState_sameService : readEmulatorState row = readEmulatorState row' := by
  simp (disch := decide) only [readEmulatorState, h.text_eq, readTtsState_sameService h]

theorem readGlobalState_sameService : readGlobalState row = readGlobalState row' := by
  simp (disch := decide) only [readGlobalState, readTtsState_sameService h, h.optional_double_eq]

end Reading

section Parts

variable {rows rows' : List Row} (h : List.Forall₂ Row.SameButService rows rows')
  {service service' : String} (hservice : SameButCase service service')

include h hservice

theorem partitionAfter_sameService (p : TtcPartition) :
    partitionAfter (Channels.ofRows rows) service p
      = partitionAfter (Channels.ofRows rows') service' p := by
  have hread : ∀ (read : Row → Except RowError String) (address : ChannelAddress),
      (∀ {row row' : Row}, row.SameButService row' → read row = read row') →
      readChannel? read ((Channels.ofRows rows).at? address)
        = readChannel? read ((Channels.ofRows rows').at? address) := by
    intro read address hrow
    rcases Channels.at?_sameService h address with ⟨hc, hc'⟩ | ⟨c, c', hc, hc', hsame⟩
    · rw [hc, hc']
    · rw [hc, hc', readChannel?, readChannel?, hrow hsame.row]
  have hnumber : ∀ address, ((Channels.ofRows rows).at? address).toList.map (·.number)
      = ((Channels.ofRows rows').at? address).toList.map (·.number) := by
    intro address
    rcases Channels.at?_sameService h address with ⟨hc, hc'⟩ | ⟨c, c', hc, hc', hsame⟩
    · rw [hc, hc']
    · simp only [hc, hc', Option.toList_some, List.map_cons, List.map_nil, hsame.number]
  simp only [partitionAfter, ChannelAddress.make_sameService hservice, List.map_append, hnumber,
    hread _ _ readTtsState_sameService, hread _ _ readEmulatorState_sameService]

theorem globalOutput_sameService (type : String) :
    globalOutput (Channels.ofRows rows) service type
      = globalOutput (Channels.ofRows rows') service' type := by
  rw [globalOutput, globalOutput, ChannelAddress.make_sameService hservice]
  rcases Channels.at?_sameService h (.make service' type 0 0) with
    ⟨hc, hc'⟩ | ⟨c, c', hc, hc', hsame⟩
  · rw [hc, hc']
  · simp only [hc, hc', readGlobalState_sameService hsame.row, hsame.number]

end Parts

/-! ## Sessions -/

/-- The graph with another name of the TCDS service. -/
def Graph.withServiceName (g : Graph) (name : Option String) : Graph :=
  { g with tcds := { g.tcds with serviceName := name } }

/-- Sessions with the same TCDS service, in any case, at the same address. -/
structure Session.SameTcds (session session' : Session) : Prop where
  service : Option.Rel SameButCase session.tcdsService session'.tcdsService
  context : session.tcdsContext = session'.tcdsContext

theorem Session.SameTcds.tcds? {session session' : Session} (h : session.SameTcds session') :
    (session.tcds? = none ∧ session'.tcds? = none) ∨
      ∃ service service' context, session.tcds? = some (service, context) ∧
        session'.tcds? = some (service', context) ∧ session.tcdsService = some service ∧
        session'.tcdsService = some service' ∧ SameButCase service service' := by
  obtain ⟨filter, service?, context?⟩ := session
  obtain ⟨filter', service?', context?'⟩ := session'
  obtain ⟨hservice, hcontext⟩ := h
  dsimp only at hservice hcontext
  subst hcontext
  cases hservice with
  | none => exact .inl ⟨rfl, rfl⟩
  | some hsame =>
    cases context? with
    | none => exact .inl ⟨rfl, rfl⟩
    | some context => exact .inr ⟨_, _, context, rfl, rfl, rfl, rfl, hsame⟩

section Sessions

variable {session session' : Session} (hsession : session.SameTcds session') {rows rows' : List Row}
  (h : List.Forall₂ Row.SameButService rows rows')

include hsession h

/-- Of a table of TTS channels only the name of the service differs. -/
theorem applyTtsChannels_sameService (g : Graph) :
    applyTtsChannels g session' rows' = (applyTtsChannels g session rows).map fun result =>
      { result with graph := result.graph.withServiceName session'.tcdsService } := by
  rcases hsession.tcds? with ⟨hnone, hnone'⟩ |
    ⟨service, service', context, htcds, htcds', -, hservice', hsame⟩
  · rw [applyTtsChannels, applyTtsChannels, hnone, hnone']
    rfl
  · have hpartition : partitionAfter (Channels.ofRows rows') service'
        = partitionAfter (Channels.ofRows rows) service :=
      funext fun p => (partitionAfter_sameService h hsame p).symm
    have houtput : ∀ type, globalOutput (Channels.ofRows rows') service' type
        = globalOutput (Channels.ofRows rows) service type :=
      fun type => (globalOutput_sameService h hsame type).symm
    have hlength := (Channels.forall₂_ofService h hsame).length_eq
    simp only [applyTtsChannels, htcds, htcds', Option.map_some, hpartition, houtput, hlength,
      Channels.types_sameService h hsame, Graph.withServiceName, hservice']

end Sessions

/-! ## Flashlists -/

/-- Flashlists of one kind whose rows are equal but for the case of the service. -/
structure Flashlist.SameButService (f f' : Flashlist) : Prop where
  kind : f.kind = f'.kind
  available : f.available = f'.available
  rows : List.Forall₂ Row.SameButService f.rows f'.rows

theorem Flashlist.SameButService.dispatchKind? {f f' : Flashlist} (h : f.SameButService f') :
    f'.dispatchKind? = f.dispatchKind? := by
  have hempty : f'.isEmpty = f.isEmpty := by
    rw [Bool.eq_iff_iff, isEmpty, isEmpty, List.isEmpty_iff_length_eq_zero,
      List.isEmpty_iff_length_eq_zero, h.rows.length_eq]
  rw [Flashlist.dispatchKind?, Flashlist.dispatchKind?, h.kind, h.available, hempty]

section Dispatch

variable {session session' : Session} (hsession : session.SameTcds session') {f f' : Flashlist}
  (hf : f.SameButService f') (g : Graph) {kind : Kind} (hkind : f.dispatchKind? = some kind)

include hsession hf hkind

/-- Of a table with values of the service nothing differs. -/
theorem dispatch_sameService (hplan : plan kind = [.tcdsService]) (htcds : kind ∈ Kind.ofTcds) :
    (dispatch session' g f').graph = (dispatch session g f).graph ∧
      (dispatch session' g f').recorded? = (dispatch session g f).recorded? := by
  -- The notices of a table without the service name it; they are not looked at.
  have happly : ∀ (d d' : Dispatched) (o : Outcome), d'.graph = d.graph → d'.tally = d.tally →
      d'.counts = d.counts → (d'.apply kind f'.rows o).graph = (d.apply kind f.rows o).graph ∧
        (d'.apply kind f'.rows o).recorded? = (d.apply kind f.rows o).recorded? := by
    intro d d' o hgraph htally hcounts
    simp only [Dispatched.apply, Dispatched.recorded?, hgraph, htally, hcounts,
      applyOutcome_sameService hf.rows d.graph htcds o, and_self]
  have hkind' := hf.dispatchKind?.trans hkind
  simp only [dispatch, hkind, hkind', hplan, List.foldl_cons, List.foldl_nil, Dispatched.route]
  rcases hsession.tcds? with ⟨hnone, hnone'⟩ |
    ⟨service, service', context, htcds, htcds', -, -, hsame⟩
  · rw [hnone, hnone']
    exact ⟨rfl, rfl⟩
  · rw [htcds, htcds']
    dsimp only
    rw [matchTcdsService_sameService hf.rows hsame]
    refine happly _ _ _ ?_ ?_ ?_ <;> (split <;> split <;> rfl)

/-- Of a table of TTS channels only the name of the service differs. -/
theorem dispatch_channels_sameService (hchannels : kind = .tcdsTtsChannels) :
    (dispatch session' g f').graph
        = (dispatch session g f).graph.withServiceName
            (if session.tcds?.isSome then session'.tcdsService else g.tcds.serviceName) ∧
      (dispatch session g f).graph.tcds.serviceName
        = (if session.tcds?.isSome then session.tcdsService else g.tcds.serviceName) ∧
      (dispatch session' g f').recorded? = (dispatch session g f).recorded? := by
  subst hchannels
  have hkind' := hf.dispatchKind?.trans hkind
  simp only [dispatch, hkind, hkind', plan, List.foldl_cons, List.foldl_nil, Dispatched.route,
    applyTtsChannels_sameService hsession hf.rows]
  rcases hsession.tcds? with ⟨hnone, -⟩ | ⟨service, service', context, htcds, -, hservice, -, -⟩
  · have hresult : applyTtsChannels g session f.rows = none := by
      rw [applyTtsChannels, hnone, Option.map_none]
    rw [hresult, hnone]
    exact ⟨rfl, rfl, rfl⟩
  · obtain ⟨result, hresult, hname⟩ : ∃ result, applyTtsChannels g session f.rows = some result ∧
        result.graph.tcds.serviceName = some service := by
      rw [applyTtsChannels, htcds]
      exact ⟨_, rfl, rfl⟩
    rw [hresult, htcds, hservice]
    exact ⟨rfl, hname, rfl⟩

end Dispatch

/-- No other table names a service. -/
theorem serviceName_dispatch (session : Session) (g : Graph) {f : Flashlist} {kind : Kind}
    (hkind : f.dispatchKind? = some kind) (hchannels : .channels ∉ topics kind) :
    (dispatch session g f).graph.tcds.serviceName = g.tcds.serviceName := by
  rw [dispatch_graph session g hkind]
  have hpart := (Table.speaks session g kind f.rows .tcds 0).others .channels hchannels g.tcds
  have hname := congrArg TcdsInfo.serviceName hpart
  exact hname

/-- Whatever the spelling of the TCDS service in the session and in the rows of one of its tables: the
    same is recorded, and the graph is the same but for the name of the service. That is in the
    spelling of the session where the table names the service, and stays as it is where it does
    not. -/
theorem Monitor.dispatch_of_sameService (m : Monitor) {session' : Session}
    (hsession : m.session.SameTcds session') {f f' : Flashlist} (hf : f.SameButService f')
    {kind : Kind} (hkind : f.kind = some kind) (htcds : kind ∈ Kind.ofTcds) :
    let a := (m.dispatch f).1
    let b := ({ m with session := session' }.dispatch f').1
    let named := f.dispatchKind? = some .tcdsTtsChannels ∧ m.session.tcds?.isSome
    b.stats = a.stats ∧
      b.graph = a.graph.withServiceName
        (if named then session'.tcdsService else m.graph.tcds.serviceName) ∧
      a.graph.tcds.serviceName
        = if named then m.session.tcdsService else m.graph.tcds.serviceName := by
  intro a b named
  have hdispatch : f.dispatchKind? = none ∨ f.dispatchKind? = some kind := by
    rw [← hkind]
    cases h : f.dispatchKind? with
    | none => exact .inl rfl
    | some kind' => exact .inr (Flashlist.kind_of_dispatchKind? h).symm
  rcases hdispatch with hdispatch | hdispatch
  · have ha : a = m := by simp only [a, Monitor.dispatch, hdispatch]
    have hb : b = { m with session := session' } := by
      simp only [b, Monitor.dispatch, hf.dispatchKind?.trans hdispatch]
    have hnamed : ¬ named := fun h => by cases hdispatch.symm.trans h.1
    rw [ha, hb, if_neg hnamed, if_neg hnamed]
    exact ⟨rfl, rfl, rfl⟩
  · have ha : a = m.after kind (DaqMonitor.dispatch m.session m.graph f) := by
      simp only [a, Monitor.dispatch, hdispatch]
    have hb : b = { m with session := session' }.after kind
        (DaqMonitor.dispatch session' m.graph f') := by
      simp only [b, Monitor.dispatch, hf.dispatchKind?.trans hdispatch]
    by_cases hchannels : kind = .tcdsTtsChannels
    · obtain ⟨hgraph, hname, hrecorded⟩ :=
        dispatch_channels_sameService hsession hf m.graph hdispatch hchannels
      have hnamed : named ↔ m.session.tcds?.isSome := by simp [named, hdispatch, hchannels]
      simp only [ha, hb, after, hrecorded, hnamed]
      exact ⟨trivial, hgraph, hname⟩
    · have hplan : plan kind = [.tcdsService] ∧ .channels ∉ topics kind := by
        simp only [Kind.ofTcds, List.mem_cons, List.not_mem_nil, or_false] at htcds
        rcases htcds with rfl | rfl | rfl | rfl | rfl <;> first | exact absurd rfl hchannels | decide
      obtain ⟨hgraph, hrecorded⟩ := dispatch_sameService hsession hf m.graph hdispatch hplan.1 htcds
      have hname := serviceName_dispatch m.session m.graph hdispatch hplan.2
      have hnamed : ¬ named := fun h => hchannels (Option.some.inj (hdispatch.symm.trans h.1))
      simp only [ha, hb, after, hrecorded, if_neg hnamed]
      exact ⟨trivial, by rw [hgraph, ← hname]; rfl, hname⟩

/-- A Greek letter in the name of the service, and the Latin ones in any case: the global output takes
    the channel of the service, and not the later one of a service with another Greek letter. Each
    graph has the name as its session spells it. -/
theorem Monitor.dispatch_of_sameService_greek :
    let channel (service : String) (value : Nat) : Row :=
      .object [("service", .text service), ("type", .text "tts_all"), ("pm_number", .ofNat 0),
        ("ici_number", .ofNat 0), ("value", .ofNat value)]
    let m : Monitor :=
      { graph := Graph.indexed { uid := ⟨1⟩ }
        session := ({} : Session).withTcds "pm-Σ" "http://pm" }
    let session' := ({} : Session).withTcds "PM-Σ" "http://pm"
    let f : Flashlist := .ofKind .tcdsTtsChannels [channel "Pm-Σ" 8, channel "pm-σ" 4]
    let f' : Flashlist := .ofKind .tcdsTtsChannels [channel "pM-Σ" 8, channel "PM-σ" 4]
    let a := (m.dispatch f).1
    let b := ({ m with session := session' }.dispatch f').1
    m.session.SameTcds session' ∧ f.SameButService f' ∧ f.kind = some .tcdsTtsChannels ∧
      .tcdsTtsChannels ∈ Kind.ofTcds ∧ b.stats = a.stats ∧
      b.graph = a.graph.withServiceName (some "PM-Σ") ∧
      a.graph.tcds.serviceName = some "pm-Σ" ∧
      (a.graph.tcds.globalTtsStates.find? "tts_all").map (·.state) = some "READY" := by
  intro channel m session' f f' a b
  have hsession : m.session.SameTcds session' := ⟨.some (by decide), rfl⟩
  have hrow : ∀ {service service' : String} (value : Nat), SameButCase service service' →
      (channel service value).SameButService (channel service' value) := by
    intro service service' value hsame
    refine ⟨.inr ⟨service, service', rfl, rfl, hsame⟩, fun column hcolumn => ?_⟩
    simp only [channel, Json.find?, List.find?_cons, hcolumn.symm, decide_false]
  have hf : f.SameButService f' :=
    ⟨rfl, rfl, .cons (hrow 8 (by decide)) (.cons (hrow 4 (by decide)) .nil)⟩
  have hkind : .tcdsTtsChannels ∈ Kind.ofTcds := by decide
  obtain ⟨hstats, hgraph, hname⟩ := m.dispatch_of_sameService hsession hf rfl hkind
  have hstate : (a.graph.tcds.globalTtsStates.find? "tts_all").map (·.state) = some "READY" := by
    decide
  exact ⟨hsession, hf, rfl, hkind, hstats, hgraph, hname, hstate⟩

end DaqMonitor
