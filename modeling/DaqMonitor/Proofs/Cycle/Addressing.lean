/-
  DaqMonitor.Proofs.Cycle.Addressing

  The unit that the address in a row leads to.

  A row of the builder or readout units is matched by the host in its address, and
  the unit takes up the port in it. The host and the port are read by rules that
  know nothing of each other, but in every spelling of an address both find what it
  was made of. So a table of one such row reaches the first unit on the host, which
  answers on the port from then on, and changes no other unit.

    * `Row.TellsBu`, `Row.TellsRu` — rows that lack nothing but an address.
    * `entities_dispatch_of_host` — a table of one row changes the first unit on its
      host.
    * `dispatch_of_spells` — whatever the spelling of its address.
-/
import DaqMonitor.Proofs.Cycle.Rejection
import DaqMonitor.Proofs.Flashlist.Address

namespace DaqMonitor

open Flashlist Matching

/-! ## Rows that lack an address -/

namespace Flashlist.Row

/-- A row has texts, doubles and counts in some columns. -/
structure Tells (row : Row) (texts doubles counts : List String) : Prop where
  text : ∀ column ∈ texts, ∃ s, row.text column = .ok s
  double : ∀ column ∈ doubles, ∃ x, row.double column = .ok x
  count : ∀ column ∈ counts, ∃ n, row.count column = .ok n

/-- A row has all columns of a builder unit but for the address. -/
def TellsBu (row : Row) : Prop :=
  row.Tells ["stateName", "errorMsg"]
    ["eventRate", "bandwidth", "eventSize", "eventSizeStdDev", "requestRate"]
    ["nbEventsInBU", "nbEventsBuilt"]

/-- A row has all columns of a readout unit but for the address. Its lists have an item for each
    builder unit. -/
structure TellsRu (row : Row) : Prop extends
    row.Tells ["stateName", "errorMsg"]
      ["eventRate", "superFragmentSize", "superFragmentSizeStdDev"]
      ["fragmentsInRU", "eventsInRU", "eventCount", "activeRequests",
        "incompleteSuperFragmentCount"] where
  lists : ∃ throughputPerBu buTids fragmentRatePerBu retryRatePerBu,
    row.doubleList "throughputPerBU" = .ok throughputPerBu ∧
    row.integerList "buTids" = .ok buTids ∧
    row.doubleList "fragmentRatePerBU" = .ok fragmentRatePerBu ∧
    row.doubleList "retryRatePerBU" = .ok retryRatePerBu ∧
    buTids.length = throughputPerBu.length ∧
    fragmentRatePerBu.length = throughputPerBu.length ∧
    retryRatePerBu.length = throughputPerBu.length

theorem port_of_context {row : Row} {context : String} {port : UInt16}
    (hcontext : row.text "context" = .ok context) (hport : portOfContext? context = some port) :
    row.port = .ok port := by
  rw [Row.port, hcontext, ok_bind, hport]

end Flashlist.Row

section Updates

variable {row : Row} {port : UInt16}

/-- A builder unit takes up a row with an address, and the port in it. -/
theorem Bu.update_of_tells (bu : Bu) (hport : row.port = .ok port) (h : row.TellsBu) :
    ∃ bu', bu.update .bu row = .ok bu' ∧ bu'.state.port = port := by
  obtain ⟨stateName, hstateName⟩ := h.text "stateName" (by simp)
  obtain ⟨errorMessage, herrorMessage⟩ := h.text "errorMsg" (by simp)
  obtain ⟨rate, hrate⟩ := h.double "eventRate" (by simp)
  obtain ⟨throughput, hthroughput⟩ := h.double "bandwidth" (by simp)
  obtain ⟨sizeMean, hsizeMean⟩ := h.double "eventSize" (by simp)
  obtain ⟨sizeStddev, hsizeStddev⟩ := h.double "eventSizeStdDev" (by simp)
  obtain ⟨requestRate, hrequestRate⟩ := h.double "requestRate" (by simp)
  obtain ⟨eventsInBu, heventsInBu⟩ := h.count "nbEventsInBU" (by simp)
  obtain ⟨eventsBuilt, heventsBuilt⟩ := h.count "nbEventsBuilt" (by simp)
  simp only [update, nextState, State.after, hport, hstateName, herrorMessage, hrate, hthroughput,
    hsizeMean, hsizeStddev, heventsInBu, heventsBuilt, hrequestRate, ok_bind, map_ok]
  exact ⟨_, rfl, rfl⟩

/-- So does a readout unit, unless it is the event manager. -/
theorem Ru.update_of_tells {ru : Ru} (hru : ru.isEvm = false) (hport : row.port = .ok port)
    (h : row.TellsRu) : ∃ ru', ru.update .ru row = .ok ru' ∧ ru'.state.port = port := by
  obtain ⟨stateName, hstateName⟩ := h.text "stateName" (by simp)
  obtain ⟨errorMessage, herrorMessage⟩ := h.text "errorMsg" (by simp)
  obtain ⟨rate, hrate⟩ := h.double "eventRate" (by simp)
  obtain ⟨sizeMean, hsizeMean⟩ := h.double "superFragmentSize" (by simp)
  obtain ⟨sizeStddev, hsizeStddev⟩ := h.double "superFragmentSizeStdDev" (by simp)
  obtain ⟨fragmentsInRu, hfragmentsInRu⟩ := h.count "fragmentsInRU" (by simp)
  obtain ⟨eventsInRu, heventsInRu⟩ := h.count "eventsInRU" (by simp)
  obtain ⟨eventCount, heventCount⟩ := h.count "eventCount" (by simp)
  obtain ⟨requests, hrequests⟩ := h.count "activeRequests" (by simp)
  obtain ⟨incomplete, hincomplete⟩ := h.count "incompleteSuperFragmentCount" (by simp)
  obtain ⟨throughputPerBu, buTids, fragmentRatePerBu, retryRatePerBu, hthroughputs, htids,
    hfragmentRates, hretryRates, hlengthTids, hlengthFragments, hlengthRetries⟩ := h.lists
  simp only [update, nextState, hru, if_false, Report.read, hport, hthroughputs, htids,
    hfragmentRates, hretryRates, checkLength, hlengthTids, hlengthFragments, hlengthRetries,
    if_true, hstateName, herrorMessage, hrate, hsizeMean, hsizeStddev, hfragmentsInRu, heventsInRu,
    heventCount, hrequests, hincomplete, ok_bind, map_ok, Bool.false_eq_true]
  exact ⟨_, rfl, rfl⟩

end Updates

/-! ## The unit on a host -/

section Hosts

variable (session : Session) {g : Graph} {pool : HostPool} {row : Row} {host : String} {n : Nat}
  {e : pool.sort.Entity} (hindexes : g.indexes = g.makeIndexes) (hkeys : hostKeys row = [host])
  (hfirst : FirstWith (pool.hostname · = host) (g.entities pool.sort) n e) (hn : n < UInt32.size)

include hindexes hkeys hfirst in
/-- A row is about the first unit on its host. -/
theorem targets_matchHostname : (matchHostname g pool row).targets = [pool.sort.target n] := by
  have hfind : (g.entities pool.sort).findIdx? (fun e => some (pool.hostname e) = some host)
      = some n := by
    simp only [Option.some.injEq]
    exact findIdx?_eq_some_iff_firstWith.2 ⟨e, hfirst⟩
  rw [leads_hostname hindexes pool row, hkeys, List.filterMap_cons, hfind]
  rfl

include hindexes hkeys hfirst hn in
/-- The only row of a table is for the first unit on its host, and for no other unit. -/
theorem row?_hostname {m : Nat} {e' : pool.sort.Entity}
    (he' : (g.entities pool.sort)[m]? = some e') :
    (Route.hostname pool).row? session g [row] pool.sort m = if m = n then some row else none := by
  have hgiven : ∀ t, (Outcome.ofRows ([row].map (matchHostname g pool))).given [row] t
      = if t = pool.sort.target n then some row else none := by
    intro t
    rw [Outcome.given_ofRows, List.reverse_singleton, List.find?_singleton,
      targets_matchHostname hindexes hkeys hfirst]
    simp only [List.mem_singleton, decide_eq_true_eq]
  have hrow : (Route.hostname pool).row? session g [row] pool.sort m
      = if m < UInt32.size then
          (Outcome.ofRows ([row].map (matchHostname g pool))).given [row] (pool.sort.target m)
        else none := rfl
  rw [hrow, hgiven]
  by_cases hm : m = n
  · rw [hm, if_pos hn, if_pos rfl, if_pos rfl]
  · rw [if_neg hm]
    -- Another unit has an id of its own, or none.
    split
    · rename_i hlt
      refine if_neg fun htarget => hm ?_
      have hplace := congrArg Target.place htarget
      rwa [TargetSort.place_target he' hlt, TargetSort.place_target hfirst.value hn] at hplace
    · rfl

/-- Whatever a table does besides, it does not do to units that are found by host. -/
theorem Table.aside_of_host (kind : Kind) (rows : List Row) (n : Nat) (e : pool.sort.Entity) :
    Table.aside session kind rows pool.sort n e = e := by
  cases pool <;> cases kind <;>
    first
    | rfl
    | (unfold Table.aside; cases session.tcds? <;> rfl)

variable (pool) in
include hindexes hkeys hfirst hn in
/-- A table of one row, if the first unit on the host of the row takes it up, changes that unit and no
    other. -/
theorem entities_dispatch_of_host {f : Flashlist} {kind : Kind} {routes : List Route}
    (hkind : f.dispatchKind? = some kind) (hplan : plan kind = .hostname pool :: routes)
    (hrows : f.rows = [row]) {e' : pool.sort.Entity} (hupdate : pool.sort.update e kind row = .ok e') :
    (dispatch session g f).graph.entities pool.sort = (g.entities pool.sort).set n e' := by
  have htake : pool.sort.take kind (some row) e = e' := by rw [TargetSort.take, hupdate]
  have hothers : ∀ m, routes.findSome? (·.row? session g f.rows pool.sort m) = none := by
    intro m
    have hdiffer := plan_sorts_differ kind
    rw [hplan] at hdiffer
    refine List.findSome?_eq_none_iff.2 fun r hr => Route.row?_eq_none ?_
    exact (List.pairwise_cons.1 hdiffer).1 r hr pool.sort (List.mem_singleton_self _)
  have hlt := (List.getElem?_eq_some_iff.1 hfirst.value).1
  refine List.ext_getElem? fun m => ?_
  rw [List.getElem?_set]
  cases hm : (g.entities pool.sort)[m]? with
  | none =>
    have hne : n ≠ m := by
      rintro rfl
      rw [hfirst.value] at hm
      cases hm
    rw [dispatch_graph session g hkind, Graph.entities_apply, List.getElem?_mapIdx, hm, if_neg hne]
    rfl
  | some e₁ =>
    rw [getElem?_dispatch session g hkind hm, Table.aside_of_host, Table.row?, hplan,
      List.findSome?_cons, hothers, hrows, row?_hostname session hindexes hkeys hfirst hn hm]
    by_cases hmn : n = m
    · subst hmn
      obtain rfl : e₁ = e := Option.some.inj (hm.symm.trans hfirst.value)
      rw [if_pos rfl, if_pos rfl, if_pos hlt]
      exact congrArg some htake
    · rw [if_neg (Ne.symm hmn), if_neg hmn]
      rfl

end Hosts

/-- Every spelling of an address, with blanks around it or without, gives the host and the port that
    it was made of. So a table of one row with such an address, and all other columns, gives the port
    to the first builder unit on the host, and changes no other builder unit; one of the readout
    units does the same with the first readout unit there, unless that is the event manager. The unit
    must have an id, which there are `2 ^ 32` of. -/
theorem dispatch_of_spells {host address before after : String} {port : UInt16}
    (hspells : Spells host port address) (hhost : Plain host) (hbefore : Blank before)
    (hafter : Blank after) :
    let context := before ++ address ++ after
    hostOfContext context = host ∧ portOfContext? context = some port ∧
      ∀ (session : Session) (g : Graph) (f : Flashlist) (row : Row) (n : Nat),
        g.indexes = g.makeIndexes → f.rows = [row] → row.text "context" = .ok context →
        n < UInt32.size →
        (∀ bu, f.dispatchKind? = some .bu → row.TellsBu →
          FirstWith (fun bu : Bu => bu.hostname = host) g.bus n bu →
          ∃ bu', bu.update .bu row = .ok bu' ∧ bu'.state.port = port ∧
            (dispatch session g f).graph.bus = g.bus.set n bu') ∧
        ∀ ru, f.dispatchKind? = some .ru → row.TellsRu →
          FirstWith (fun ru : Ru => ru.hostname = host) g.rus n ru → ru.isEvm = false →
          ∃ ru', ru.update .ru row = .ok ru' ∧ ru'.state.port = port ∧
            (dispatch session g f).graph.rus = g.rus.set n ru' := by
  intro context
  have hhostOf := hostOfContext_of_spells hspells hhost hbefore hafter
  have hportOf := portOfContext?_of_spells hspells hhost hbefore hafter
  refine ⟨hhostOf, hportOf, fun session g f row n hindexes hrows hcontext hn => ?_⟩
  have hport := Row.port_of_context hcontext hportOf
  have hkeys : hostKeys row = [host] := by
    rw [hostKeys, hcontext]
    exact congrArg ([·]) hhostOf
  constructor
  · intro bu hkind htells hfirst
    have hplan : plan .bu = .hostname .bus :: [] := rfl
    obtain ⟨bu', hupdate, hbu'⟩ := bu.update_of_tells hport htells
    exact ⟨bu', hupdate, hbu',
      entities_dispatch_of_host session .bus hindexes hkeys hfirst hn hkind hplan hrows hupdate⟩
  · intro ru hkind htells hfirst hevm
    have hplan : plan .ru = .hostname .rus :: [.problemLists] := rfl
    obtain ⟨ru', hupdate, hru'⟩ := Ru.update_of_tells hevm hport htells
    exact ⟨ru', hupdate, hru',
      entities_dispatch_of_host session .rus hindexes hkeys hfirst hn hkind hplan hrows hupdate⟩

/-- Two units on one host, and one on another, of either kind: the first of the two takes the row, be
    the address written as a URL with slashes behind it or with the number of an instance. -/
theorem dispatch_of_spells_shared_host :
    let bu (uid : UInt64) (hostname : String) : Bu := { uid := ⟨uid⟩, hostname }
    let ru (uid : UInt64) (hostname : String) : Ru := { uid := ⟨uid⟩, hostname, fedBuilder := ⟨0⟩ }
    let g : Graph := Graph.indexed
      { uid := ⟨1⟩, bus := [bu 2 "node-0", bu 3 "node-1", bu 4 "node-1"]
        rus := [ru 5 "node-0", ru 6 "node-1", ru 7 "node-1"] }
    let url := "http://node-1:1972//"
    let instanced := "node-1:17:1972"
    let ofBu : Row := .object [("context", .text (" " ++ url ++ "\t")), ("stateName", .text "Enabled"),
      ("errorMsg", .text ""), ("eventRate", .ofNat 100), ("bandwidth", .ofNat 200),
      ("eventSize", .ofNat 2), ("eventSizeStdDev", .ofNat 1), ("requestRate", .ofNat 5),
      ("nbEventsInBU", .ofNat 3), ("nbEventsBuilt", .ofNat 4)]
    let ofRu : Row := .object [("context", .text ("" ++ instanced ++ "")),
      ("stateName", .text "Enabled"), ("errorMsg", .text ""), ("eventRate", .ofNat 100),
      ("superFragmentSize", .ofNat 2), ("superFragmentSizeStdDev", .ofNat 1),
      ("fragmentsInRU", .ofNat 3), ("eventsInRU", .ofNat 4), ("eventCount", .ofNat 5),
      ("activeRequests", .ofNat 6), ("incompleteSuperFragmentCount", .ofNat 0),
      ("throughputPerBU", .list [.ofNat 1]), ("buTids", .list [.ofNat 7]),
      ("fragmentRatePerBU", .list [.ofNat 1]), ("retryRatePerBU", .list [.ofNat 0])]
    let bus : Flashlist := .ofKind .bu [ofBu]
    let rus : Flashlist := .ofKind .ru [ofRu]
    (Spells "node-1" 1972 url ∧ Spells "node-1" 1972 instanced ∧ Plain "node-1" ∧ Blank " " ∧
      Blank "\t" ∧ Blank "" ∧ g.indexes = g.makeIndexes ∧ bus.dispatchKind? = some .bu ∧
      rus.dispatchKind? = some .ru ∧ ofBu.TellsBu ∧ ofRu.TellsRu) ∧
    (∃ bu', (bu 3 "node-1").update .bu ofBu = .ok bu' ∧ bu'.state.port = 1972 ∧
      (dispatch {} g bus).graph.bus = [bu 2 "node-0", bu', bu 4 "node-1"]) ∧
    ∃ ru', (ru 6 "node-1").update .ru ofRu = .ok ru' ∧ ru'.state.port = 1972 ∧
      (dispatch {} g rus).graph.rus = [ru 5 "node-0", ru', ru 7 "node-1"] := by
  intro bu ru g url instanced ofBu ofRu bus rus
  have hscheme : Plain "http" := by decide
  have hnumber : Numeral "17" := by decide
  have hurl : Spells "node-1" 1972 url := .url hscheme 2
  have hinstanced : Spells "node-1" 1972 instanced := .numbered hnumber
  have hhost : Plain "node-1" := by decide
  have hspace : Blank " " := by decide
  have htab : Blank "\t" := by decide
  have hempty : Blank "" := by decide
  have hindexes : g.indexes = g.makeIndexes := rfl
  have htellsBu : ofBu.TellsBu := by
    constructor
    · exact List.forall_mem_cons.2 ⟨⟨_, rfl⟩, List.forall_mem_singleton.2 ⟨_, rfl⟩⟩
    · simp only [List.forall_mem_cons]
      exact ⟨⟨_, rfl⟩, ⟨_, rfl⟩, ⟨_, rfl⟩, ⟨_, rfl⟩, ⟨_, rfl⟩, List.forall_mem_nil _⟩
    · exact List.forall_mem_cons.2 ⟨⟨_, rfl⟩, List.forall_mem_singleton.2 ⟨_, rfl⟩⟩
  have htellsRu : ofRu.TellsRu := by
    refine ⟨⟨?_, ?_, ?_⟩, _, _, _, _, rfl, rfl, rfl, rfl, rfl, rfl, rfl⟩
    · exact List.forall_mem_cons.2 ⟨⟨_, rfl⟩, List.forall_mem_singleton.2 ⟨_, rfl⟩⟩
    · simp only [List.forall_mem_cons]
      exact ⟨⟨_, rfl⟩, ⟨_, rfl⟩, ⟨_, rfl⟩, List.forall_mem_nil _⟩
    · simp only [List.forall_mem_cons]
      exact ⟨⟨_, rfl⟩, ⟨_, rfl⟩, ⟨_, rfl⟩, ⟨_, rfl⟩, ⟨_, rfl⟩, List.forall_mem_nil _⟩
  have hbu : FirstWith (fun bu : Bu => bu.hostname = "node-1") g.bus 1 (bu 3 "node-1") := by
    refine ⟨rfl, rfl, fun i b hi hb => ?_⟩
    obtain rfl : i = 0 := by omega
    cases hb
    decide
  have hru : FirstWith (fun ru : Ru => ru.hostname = "node-1") g.rus 1 (ru 6 "node-1") := by
    refine ⟨rfl, rfl, fun i r hi hr => ?_⟩
    obtain rfl : i = 0 := by omega
    cases hr
    decide
  have hofBu := (dispatch_of_spells hurl hhost hspace htab).2.2 {} g bus ofBu 1 hindexes rfl rfl
    (by decide)
  have hofRu := (dispatch_of_spells hinstanced hhost hempty hempty).2.2 {} g rus ofRu 1 hindexes rfl
    rfl (by decide)
  exact ⟨⟨hurl, hinstanced, hhost, hspace, htab, hempty, hindexes, rfl, rfl, htellsBu, htellsRu⟩,
    hofBu.1 _ rfl htellsBu hbu, hofRu.2 _ rfl htellsRu hru rfl⟩

end DaqMonitor
