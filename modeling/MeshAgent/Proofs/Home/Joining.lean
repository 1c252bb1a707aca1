import MeshAgent.Proofs.Home.Recording
import MeshAgent.Proofs.Home.Tokens

/-!
# Joining a network

A join adds an interface and never changes one. Its id is above all that are stored, so that the rows
of the others, their peers and their entries stay where they are, and what is new stands behind them.
-/
namespace MeshAgent

namespace Tables

variable {key : Bytes} {t t' : Tables} {a : Interface}

/-- `t'` is what the tables `t` become when the new interface `a` is added to them. -/
structure Extended (key : Bytes) (t : Tables) (a : Interface) (t' : Tables) : Prop where
  holds : ∀ b, t'.Holds key b ↔ b = a ∨ t.Holds key b
  interfaces : ∃ row : InterfaceRow, row.id = a.id ∧ t'.interfaces = t.interfaces ++ [row]
  peers : ∃ added, t'.peers = t.peers ++ added ∧ ∀ p ∈ added, p.interfaceId = a.id

/-- What is recorded under a new id replaces nothing. -/
lemma Recorded.extended {seconds : Int} {operation : Operation} {state : State} {message : String}
    (h : t.Recorded key a seconds operation state message t') (hl : t.Linked)
    (hnew : ∀ r ∈ t.interfaces, r.id < a.id) : t.Extended key a t' := by
  constructor
  case holds =>
    intro b
    rw [h.holds]
    refine or_congr_right (and_iff_right_of_imp ?_)
    rintro ⟨r, hr, hstores⟩
    have hlt := hnew r hr
    rw [hstores.id] at hlt
    exact Int.ne_of_lt hlt
  case interfaces =>
    obtain ⟨row, hrow, heq⟩ := h.interfaces
    refine ⟨row, hrow, ?_⟩
    have hbelow : t.interfaces.filter (fun r => r.id < a.id) = t.interfaces :=
      List.filter_eq_self.mpr fun r hr => decide_eq_true (hnew r hr)
    have habove : t.interfaces.filter (fun r => a.id < r.id) = [] := by
      refine List.filter_eq_nil_iff.mpr fun r hr => ?_
      simpa using Int.le_of_lt (hnew r hr)
    rw [heq, hbelow, habove]
  case peers =>
    obtain ⟨added, heq, hadded⟩ := h.peers
    refine ⟨added, ?_, hadded⟩
    have hothers : t.peers.filter (fun p => p.interfaceId ≠ a.id) = t.peers := by
      refine List.filter_eq_self.mpr fun p hp => decide_eq_true ?_
      obtain ⟨r, hr, hid⟩ := hasInterface_iff.mp (hl.peers p hp)
      exact hid ▸ Int.ne_of_lt (hnew r hr)
    rw [heq, hothers]

end Tables

namespace Site

variable {w : Site}

lemma Reachable.linked (hw : Reachable w) : w.tables.Linked := by
  obtain ⟨es, hevolves⟩ := hw.evolves
  exact Tables.linked_empty.evolves (Tables.sound_empty _) hevolves

/-- What a join comes to on an open store, where `a` is the interface that is to be added. -/
structure Joining (w : Site) (r : JoinResponse) (a : Interface) (text : String)
    (outcome : Except Failure Answer) (w' : Site) : Prop where
  ends : w.Recording r .recordJoin a (w.tables.largestId + 1) .join .joined text outcome w'
  /-- The id is new. -/
  above : ∀ row ∈ w.tables.interfaces, row.id < w.tables.largestId + 1
  /-- A value is invalid exactly if a key is wrong. -/
  invalid : (∃ e, outcome = .error (.agent e) ∧ e.kind = .validation) ↔
    r.wrongKey? ≠ none ∨ a.key.length ≠ Key.size
  /-- Otherwise there is a conflict exactly if an interface has an identity of the answer. -/
  conflict : r.wrongKey? = none → a.key.length = Key.size → fitsColumn a.listenPort = true →
    fitsColumn (w.host.now.tdiv 1000000) = true → w.tables.largestId ≠ maxInteger →
    ((∃ e, outcome = .error (.agent e) ∧ e.kind = .conflict) ↔
      ∃ y, w.tables.Holds w.mounted.store.key y ∧ r.SharedBy y)
  added : ∀ answer, outcome = .ok answer →
    w.tables.Extended w.mounted.store.key { a with id := w.tables.largestId + 1 } w'.tables

/-- A join adds exactly what the answer, the caller and the configuration describe. What the caller
gives goes before what is configured, also an empty URL and the port 0. -/
theorem join_adds_exactly (hw : Reachable w) (config : Config) (apiUrl : Option String)
    (privateKey : Bytes) (listenPort : Option Int) (r : JoinResponse) (message : String) :
    ∃ outcome w', w.exec ((Call.join apiUrl privateKey listenPort r message).perform config) =
        (.ok (outcome, none), w') ∧
      (w.IsOpen → w.Joining r
        { id := 0, apiUrl := apiUrl.getD config.apiUrl, network := r.network, device := r.device
          listenPort := listenPort.getD config.listenPort, key := privateKey
          deviceToken := r.token, peers := r.peers }
        (if message = "" then "joined network " ++ Text.quote r.network.name else message)
        outcome w') ∧
      (¬ w.IsOpen → w.Refused r .recordJoin outcome w') := by
  by_cases hopen : w.IsOpen
  · obtain ⟨outcome, w', hexec, hends⟩ := exec_recording
      (c := .join apiUrl privateKey listenPort r message)
      (i := Agent.joined config apiUrl privateKey listenPort r) (r := r) hw hopen config rfl nofun rfl
      rfl rfl
    have hid : w.tables.idOf (Agent.joined config apiUrl privateKey listenPort r) =
        w.tables.largestId + 1 := if_neg (Int.lt_irrefl 0)
    rw [hid] at hends
    have habove : ∀ row ∈ w.tables.interfaces, row.id < w.tables.largestId + 1 :=
      fun row hrow => Int.lt_add_one_of_le (Tables.le_largestId hrow)
    refine ⟨outcome, w', hexec, fun _ => ?_, fun hclosed => absurd hopen hclosed⟩
    constructor
    case ends => exact hends
    case above => exact habove
    case invalid => exact hends.invalid_iff rfl rfl
    case conflict =>
      intro hkeys hkey hport hclock hleft
      have hi : (Agent.joined config apiUrl privateKey listenPort r).Admissible w.host.now :=
        Interface.admissible_of_checked rfl rfl hkeys hkey (by decide : (0 : Int) ≤ maxInteger) hport
          hclock
      have hstored : ∀ y, w.tables.Holds w.mounted.store.key y → y.id ≠ 0 := by
        rintro y ⟨row, hrow, hstores⟩
        exact hstores.id ▸ Int.ne_of_gt (hw.spec.2.pos row hrow)
      refine (hends.conflict_iff hi fun hused => hleft hused.2).trans
        ((Tables.exists_clashes_iff rfl rfl).trans (exists_congr fun y => ?_))
      exact and_congr_right fun hy => and_iff_right (hstored y hy)
    case added =>
      intro answer hanswer
      obtain ⟨-, -, hrecorded⟩ := hends.recorded answer hanswer
      exact hrecorded.extended hw.linked habove
  · obtain ⟨outcome, w', hexec, hrefused⟩ := exec_refused
      (c := .join apiUrl privateKey listenPort r message) hw.spec.1 hopen config fun f => rfl
    exact ⟨outcome, w', hexec, fun h => absurd h hopen, fun _ => hrefused⟩

/-- The first join, with an empty URL and the port 0. Joining the same device again is refused and
changes nothing. -/
theorem join_adds_exactly_of_same_device :
    let key : Bytes := List.replicate Key.size 0
    let config : Config := { listenPort := 51820 }
    let a : Interface := { joinedFirst with apiUrl := "", listenPort := 0 }
    (∃ w', blank.exec ((Call.join (some "") key (some 0) (replyWith [1]) "").perform config) =
        (.ok (.ok (.interface a), none), w') ∧ w'.Has config a) ∧
    ∃ e w', joinedOnce.exec ((Call.join none key none (replyWith [2]) "").perform {}) =
        (.ok (.error (.agent e), none), w') ∧ e.kind = .conflict ∧ w'.tables = joinedOnce.tables := by
  intro key config a
  constructor
  · obtain ⟨outcome, w', hexec, hjoining, -⟩ :=
      join_adds_exactly reachable_blank config (some "") key (some 0) (replyWith [1]) ""
    have hends := (hjoining rfl).ends
    have hempty : ∀ b, ¬ blank.tables.Holds blank.mounted.store.key b :=
      fun b ⟨r, hr, _⟩ => absurd hr List.not_mem_nil
    have hi : ({ a with id := 0 } : Interface).Admissible blank.host.now := by
      constructor
      case range => exact not_or.mpr ⟨by decide, by decide⟩
      all_goals decide
    have hentered := hends.entered hi (by decide) fun k ⟨y, hy, _⟩ => hempty y hy
    obtain rfl : outcome = .ok (.interface a) := hentered
    obtain ⟨-, hhas, -⟩ := hends.recorded _ rfl
    exact ⟨w', hexec, hhas config⟩
  · obtain ⟨outcome, w', hexec, hjoining, -⟩ :=
      join_adds_exactly reachable_joinedOnce {} none key none (replyWith [2]) ""
    have hopen : joinedOnce.mounted.connection.closed = false := by decide +kernel
    have hnow : joinedOnce.host.now = 0 := by decide +kernel
    have hlargest : joinedOnce.tables.largestId = 1 := by decide +kernel
    have hfirst : joinedOnce.Has {} joinedFirst := eq_ok_of_toOption (by decide +kernel)
    rw [has_iff reachable_joinedOnce.spec.1 hopen reachable_joinedOnce.spec.2] at hfirst
    have hconflict := (hjoining hopen).conflict (by decide) (by decide) (by decide)
      (by rw [hnow]; decide) (by rw [hlargest]; decide)
    obtain ⟨e, rfl, hkind⟩ := hconflict.mpr ⟨joinedFirst, hfirst, .inl rfl⟩
    exact ⟨e, w', hexec, hkind, (hjoining hopen).ends.failed _ rfl⟩

end Site

end MeshAgent
