import MeshAgent.Proofs.Home.Recording
import MeshAgent.Proofs.Home.Tokens

/-!
# Refreshing an interface

A refresh puts what the control plane answers about network, device and peers in the place of what was
held, and takes over the rest. The token is taken over as well if the answer has none. A refresh of an
id that is not stored stores it.
-/
namespace MeshAgent.Site

variable {w : Site}

/-- What a refresh of `i` comes to on an open store, where `a` is the interface that is to be
stored. -/
structure Refreshing (w : Site) (i : Interface) (r : JoinResponse) (a : Interface) (text : String)
    (outcome : Except Failure Answer) (w' : Site) : Prop where
  ends : w.Recording r .recordRefresh a i.id .refresh .refreshed text outcome w'
  /-- A value is invalid exactly if a key is wrong. -/
  invalid : (∃ e, outcome = .error (.agent e) ∧ e.kind = .validation) ↔
    r.wrongKey? ≠ none ∨ i.key.length ≠ Key.size
  /-- Otherwise there is a conflict exactly if another interface has an identity of the answer. -/
  conflict : r.wrongKey? = none → i.key.length = Key.size → fitsColumn i.listenPort = true →
    fitsColumn (w.host.now.tdiv 1000000) = true →
    ((∃ e, outcome = .error (.agent e) ∧ e.kind = .conflict) ↔
      ∃ y, w.tables.Holds w.mounted.store.key y ∧ y.id ≠ i.id ∧ r.SharedBy y)

/-- A refresh replaces exactly what the answer tells, and leaves the interface in the hands of its
caller alone. -/
theorem refresh_replaces_exactly (hw : Reachable w) (config : Config) (i : Interface)
    (hpos : 0 < i.id) (hmax : i.id ≤ maxInteger) (r : JoinResponse) (message : String) :
    ∃ outcome w', w.exec ((Call.refresh i r message).perform config) =
        (.ok (outcome, some i), w') ∧
      (w.IsOpen → w.Refreshing i r
        { id := i.id, apiUrl := i.apiUrl, network := r.network, device := r.device
          listenPort := i.listenPort, key := i.key
          deviceToken := if r.token = [] then i.deviceToken else r.token, peers := r.peers }
        (if message = "" then "refreshed " ++ shown r.peers.length ++ " peers" else message)
        outcome w') ∧
      (¬ w.IsOpen → w.Refused r .recordRefresh outcome w') := by
  by_cases hopen : w.IsOpen
  · have hfits : fitsColumn i.id = true := by
      rw [fitsColumn_iff]
      omega
    obtain ⟨outcome, w', hexec, hends⟩ := exec_recording (c := .refresh i r message)
      (i := Agent.refreshed i r) (r := r) hw hopen config rfl nofun rfl rfl hfits
    have hid : w.tables.idOf (Agent.refreshed i r) = i.id := if_pos hpos
    rw [hid] at hends
    refine ⟨outcome, w', hexec, fun _ => ⟨hends, hends.invalid_iff rfl rfl, ?_⟩,
      fun hclosed => absurd hopen hclosed⟩
    intro hkeys hkey hport hclock
    have hi : (Agent.refreshed i r).Admissible w.host.now :=
      Interface.admissible_of_checked rfl rfl hkeys hkey hmax hport hclock
    have hgiven : ¬ (i.id ≤ 0 ∧ w.tables.largestId = maxInteger) :=
      fun hused => absurd hused.1 (Int.not_le.mpr hpos)
    exact (hends.conflict_iff hi hgiven).trans (Tables.exists_clashes_iff rfl rfl)
  · obtain ⟨outcome, w', hexec, hrefused⟩ :=
      exec_refused (c := .refresh i r message) hw.spec.1 hopen config fun f => rfl
    exact ⟨outcome, w', hexec, fun h => absurd h hopen, fun _ => hrefused⟩

/-- A refresh without a token, of the interface that has been joined. It keeps the token that the join
delivered. -/
theorem refresh_replaces_exactly_of_joined :
    let peer : Device :=
      { id := "b", name := "y", addr := .v4 ⟨0, Address.fullPrefix4⟩
        publicKey := List.replicate Key.size 1 }
    let a : Interface := { joinedFirst with peers := [peer] }
    Reachable joinedOnce ∧ 0 < joinedFirst.id ∧ joinedFirst.id ≤ maxInteger ∧
    ∃ w', joinedOnce.exec
        ((Call.refresh joinedFirst { replyWith [] with peers := [peer] } "").perform {}) =
          (.ok (.ok (.interface a), some joinedFirst), w') ∧
      w'.Has {} a ∧ a.deviceToken = [1] ∧
      w'.tables.log.map (·.message) = ["joined network \'\'", "refreshed 1 peers"] := by
  intro peer a
  have hopen : joinedOnce.mounted.connection.closed = false := by decide +kernel
  have hnow : joinedOnce.host.now = 0 := by decide +kernel
  have hlast : joinedOnce.tables.lastLogId = 1 := by decide +kernel
  have honly : joinedOnce.tables.interfaces.map (·.id) = [1] := by decide +kernel
  have hlog : joinedOnce.tables.log.map (·.message) = ["joined network \'\'"] := by decide +kernel
  obtain ⟨outcome, w', hexec, hrefreshing, -⟩ := refresh_replaces_exactly reachable_joinedOnce {}
    joinedFirst (by decide) (by decide) { replyWith [] with peers := [peer] } ""
  have hends := (hrefreshing hopen).ends
  have hi : a.Admissible joinedOnce.host.now := by
    rw [hnow]
    constructor
    case range => exact not_or.mpr ⟨by decide, by decide⟩
    all_goals decide
  have hapart : ∀ k, ¬ joinedOnce.tables.Clashes joinedOnce.mounted.store.key 1 a k := by
    rintro k ⟨y, ⟨row, hrow, hstores⟩, hne, -⟩
    have hid := List.mem_map_of_mem (f := (·.id)) hrow
    rw [honly, List.mem_singleton, hstores.id] at hid
    exact hne hid
  have hentered := hends.entered hi (by decide) hapart
  rw [hnow, hlast] at hentered
  obtain rfl : outcome = .ok (.interface a) := hentered
  obtain ⟨-, hhas, hrecorded⟩ := hends.recorded _ rfl
  refine ⟨reachable_joinedOnce, by decide, by decide, w', hexec, hhas {}, rfl, ?_⟩
  rw [hrecorded.log, List.map_append, hlog]
  decide +kernel

end MeshAgent.Site
