import DeliveryRouting.Proofs.Search.Reachable

/-! # Other trips for some vehicles

Vehicles that get other trips get them one after the other. As long as the changes only move stops
around and take in dropped deliveries, the order does not matter (`Consistent.install_perm`): the
stops of the vehicles are the same in the end, and a consistent solution is determined by them.

What becomes of a node depends on where it stood and where it stands: a node of a new trip is served
by its vehicle (`Consistent.vehicleOf_install_of_mem`), one that no new trip has taken from an old
one is dropped (`Consistent.vehicleOf_install_of_left`), and for all others nothing changes
(`Consistent.vehicleOf_install_of_notMem`). Between the two changes of two vehicles a node may stand
on both trips, or on none although it is to be served (`Consistent.replace_two_trips`). -/

namespace DeliveryRouting.Solution

variable {m : Model} {s : Solution} {vehicle node : Nat}
  {changes changes' : List (Change × Schedule)}

theorem Redistributes.mem_nodes_install_iff (h : Redistributes m s changes) :
    node ∈ (s.install m changes).nodes vehicle ↔
      (∃ c ∈ changes, c.1.vehicle = vehicle ∧ node ∈ c.1.nodes) ∨
        vehicle ∉ changes.map (·.1.vehicle) ∧ node ∈ s.nodes vehicle := by
  by_cases hv : vehicle ∈ changes.map (·.1.vehicle)
  · constructor
    · obtain ⟨c, hc, rfl⟩ := List.mem_map.mp hv
      rw [h.nodes_install hc]
      exact fun hn => .inl ⟨c, hc, rfl, hn⟩
    · rintro (⟨c, hc, rfl, hn⟩ | ⟨notChanged, -⟩)
      · rwa [h.nodes_install hc]
      · exact absurd hv notChanged
  · rw [nodes_install_of_notMem hv]
    constructor
    · exact fun hn => .inr ⟨hv, hn⟩
    · rintro (⟨c, hc, rfl, -⟩ | ⟨-, hn⟩)
      · exact absurd (List.mem_map_of_mem hc) hv
      · exact hn

section Install

variable (hs : s.Consistent m) (h : Redistributes m s changes)
include hs h

/-- **Changes may be made in any order.** -/
theorem Consistent.install_perm (same : changes.Perm changes') :
    s.install m changes = s.install m changes' := by
  refine (hs.install h).eq_of_nodes (hs.install (h.perm same)) fun v => ?_
  by_cases hv : v ∈ changes.map (·.1.vehicle)
  · obtain ⟨c, hc, rfl⟩ := List.mem_map.mp hv
    rw [h.nodes_install hc, (h.perm same).nodes_install (same.mem_iff.mp hc)]
  · have hv' : v ∉ changes'.map (·.1.vehicle) := fun h' => hv ((same.map _).mem_iff.mpr h')
    rw [nodes_install_of_notMem hv, nodes_install_of_notMem hv']

theorem Consistent.vehicleOf_install_of_mem {c : Change × Schedule} (hc : c ∈ changes)
    (new : node ∈ c.1.nodes) : (s.install m changes).vehicleOf node = some c.1.vehicle := by
  rw [hs.vehicleOf_install_iff h, h.nodes_install hc]
  exact new

theorem Consistent.vehicleOf_install_of_left (hv : vehicle ∈ changes.map (·.1.vehicle))
    (old : node ∈ s.nodes vehicle) (left : node ∉ changes.flatMap (·.1.nodes)) :
    (s.install m changes).vehicleOf node = none := by
  refine Option.eq_none_iff_forall_ne_some.mpr fun v served => ?_
  rw [hs.vehicleOf_install_iff h, h.mem_nodes_install_iff] at served
  rcases served with ⟨c, hc, -, hn⟩ | ⟨notChanged, hn⟩
  · exact left (List.mem_flatMap.mpr ⟨c, hc, hn⟩)
  · exact notChanged (hs.eq_of_mem_nodes hn old ▸ hv)

/-- Where a node neither stood nor stands on a changed trip, nothing changes for it. -/
theorem Consistent.vehicleOf_install_of_notMem
    (old : ∀ v ∈ changes.map (·.1.vehicle), node ∉ s.nodes v)
    (new : node ∉ changes.flatMap (·.1.nodes)) :
    (s.install m changes).vehicleOf node = s.vehicleOf node := by
  ext v
  rw [hs.vehicleOf_install_iff h, h.mem_nodes_install_iff, hs.vehicleOf_eq_some_iff]
  constructor
  · rintro (⟨c, hc, -, hn⟩ | ⟨-, hn⟩)
    · exact absurd (List.mem_flatMap.mpr ⟨c, hc, hn⟩) new
    · exact hn
  · exact fun hn => .inr ⟨fun hv => old v hv hn, hn⟩

end Install

/-! ### Two vehicles -/

section Two

variable {first second : Nat} {here there : List Nat} {schedule schedule' : Schedule}

theorem Consistent.redistributes_two (hs : s.Consistent m) (known : first < s.trips.length)
    (known' : second < s.trips.length) (apart : first ≠ second) (once : here.Nodup)
    (once' : there.Nodup) (disjoint : here.Disjoint there)
    (drawn : ∀ node ∈ here ++ there,
      node ∈ s.nodes first ∨ node ∈ s.nodes second ∨ node ∈ s.dropped)
    (runs : Schedule.compute m first here = .ok schedule)
    (runs' : Schedule.compute m second there = .ok schedule') :
    Redistributes m s [(⟨first, here⟩, schedule), (⟨second, there⟩, schedule')] := by
  have stops : [((⟨first, here⟩ : Change), schedule), (⟨second, there⟩, schedule')].flatMap
      (·.1.nodes) = here ++ there := by simp
  refine ⟨by simp [apart], by simp [known, known'], by simp [runs, runs'], ?nodup, ?free, ?noDepot⟩
  case nodup => exact stops ▸ List.nodup_append'.mpr ⟨once, once', disjoint⟩
  case free =>
    intro node hnode v served
    have hv := (hs.vehicleOf_eq_some_iff node v).mp served
    simp only [List.map_cons, List.map_nil, List.mem_cons, List.not_mem_nil, or_false]
    rcases drawn node (stops ▸ hnode) with hn | hn | hn
    · exact .inl (hs.eq_of_mem_nodes hv hn)
    · exact .inr (hs.eq_of_mem_nodes hv hn)
    · exact absurd hv (hs.notMem_nodes_of_mem_dropped hn v)
  case noDepot =>
    intro hdepot
    rcases drawn depot (stops ▸ hdepot) with hn | hn | hn
    · exact hs.depot_notMem first hn
    · exact hs.depot_notMem second hn
    · exact (m.mem_deliveries.mp (hs.mem_deliveries_of_mem_dropped hn)).1 rfl

/-- **Two vehicles may get their new trips in either order.** The new trips are made of stops of the
two vehicles and of dropped deliveries, none of them twice, and both can be run. Either way every
stop of a new trip is served by its vehicle, what the two no longer serve is dropped, and nothing
else changes. -/
theorem Consistent.replace_two_trips (hs : s.Consistent m) (known : first < s.trips.length)
    (known' : second < s.trips.length) (apart : first ≠ second) (once : here.Nodup)
    (once' : there.Nodup) (disjoint : here.Disjoint there)
    (drawn : ∀ node ∈ here ++ there,
      node ∈ s.nodes first ∨ node ∈ s.nodes second ∨ node ∈ s.dropped)
    (runs : Schedule.compute m first here = .ok schedule)
    (runs' : Schedule.compute m second there = .ok schedule') {s' : Solution}
    (after : (s.replaceTrip m first here schedule).replaceTrip m second there schedule' = s') :
    (s.replaceTrip m second there schedule').replaceTrip m first here schedule = s' ∧
    s'.Consistent m ∧
    s'.trip first = ⟨here, schedule, tripCost m here⟩ ∧
    s'.trip second = ⟨there, schedule', tripCost m there⟩ ∧
    (∀ vehicle, vehicle ≠ first → vehicle ≠ second → s'.trip vehicle = s.trip vehicle) ∧
    (∀ node ∈ here, s'.vehicleOf node = some first) ∧
    (∀ node ∈ there, s'.vehicleOf node = some second) ∧
    (∀ node ∈ s.nodes first ++ s.nodes second, node ∉ here ++ there → s'.vehicleOf node = none) ∧
    ∀ node, node ∉ s.nodes first ++ s.nodes second → node ∉ here ++ there →
      s'.vehicleOf node = s.vehicleOf node := by
  have h := hs.redistributes_two known known' apart once once' disjoint drawn runs runs'
  set one : Change × Schedule := (⟨first, here⟩, schedule)
  set two : Change × Schedule := (⟨second, there⟩, schedule')
  have made : s.install m [one, two] = s' := after
  have stops : [one, two].flatMap (·.1.nodes) = here ++ there := by simp [one, two]
  have hone : one ∈ [one, two] := by simp
  have htwo : two ∈ [one, two] := by simp
  rw [← made]
  refine ⟨(hs.install_perm h (.swap two one [])).symm, hs.install h,
    trip_install_of_mem h.distinct h.exist hone, trip_install_of_mem h.distinct h.exist htwo,
    fun vehicle hfirst hsecond => trip_install_of_notMem (by simp [one, two, hfirst, hsecond]),
    fun node hn => hs.vehicleOf_install_of_mem h hone hn,
    fun node hn => hs.vehicleOf_install_of_mem h htwo hn, ?left, ?others⟩
  case left =>
    intro node old left
    rw [← stops] at left
    rcases List.mem_append.mp old with hn | hn
    · exact hs.vehicleOf_install_of_left h (List.mem_map_of_mem hone) hn left
    · exact hs.vehicleOf_install_of_left h (List.mem_map_of_mem htwo) hn left
  case others =>
    intro node old new
    rw [List.mem_append, not_or] at old
    refine hs.vehicleOf_install_of_notMem h ?_ (stops ▸ new)
    simpa [one, two] using old

/-- Each of two vehicles takes the delivery of the other one, which stands on both trips when only
one of them has got it. -/
theorem replace_two_trips_pairApart : pairApart.Consistent pairModel ∧
    Schedule.compute pairModel 0 [2] = .ok ⟨[100], 120, 1⟩ ∧
    Schedule.compute pairModel 1 [1] = .ok ⟨[20], 30, 1⟩ ∧
    ∃ s', (pairApart.replaceTrip pairModel 0 [2] ⟨[100], 120, 1⟩).replaceTrip pairModel 1 [1]
        ⟨[20], 30, 1⟩ = s' ∧
      (pairApart.replaceTrip pairModel 1 [1] ⟨[20], 30, 1⟩).replaceTrip pairModel 0 [2]
        ⟨[100], 120, 1⟩ = s' ∧
      s'.Consistent pairModel ∧ s'.vehicleOf 2 = some 0 ∧ s'.vehicleOf 1 = some 1 := by
  have hs := reachable_pairApart.consistent
  have runs : Schedule.compute pairModel 0 [2] = .ok ⟨[100], 120, 1⟩ := rfl
  have runs' : Schedule.compute pairModel 1 [1] = .ok ⟨[20], 30, 1⟩ := rfl
  obtain ⟨same, hs', -, -, -, here, there, -⟩ :=
    hs.replace_two_trips (by decide) (by decide) (by decide) (List.nodup_singleton 2)
      (List.nodup_singleton 1) (by simp) (by decide) runs runs' rfl
  exact ⟨hs, runs, runs', _, rfl, same, hs', here 2 (by simp), there 1 (by simp)⟩

end Two

end DeliveryRouting.Solution
