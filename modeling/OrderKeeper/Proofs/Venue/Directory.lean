import OrderKeeper.Proofs.Text.Blank
import OrderKeeper.Proofs.Text.Case
import OrderKeeper.Venue.Directory

/-!
Contract: the keys of a directory.

Owns: directories as they are entered venue by venue, their entries and their keys, the look-up
of a gateway in any case of its name, the upper case of the keys, and that two keys differ in more
than case.
-/

set_option autoImplicit false

namespace OrderKeeper

variable {World : Type}

namespace VenueDirectory

/-- A gateway is found under its name in any case. -/
theorem gatewayFor_of_sameLetters {directory : VenueDirectory World} {name other : String}
    (same : Text.sameLetters name other = true) {capability : Capability}
    {gateway : VenueGateway World} (found : directory.gatewayFor other capability = .ok gateway) :
    directory.gatewayFor name capability = .ok gateway := by
  have sameKey : venueKey name = venueKey other := by
    unfold venueKey
    rw [← Text.trim_upper, ← Text.trim_upper, (Text.sameLetters_iff name other).mp same]
  have sameEntry : directory.find? name = directory.find? other := by
    unfold find?
    rw [sameKey]
  unfold gatewayFor at found ⊢
  rw [sameEntry]
  cases entered : directory.find? other with
  | none =>
      rw [entered] at found
      cases found
  | some venue =>
      rw [entered] at found
      exact found

/-- The directory after venues are entered one after the other. -/
def ofRegistrations (registrations : List (String × VenueGateway World)) : VenueDirectory World :=
  registrations.foldl (fun directory venue => directory.insert venue.1 venue.2) .empty

theorem mem_keys {directory : VenueDirectory World} {key : String} :
    key ∈ directory.keys ↔ ∃ venue ∈ directory.venues, venue.key = key :=
  (List.mergeSort_perm _ _).mem_iff.trans List.mem_map

/-- The entry that a registration makes. -/
def entryOf (registration : String × VenueGateway World) : VenueEntry World where
  key := venueKey registration.1
  gateway := registration.2
  capabilities := registration.2.capabilities

/-- An entry takes the place of the one that had its key. -/
theorem mem_insert (directory : VenueDirectory World) (registration : String × VenueGateway World)
    (venue : VenueEntry World) :
    venue ∈ (directory.insert registration.1 registration.2).venues ↔
      (venue ∈ directory.venues ∧ venue.key ≠ venueKey registration.1) ∨
        venue = entryOf registration := by
  show venue ∈ directory.venues.filter (fun venue => venue.key != venueKey registration.1) ++
    [entryOf registration] ↔ _
  rw [List.mem_append, List.mem_filter, List.mem_singleton, bne_iff_ne]

theorem ofRegistrations_concat (registrations : List (String × VenueGateway World))
    (registration : String × VenueGateway World) :
    ofRegistrations (registrations ++ [registration]) =
      (ofRegistrations registrations).insert registration.1 registration.2 := by
  unfold ofRegistrations
  rw [List.foldl_append]
  rfl

/-- Every entry is the entry of a registration. -/
theorem entry_of_registrations {registrations : List (String × VenueGateway World)}
    {venue : VenueEntry World} (member : venue ∈ (ofRegistrations registrations).venues) :
    ∃ registration ∈ registrations, venue = entryOf registration := by
  induction registrations using List.reverseRecOn with
  | nil => cases member
  | append_singleton earlier registration inductionHypothesis =>
      rw [ofRegistrations_concat, mem_insert] at member
      rcases member with ⟨old, -⟩ | isEntry
      · obtain ⟨found, foundMember, isFound⟩ := inductionHypothesis old
        exact ⟨found, List.mem_append_left _ foundMember, isFound⟩
      · exact ⟨registration, List.mem_append_right _ List.mem_cons_self, isEntry⟩

/-- The keys are those of the names that were entered. -/
theorem mem_keys_of_registrations {registrations : List (String × VenueGateway World)}
    {key : String} :
    key ∈ (ofRegistrations registrations).keys ↔
      ∃ registration ∈ registrations, venueKey registration.1 = key := by
  rw [mem_keys]
  constructor
  · rintro ⟨venue, member, rfl⟩
    obtain ⟨registration, registered, rfl⟩ := entry_of_registrations member
    exact ⟨registration, registered, rfl⟩
  · rintro ⟨registration, registered, rfl⟩
    induction registrations using List.reverseRecOn with
    | nil => cases registered
    | append_singleton earlier last inductionHypothesis =>
        simp only [ofRegistrations_concat, mem_insert]
        by_cases replaced : venueKey registration.1 = venueKey last.1
        · exact ⟨entryOf last, Or.inr rfl, replaced.symm⟩
        · rcases List.mem_append.mp registered with old | isLast
          · obtain ⟨venue, member, isKey⟩ := inductionHypothesis old
            exact ⟨venue, Or.inl ⟨member, fun same => replaced (isKey.symm.trans same)⟩, isKey⟩
          · rw [List.mem_singleton.mp isLast] at replaced
            exact absurd rfl replaced

/-- Venues are entered in upper case. -/
theorem upper_key_of_registrations (registrations : List (String × VenueGateway World)) :
    ∀ venue ∈ (ofRegistrations registrations).venues, Text.upper venue.key = venue.key := by
  intro venue member
  obtain ⟨registration, -, rfl⟩ := entry_of_registrations member
  exact Text.upper_upper (Text.trim registration.1)

/-- The keys of a directory in upper case differ in more than case. -/
theorem keys_apart {directory : VenueDirectory World}
    (areUpper : ∀ venue ∈ directory.venues, Text.upper venue.key = venue.key) :
    directory.keys.Pairwise fun first second => Text.sameLetters second first = false := by
  have perm : directory.keys.Perm (directory.venues.map VenueEntry.key) :=
    List.mergeSort_perm _ _
  have upperKey : ∀ key ∈ directory.keys, Text.upper key = key := by
    intro key member
    obtain ⟨venue, venueMember, rfl⟩ := mem_keys.mp member
    exact areUpper venue venueMember
  have distinct : directory.keys.Nodup := perm.nodup_iff.mpr directory.distinct_keys
  refine List.Pairwise.imp_of_mem ?_ distinct
  intro first second firstMember secondMember different
  by_contra same
  rw [Bool.not_eq_false] at same
  exact different
    (Text.eq_of_sameLetters (upperKey second secondMember) (upperKey first firstMember) same).symm

end VenueDirectory

end OrderKeeper
