import OrderKeeper.Paper.Market
import OrderKeeper.Proofs.Keyed
import OrderKeeper.Proofs.Reconcile.Answers
import OrderKeeper.Proofs.Text.Blank
import OrderKeeper.Proofs.Venue.Directory
import OrderKeeper.Trailing.Tick

/-!
Contract: the directory of paper venues.

Owns: the names that the directory and the broker enter alike, the keys of the directory, the
gateway that it has for each name, and the answers of venues of which none fails.

The directory drops blanks around a name and the broker does not.  So the two agree on a
venue exactly if there are none.
-/

set_option autoImplicit false

namespace OrderKeeper

namespace PaperMarket

/-- No configured name has blanks around it. -/
def AreTrimmed (configured : List String) : Prop :=
  ∀ name ∈ configured, Text.trim name = name

instance (configured : List String) : Decidable (AreTrimmed configured) :=
  inferInstanceAs (Decidable (∀ name ∈ configured, _))

variable {configured : List String}

/-- The label of a venue is in upper case, without blanks around it. -/
theorem label_of_trimmed (trimmed : AreTrimmed configured) {label : String}
    (member : label ∈ venueNames configured) :
    Text.upper label = label ∧ Text.trim label = label := by
  obtain ⟨name, isConfigured, rfl⟩ := List.mem_map.mp member
  refine ⟨Text.upper_upper name, ?_⟩
  show Text.trim (Text.upper name) = Text.upper name
  rw [Text.trim_upper, trimmed name isConfigured]

/-- A text in another case has the key of the label. -/
theorem venueKey_of_upper (trimmed : AreTrimmed configured) {label : String}
    (member : label ∈ venueNames configured) {name : String} (sameLabel : Text.upper name = label) :
    venueKey name = label := by
  unfold venueKey
  rw [← Text.trim_upper, sameLabel]
  exact (label_of_trimmed trimmed member).2

theorem venueKey_label (trimmed : AreTrimmed configured) {label : String}
    (member : label ∈ venueNames configured) : venueKey label = label :=
  venueKey_of_upper trimmed member (label_of_trimmed trimmed member).1

/-! ## Entries -/

/-- The entry of a paper venue. -/
def entryOf (label : String) : VenueEntry PaperMarket where
  key := venueKey label
  gateway := (slot label).gateway
  capabilities := .all

/-- The directory as its venues are entered, one after the other. -/
theorem directory_eq (configured : List String) :
    directory configured =
      .ofRegistrations ((venueNames configured).map fun label => (label, (slot label).gateway)) := by
  unfold directory VenueDirectory.ofRegistrations
  rw [List.foldl_map]

/-- The entries are those of the venues. -/
theorem entry_of_directory {venue : VenueEntry PaperMarket}
    (member : venue ∈ (directory configured).venues) :
    ∃ label ∈ venueNames configured, venue = entryOf label := by
  rw [directory_eq] at member
  obtain ⟨registration, registered, rfl⟩ := VenueDirectory.entry_of_registrations member
  obtain ⟨label, isName, rfl⟩ := List.mem_map.mp registered
  exact ⟨label, isName, rfl⟩

/-- Every venue is entered under the key of its label. -/
theorem venueKey_mem_keys {label : String} (member : label ∈ venueNames configured) :
    venueKey label ∈ (directory configured).keys := by
  rw [directory_eq, VenueDirectory.mem_keys_of_registrations]
  exact ⟨_, List.mem_map_of_mem member, rfl⟩

/-- The keys are the labels of the venues. -/
theorem mem_keys_directory (trimmed : AreTrimmed configured) (key : String) :
    key ∈ (directory configured).keys ↔ key ∈ venueNames configured := by
  constructor
  · intro isKey
    rw [directory_eq, VenueDirectory.mem_keys_of_registrations] at isKey
    obtain ⟨registration, registered, rfl⟩ := isKey
    obtain ⟨label, isName, rfl⟩ := List.mem_map.mp registered
    rw [venueKey_label trimmed isName]
    exact isName
  · intro isName
    rw [← venueKey_label trimmed isName]
    exact venueKey_mem_keys isName

/-- Under the name of a venue, in any case, the directory has the gateway to it. -/
theorem gatewayFor_directory (trimmed : AreTrimmed configured) {label : String}
    (member : label ∈ venueNames configured) {name : String} (sameLabel : Text.upper name = label)
    (capability : Capability) :
    (directory configured).gatewayFor name capability = .ok (slot label).gateway := by
  have isKey := venueKey_of_upper trimmed member sameLabel
  obtain ⟨venue, venueMember, venueHasKey⟩ :=
    VenueDirectory.mem_keys.mp ((mem_keys_directory trimmed label).mpr member)
  have isEntry : venue = entryOf label := by
    obtain ⟨other, isName, rfl⟩ := entry_of_directory venueMember
    rw [← (venueKey_label trimmed isName).symm.trans venueHasKey]
  have found : (directory configured).find? name = some (entryOf label) := by
    unfold VenueDirectory.find?
    rw [Keyed.find?_eq_some_iff (directory configured).distinct_keys]
    rw [isEntry] at venueMember venueHasKey
    exact ⟨venueMember, venueHasKey.trans isKey.symm⟩
  unfold VenueDirectory.gatewayFor
  rw [found]
  cases capability <;> rfl

/-- The directory has no other gateways. -/
theorem gateway_of_directory {name : String} {capability : Capability}
    {gateway : VenueGateway PaperMarket}
    (found : (directory configured).gatewayFor name capability = .ok gateway) :
    ∃ label ∈ venueNames configured, gateway = (slot label).gateway := by
  unfold VenueDirectory.gatewayFor at found
  cases entered : (directory configured).find? name with
  | none =>
      rw [entered] at found
      cases found
  | some venue =>
      rw [entered] at found
      dsimp only at found
      split at found
      · obtain ⟨label, isName, isEntry⟩ :=
          entry_of_directory (List.mem_of_find?_eq_some entered)
        refine ⟨label, isName, ?_⟩
        rw [← Except.ok.inj found, isEntry]
        rfl
      · cases found

/-- The look-up of a price leaves the venues as they are. -/
theorem usablePrice?_keeps_world (symbol : String) (market : PaperMarket) :
    (usablePrice? (directory configured) symbol market).2 = market := by
  unfold usablePrice?
  split
  · rfl
  · rename_i gateway found
    obtain ⟨label, -, rfl⟩ := gateway_of_directory found
    split
    · rename_i price world answered
      exact (congrArg Prod.snd answered).symm
    · rename_i answer world _ answered
      exact (congrArg Prod.snd answered).symm

/-! ## Answers -/

/-- What a venue that does not fail answers to a pass. -/
def listingOf (market : PaperMarket) (label : String) : String × ListingAnswer :=
  (label, .ok (market.venueAt label).listing)

/-- Venues that do not fail answer with their books, and nothing changes. -/
theorem answersOf_directory (trimmed : AreTrimmed configured) {market : PaperMarket}
    {labels : List String} (areNames : ∀ label ∈ labels, label ∈ venueNames configured)
    (reachable : ∀ label ∈ labels, (market.venueAt label).failing = false) :
    (directory configured).answersOf labels market = (labels.map market.listingOf, market) := by
  induction labels with
  | nil => rfl
  | cons label rest inductionHypothesis =>
      have restAnswers := inductionHypothesis
        (fun later member => areNames later (List.mem_cons_of_mem label member))
        (fun later member => reachable later (List.mem_cons_of_mem label member))
      have isName := areNames label List.mem_cons_self
      have answer : (directory configured).answerOf label market =
          (.ok (market.venueAt label).listing, market) := by
        unfold VenueDirectory.answerOf
        rw [gatewayFor_directory trimmed isName (label_of_trimmed trimmed isName).1]
        have answers : (market.venueAt label).answerListing =
            .ok (market.venueAt label).listing := by
          unfold PaperExchange.answerListing
          rw [reachable label List.mem_cons_self, if_neg Bool.false_ne_true]
        exact Prod.ext answers rfl
      unfold VenueDirectory.answersOf
      rw [answer]
      dsimp only
      rw [restAnswers]
      rfl

end PaperMarket

end OrderKeeper
