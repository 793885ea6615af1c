import BombMission.Proofs.Catalog.Identity

/-!
# Which profile keywords are offered

A profile may be asked for its solvable and for its needy modules, with one keyword for each. Both are
offered of an expert profile. Of a defuser profile a keyword is offered when the profile lists a
module of that kind, and whether the host has that module enabled makes no difference: what the
profile hides is a matter of the profile. So a keyword that would change what a pool may draw is never
missing, and one that changes nothing now may still stand there for a mod that is disabled.

## Main results

* `Profile.removes_iff`: what it is for a profile to change anything.
* `Profile.isOfferedFor_of_removes` and `Profile.isOfferedFor_defuser_iff`: a defuser profile against
  what it removes now, and what it would remove if no mod were disabled.
* `keywords_listing`: the whole listing, for every catalog and every registry.
-/

namespace BombMission

/-! ### What a profile removes -/

/-- A catalog of the same mods, none of them disabled. -/
def Catalog.allOn (catalog : Catalog) : Catalog :=
  { catalog with disabled := .empty }

namespace Profile

variable {profile : Profile} {catalog : Catalog} {kind : ModuleKind}

/-- The profile leaves out some module of this kind that pools could draw without it. -/
def Removes (profile : Profile) (catalog : Catalog) (kind : ModuleKind) : Prop :=
  profile.enabledModules catalog kind ≠ catalog.enabled kind

/-- None of the ids that the profile lists is a vanilla id with a mod of this kind behind it. -/
def ListsNoHidden (profile : Profile) (catalog : Catalog) (kind : ModuleKind) : Prop :=
  ∀ id ∈ profile.disabled, id ∈ catalog.mods kind → VanillaModule.ofId? id = none

theorem removes_iff :
    profile.Removes catalog kind ↔
      ∃ id ∈ profile.disabled, id ∈ (catalog.enabled kind).map ModuleRef.id := by
  rw [Removes, enabledModules, Ne, List.filter_eq_self]
  simp only [decide_eq_true_eq, List.mem_map, not_forall, not_not]
  constructor
  · rintro ⟨m, member, hidden⟩
    exact ⟨m.id, hidden, m, member, rfl⟩
  · rintro ⟨_, hidden, m, member, rfl⟩
    exact ⟨m, member, hidden⟩

theorem isOfferedFor_iff :
    profile.isOfferedFor catalog kind = true ↔
      profile.kind = .expert ∨ ∃ id ∈ profile.disabled, catalog.lists kind id = true := by
  simp [isOfferedFor, List.any_eq_true]

/-- Whatever pools may draw is a module of its kind, so a profile that removes something is
offered. -/
theorem isOfferedFor_of_removes (removes : profile.Removes catalog kind) :
    profile.isOfferedFor catalog kind = true := by
  obtain ⟨id, hidden, member⟩ := removes_iff.1 removes
  refine isOfferedFor_iff.2 (.inr ⟨id, hidden, Catalog.lists_eq_true_iff.2 ?_⟩)
  rcases Catalog.mem_ids_enabled_iff.1 member with ⟨own, played, rfl⟩ | offered
  · exact .inl ⟨own, own.ofId?_id, played⟩
  · exact .inr (Catalog.mem_enabledMods_iff.1 offered).1

theorem mem_ids_enabled_allOn_iff {id : String} :
    id ∈ (catalog.allOn.enabled kind).map ModuleRef.id ↔
      (∃ own, VanillaModule.ofId? id = some own ∧ own.kind = kind) ∨
        (id ∈ catalog.mods kind ∧ VanillaModule.ofId? id = none) := by
  have vanilla : (∃ own : VanillaModule, own.kind = kind ∧ own.id = id) ↔
      ∃ own, VanillaModule.ofId? id = some own ∧ own.kind = kind := by
    simp only [VanillaModule.ofId?_eq_some_iff, and_comm]
  have mods : catalog.allOn.mods kind = catalog.mods kind := by
    cases kind <;> rfl
  have enabled : ¬ id ∈ catalog.allOn.disabled := IdSet.not_mem_empty
  rw [Catalog.mem_ids_enabled_iff, Catalog.mem_enabledMods_iff, vanilla, mods]
  simp [enabled]

/-- A defuser profile is offered exactly when it would remove something if no mod were disabled. -/
theorem isOfferedFor_defuser_iff (defuser : profile.kind = .defuser)
    (visible : profile.ListsNoHidden catalog kind) :
    profile.isOfferedFor catalog kind = true ↔ profile.Removes catalog.allOn kind := by
  rw [isOfferedFor_iff, removes_iff, defuser]
  simp only [reduceCtorEq, false_or, mem_ids_enabled_allOn_iff, Catalog.lists_eq_true_iff]
  constructor
  · rintro ⟨id, hidden, own | installed⟩
    · exact ⟨id, hidden, .inl own⟩
    · exact ⟨id, hidden, .inr ⟨installed, visible id hidden installed⟩⟩
  · rintro ⟨id, hidden, own | ⟨installed, -⟩⟩
    · exact ⟨id, hidden, .inl own⟩
    · exact ⟨id, hidden, .inr installed⟩

end Profile

/-! ### The listing -/

/-- One keyword: a profile by its name, asked for its modules of one kind. -/
structure ProfileOffer where
  name : String
  kind : ModuleKind
  deriving DecidableEq, Repr

namespace ProfileOffer

def entry (offer : ProfileOffer) : Entry :=
  { id := profileKeyword offer.kind ++ offer.name
    name := offer.name ++ match offer.kind with
      | .solvable => " (solvable modules enabled by profile)"
      | .needy => " (needy modules enabled by profile)" }

/-- Offers stand in order of names, and the keyword for solvable modules comes first. -/
def Before (first second : ProfileOffer) : Prop :=
  first.name < second.name ∨
    first.name = second.name ∧ first.kind = .solvable ∧ second.kind = .needy

theorem Before.ne {first second : ProfileOffer} (before : first.Before second) :
    first ≠ second := by
  rintro rfl
  rcases before with below | ⟨-, solvable, needy⟩
  · exact String.lt_irrefl _ below
  · cases solvable.symm.trans needy

/-- The two keywords start with different letters, and what is behind them is the name. -/
theorem id_entry_injective {first second : ProfileOffer} (same : first.entry.id = second.entry.id) :
    first = second := by
  have letters := congrArg String.toList same
  obtain ⟨name, kind⟩ := first
  obtain ⟨otherName, otherKind⟩ := second
  cases kind <;> cases otherKind <;>
    simp [entry, profileKeyword, String.toList_inj] at letters ⊢
  · exact letters
  · exact letters

end ProfileOffer

/-- The keywords of a profile that are offered, as offers. -/
def Profile.offers (profile : Profile) (catalog : Catalog) (name : String) : List ProfileOffer :=
  ([.solvable, .needy].filter (profile.isOfferedFor catalog)).map fun kind => ⟨name, kind⟩

theorem Profile.mem_offers_iff {profile : Profile} {catalog : Catalog} {name : String}
    {offer : ProfileOffer} :
    offer ∈ profile.offers catalog name ↔
      offer.name = name ∧ profile.isOfferedFor catalog offer.kind = true := by
  obtain ⟨own, kind⟩ := offer
  cases kind <;> simp [offers, and_comm, @eq_comm _ name]

theorem Profile.pairwise_offers (profile : Profile) (catalog : Catalog) (name : String) :
    (profile.offers catalog name).Pairwise ProfileOffer.Before := by
  have both : [ModuleKind.solvable, .needy].Pairwise fun first second =>
      ProfileOffer.Before ⟨name, first⟩ ⟨name, second⟩ := by
    simp [ProfileOffer.Before]
  exact List.pairwise_map.2 (both.filter _)

theorem Profile.keywords_eq (profile : Profile) (catalog : Catalog) (name : String) :
    profile.keywords catalog name = (profile.offers catalog name).map ProfileOffer.entry := by
  unfold keywords offers
  cases solvable : profile.isOfferedFor catalog .solvable <;>
    cases needy : profile.isOfferedFor catalog .needy <;>
      simp [solvable, needy, ProfileOffer.entry]

namespace ProfileRegistry

def offers (registry : ProfileRegistry) (catalog : Catalog) : List ProfileOffer :=
  registry.rows.flatMap fun row => row.2.offers catalog row.1

theorem keywords_eq (registry : ProfileRegistry) (catalog : Catalog) :
    registry.keywords catalog = (registry.offers catalog).map ProfileOffer.entry := by
  simp only [keywords, offers, List.map_flatMap, Profile.keywords_eq]

theorem pairwise_offers (registry : ProfileRegistry) (catalog : Catalog) :
    (registry.offers catalog).Pairwise ProfileOffer.Before := by
  refine List.pairwise_flatMap.2 ⟨fun row _ => row.2.pairwise_offers catalog row.1, ?_⟩
  -- the rows are in order of names, and every offer has the name of its row
  refine (List.pairwise_map.1 registry.sorted).imp ?_
  intro row other below first firstOffered second secondOffered
  rw [Profile.mem_offers_iff] at firstOffered secondOffered
  left
  rw [firstOffered.1, secondOffered.1]
  exact below

theorem mem_offers_iff {registry : ProfileRegistry} {catalog : Catalog} {offer : ProfileOffer} :
    offer ∈ registry.offers catalog ↔ ∃ profile, registry.get? offer.name = some profile ∧
      profile.isOfferedFor catalog offer.kind = true := by
  rw [offers, List.mem_flatMap]
  constructor
  · rintro ⟨row, member, offered⟩
    obtain ⟨named, offered⟩ := Profile.mem_offers_iff.1 offered
    exact ⟨row.2, named ▸ IdMap.mem_rows_iff.1 member, offered⟩
  · rintro ⟨profile, found, offered⟩
    exact ⟨(offer.name, profile), IdMap.mem_rows_iff.2 found,
      Profile.mem_offers_iff.2 ⟨rfl, offered⟩⟩

/-- What a registry lists of its profiles: offers in order, each once, and which they are. -/
structure Lists (registry : ProfileRegistry) (catalog : Catalog) (offers : List ProfileOffer) :
    Prop where
  entries : registry.keywords catalog = offers.map ProfileOffer.entry
  ordered : offers.Pairwise ProfileOffer.Before
  distinct : ((registry.keywords catalog).map Entry.id).Nodup
  named : ∀ offer ∈ offers, (registry.get? offer.name).isSome = true
  expert : ∀ name profile, registry.get? name = some profile → profile.kind = .expert →
    ∀ kind, ⟨name, kind⟩ ∈ offers
  /-- A defuser profile that is left out removes nothing. -/
  removing : ∀ name profile kind, registry.get? name = some profile →
    profile.Removes catalog kind → ⟨name, kind⟩ ∈ offers
  /-- Mods count whether they are disabled or not. -/
  defuser : ∀ name profile kind, registry.get? name = some profile → profile.kind = .defuser →
    profile.ListsNoHidden catalog kind →
    (⟨name, kind⟩ ∈ offers ↔ profile.Removes catalog.allOn kind)

end ProfileRegistry

/-- The keywords of profiles stand in order and each once, both of every expert profile, and of a
defuser profile those for which it removes something or would do so if no mod were disabled. -/
theorem keywords_listing (registry : ProfileRegistry) (catalog : Catalog) :
    ∃ offers, registry.Lists catalog offers := by
  have offered : ∀ {name profile kind}, registry.get? name = some profile →
      (⟨name, kind⟩ ∈ registry.offers catalog ↔ profile.isOfferedFor catalog kind = true) := by
    intro name profile kind found
    simp [ProfileRegistry.mem_offers_iff, found]
  have ordered := registry.pairwise_offers catalog
  refine ⟨registry.offers catalog, registry.keywords_eq catalog, ordered, ?_, ?_, ?_, ?_, ?_⟩
  · rw [registry.keywords_eq, List.map_map]
    refine List.pairwise_map.2 (ordered.imp fun before same => before.ne ?_)
    exact ProfileOffer.id_entry_injective same
  · intro offer member
    obtain ⟨profile, found, -⟩ := ProfileRegistry.mem_offers_iff.1 member
    exact found ▸ rfl
  · intro name profile found expert kind
    exact (offered found).2 (Profile.isOfferedFor_iff.2 (.inl expert))
  · intro name profile kind found removes
    exact (offered found).2 (Profile.isOfferedFor_of_removes removes)
  · intro name profile kind found defuser visible
    rw [offered found]
    exact Profile.isOfferedFor_defuser_iff defuser visible

/-- A defuser profile whose only module is disabled anyway: its keyword is offered, although it
changes nothing. -/
theorem keywords_of_disabled_mod :
    let catalog := Catalog.ofUpdates [.add .solvable "Cheap" "Cheap Checkout", .disable "Cheap"]
    let profile : Profile := ⟨.ofList ["Cheap"], .defuser⟩
    let registry := ProfileRegistry.ofInserts [("Quiet", profile)]
    (registry.keywords catalog).map Entry.id = ["profile:Quiet"] ∧
      profile.enabledModules catalog .solvable = catalog.enabled .solvable := by
  decide

end BombMission
