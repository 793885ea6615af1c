import BombMission.Proofs.Json.Readable
import BombMission.Proofs.Mission.Sanity
import BombMission.Proofs.Outline.Groups

/-!
# The generator setting holds the whole mission

The host is started with the generator setting alone, so everything about the bombs must be found in
it: the first bomb as it is, and the others written as JSON in markers behind its pools.

## Main results

* `Bomb.toJson_injective`: a bomb can be told from its written form.
* `generatorSetting_injective`: as long as the first bomb has no markers of its own, the generator
  setting determines all bombs and the factory mode.
* `mem_generatorSetting_extraBombs_iff`: one pool counts the bombs, up to the largest word.
* `compile_packing`: what stands in the generator setting of a compiled mission, and that no two
  compiled missions with different bombs or factory modes share it.

## Proof strategy

The pools of the generator setting are cut apart from the left by what their contents are: a compiled
bomb has no markers, only the markers for bombs stand in front of the one for the factory. Each
marker for a bomb holds its compact JSON, which is injective. The marker that counts the bombs is not
needed for this, so nothing is lost where there are more of them than a word can count.
-/

namespace BombMission

open Text

/-! ### Written forms -/

theorem Aggregate.hostName_injective {a b : Aggregate} (same : a.hostName = b.hostName) : a = b := by
  rcases a with ⟨_ | _ | _, _ | _⟩ <;> rcases b with ⟨_ | _ | _, _ | _⟩ <;> simp_all [hostName]

theorem ModuleRef.toJson_injective {m other : ModuleRef} (same : m.toJson = other.toJson) :
    m = other := by
  have parts : m.id = other.id ∧ m.moduleClass.hostName = other.moduleClass.hostName := by
    simpa [toJson] using same
  exact ModuleRef.mk.injEq .. ▸ ⟨parts.1, ModuleClass.hostName_injective parts.2⟩

theorem modulesToJson_injective {modules others : List ModuleRef}
    (same : modulesToJson modules = modulesToJson others) : modules = others :=
  (List.map_inj_right fun _ _ => ModuleRef.toJson_injective).1 (Json.list.inj same)

theorem PoolContent.toJson_injective {content other : PoolContent}
    (same : content.toJson = other.toJson) : content = other := by
  cases content with
  | aggregate a =>
    cases other with
    | aggregate b =>
      have names : a.hostName = b.hostName := by simpa [toJson, Json.form] using same
      rw [Aggregate.hostName_injective names]
    | profile | explicit | extraBombs | serializedBomb | factoryMode =>
      simp [toJson, Json.form] at same
  | profile name kind modules =>
    cases other with
    | profile otherName otherKind others =>
      have parts : name = otherName ∧ (decide (kind = .needy) = decide (otherKind = .needy)) ∧
          modulesToJson modules = modulesToJson others := by
        simpa [toJson, Json.form] using same
      -- the kind is written as a flag, which tells the two kinds apart
      obtain ⟨rfl, kinds, lists⟩ := parts
      rw [modulesToJson_injective lists]
      cases kind <;> cases otherKind <;> simp_all
    | aggregate | explicit | extraBombs | serializedBomb | factoryMode =>
      simp [toJson, Json.form] at same
  | explicit modules =>
    cases other with
    | explicit others =>
      have lists : modulesToJson modules = modulesToJson others := by
        simpa [toJson, Json.form] using same
      rw [modulesToJson_injective lists]
    | aggregate | profile | extraBombs | serializedBomb | factoryMode =>
      simp [toJson, Json.form] at same
  | extraBombs =>
    cases other with
    | extraBombs => rfl
    | aggregate | profile | explicit | serializedBomb | factoryMode =>
      simp [toJson, Json.form] at same
  | serializedBomb index config =>
    cases other with
    | serializedBomb otherIndex otherConfig =>
      have parts : index = otherIndex ∧ config = otherConfig := by
        simpa [toJson, Json.form] using same
      rw [parts.1, parts.2]
    | aggregate | profile | explicit | extraBombs | factoryMode =>
      simp [toJson, Json.form] at same
  | factoryMode =>
    cases other with
    | factoryMode => rfl
    | aggregate | profile | explicit | extraBombs | serializedBomb =>
      simp [toJson, Json.form] at same

theorem Pool.toJson_injective {pool other : Pool} (same : pool.toJson = other.toJson) :
    pool = other := by
  have parts : pool.count = other.count ∧ pool.unique = other.unique ∧
      pool.content.toJson = other.content.toJson := by
    simpa [toJson] using same
  obtain ⟨count, unique, content⟩ := parts
  exact Pool.mk.injEq .. ▸ ⟨count, unique, PoolContent.toJson_injective content⟩

theorem optional_number_injective {n m : Option Nat}
    (same : Json.optional .number n = Json.optional .number m) : n = m := by
  cases n <;> cases m <;> simp_all [Json.optional]

/-- A bomb can be told from its written form. -/
theorem Bomb.toJson_injective {bomb other : Bomb} (same : bomb.toJson = other.toJson) :
    bomb = other := by
  have parts : bomb.timeLimit = other.timeLimit ∧ bomb.strikeLimit = other.strikeLimit ∧
      Json.optional .number bomb.needyActivationTime = Json.optional .number other.needyActivationTime ∧
      Json.optional .number bomb.widgetCount = Json.optional .number other.widgetCount ∧
      bomb.frontFaceOnly = other.frontFaceOnly ∧
      bomb.pools.map Pool.toJson = other.pools.map Pool.toJson := by
    simpa [toJson] using same
  obtain ⟨time, strikes, needy, widgets, front, pools⟩ := parts
  exact Bomb.mk.injEq .. ▸ ⟨time, strikes, optional_number_injective needy,
    optional_number_injective widgets, front,
    (List.map_inj_right fun _ _ => Pool.toJson_injective).1 pools⟩

/-! ### Markers -/

def PoolContent.isFactory : PoolContent → Bool
  | factoryMode => true
  | _ => false

theorem bombMarker_injective {place : Nat} {bomb other : Bomb}
    (same : bombMarker place bomb = bombMarker place other) : bomb = other := by
  have configs : bomb.toJson.compact = other.toJson.compact := by simpa [bombMarker] using same
  exact Bomb.toJson_injective (Json.compact_injective configs)

theorem extraMarkers_injective {extra others : List Bomb}
    (same : extraMarkers extra = extraMarkers others) : extra = others := by
  -- the lists have one length already, so the markers are compared place by place
  have each : extra.mapIdx (fun place bomb => bombMarker (place + 1) bomb) =
      others.mapIdx (fun place bomb => bombMarker (place + 1) bomb) := by
    cases extra <;> cases others
    · rfl
    · cases same
    · cases same
    · exact (List.cons.inj same).2
  refine List.ext_getElem? fun place => ?_
  have there := congrArg (·[place]?) each
  simp only [List.getElem?_mapIdx] at there
  exact Option.map_injective (fun _ _ => bombMarker_injective) there

theorem factoryMarkers_injective {mode other : Option FactoryMode}
    (same : factoryMarkers mode = factoryMarkers other) : mode = other := by
  cases mode <;> cases other
  · rfl
  · cases same
  · cases same
  · have places : FactoryMode.index _ = FactoryMode.index _ :=
      congrArg Pool.count (List.cons.inj same).1
    rw [FactoryMode.index_injective places]

theorem isMarker_of_mem_extraMarkers {extra : List Bomb} {pool : Pool}
    (member : pool ∈ extraMarkers extra) :
    pool.content.isMarker = true ∧ pool.content.isFactory = false := by
  cases extra with
  | nil => cases member
  | cons first extra =>
    rcases List.mem_cons.1 member with rfl | later
    · exact ⟨rfl, rfl⟩
    · obtain ⟨place, inside, rfl⟩ := List.mem_mapIdx.1 later
      exact ⟨rfl, rfl⟩

/-- One marker counts the bombs, and only when there are some. -/
theorem mem_extraMarkers_extraBombs_iff {extra : List Bomb} {pool : Pool} :
    pool ∈ extraMarkers extra ∧ pool.content = .extraBombs ↔
      extra ≠ [] ∧ pool = { count := min extra.length maxWord, content := .extraBombs } := by
  cases extra with
  | nil => simp [extraMarkers]
  | cons first extra =>
    constructor
    · rintro ⟨member, counts⟩
      refine ⟨List.cons_ne_nil _ _, ?_⟩
      rcases List.mem_cons.1 member with rfl | later
      · rfl
      · obtain ⟨place, inside, rfl⟩ := List.mem_mapIdx.1 later
        cases counts
    · rintro ⟨-, rfl⟩
      exact ⟨List.mem_cons_self, rfl⟩

theorem isFactory_of_mem_factoryMarkers {mode : Option FactoryMode} {pool : Pool}
    (member : pool ∈ factoryMarkers mode) :
    pool.content.isMarker = true ∧ pool.content.isFactory = true := by
  obtain ⟨mode, -, rfl⟩ := List.mem_map.1 member
  exact ⟨rfl, rfl⟩

/-- Lists are cut apart where a property of their items ends. -/
theorem append_inj_of_separated {α : Type} (holds : α → Bool) {left left' right right' : List α}
    (leftHolds : ∀ a ∈ left, holds a = true) (leftHolds' : ∀ a ∈ left', holds a = true)
    (rightFails : ∀ a ∈ right, holds a = false) (rightFails' : ∀ a ∈ right', holds a = false)
    (same : left ++ right = left' ++ right') : left = left' ∧ right = right' := by
  have kept : ∀ {left right : List α}, (∀ a ∈ left, holds a = true) →
      (∀ a ∈ right, holds a = false) → (left ++ right).filter holds = left := by
    intro left right leftHolds rightFails
    rw [List.filter_append, List.filter_eq_self.2 leftHolds,
      List.filter_eq_nil_iff.2 fun a member => by simp [rightFails a member], List.append_nil]
  -- the left part is what a filter keeps of the whole
  have first : left = left' := by
    rw [← kept leftHolds rightFails, same, kept leftHolds' rightFails']
  rw [first] at same
  exact ⟨first, List.append_cancel_left same⟩

/-- Without markers on the first bombs, generator settings are equal only for equal missions. -/
theorem generatorSetting_injective {first other : Bomb} {extra others : List Bomb}
    {mode otherMode : Option FactoryMode}
    (plain : ∀ pool ∈ first.pools, pool.content.isMarker = false)
    (plainOther : ∀ pool ∈ other.pools, pool.content.isMarker = false)
    (same : generatorSetting first extra mode = generatorSetting other others otherMode) :
    first = other ∧ extra = others ∧ mode = otherMode := by
  have pools := congrArg Bomb.pools same
  simp only [generatorSetting, List.append_assoc] at pools
  have marked : ∀ {extra : List Bomb} {mode : Option FactoryMode},
      ∀ pool ∈ extraMarkers extra ++ factoryMarkers mode, (!pool.content.isMarker) = false := by
    intro extra mode pool member
    rcases List.mem_append.1 member with extra | factory
    · simp [isMarker_of_mem_extraMarkers extra]
    · simp [isFactory_of_mem_factoryMarkers factory]
  -- first the pools of the bomb are cut off from all markers, then the bombs from the factory
  obtain ⟨ownPools, markers⟩ := append_inj_of_separated (fun pool : Pool => !pool.content.isMarker)
    (fun pool member => by simp [plain pool member])
    (fun pool member => by simp [plainOther pool member]) marked marked pools
  obtain ⟨bombs, modes⟩ := append_inj_of_separated (fun pool : Pool => !pool.content.isFactory)
    (fun pool member => by simp [isMarker_of_mem_extraMarkers member])
    (fun pool member => by simp [isMarker_of_mem_extraMarkers member])
    (fun pool member => by simp [isFactory_of_mem_factoryMarkers member])
    (fun pool member => by simp [isFactory_of_mem_factoryMarkers member]) markers
  refine ⟨?_, extraMarkers_injective bombs, factoryMarkers_injective modes⟩
  obtain ⟨time, strikes, needy, widgets, front, -⟩ := Bomb.mk.inj same
  exact Bomb.mk.injEq .. ▸ ⟨time, strikes, needy, widgets, front, ownPools⟩

/-! ### Compiled missions -/

/-- The markers behind the pools of the first bomb: none for a single bomb, and otherwise the number
of the others, as far as a word goes, and then each of them with its place among all bombs. -/
structure PackBombs (bombs : List Bomb) (markers : List Pool) : Prop where
  single : bombs.length = 1 → markers = []
  length : 1 < bombs.length → markers.length = bombs.length
  number : 1 < bombs.length →
    markers[0]? = some { count := min (bombs.length - 1) maxWord, content := .extraBombs }
  bomb : ∀ place bomb, 0 < place → bombs[place]? = some bomb → markers[place]? =
    some { count := 1, content := .serializedBomb place bomb.toJson.compact }

theorem packBombs_extraMarkers (first : Bomb) (extra : List Bomb) :
    PackBombs (first :: extra) (extraMarkers extra) := by
  cases extra with
  | nil =>
    refine ⟨fun _ => rfl, by simp, by simp, ?_⟩
    intro place bomb later found
    obtain ⟨inside, -⟩ := List.getElem?_eq_some_iff.1 found
    simp only [List.length_singleton] at inside
    omega
  | cons second extra =>
    refine ⟨by simp, by simp [extraMarkers], fun _ => rfl, ?_⟩
    intro place bomb later found
    obtain ⟨place, rfl⟩ := Nat.exists_eq_add_one.2 later
    rw [List.getElem?_cons_succ] at found
    simp only [extraMarkers, List.getElem?_cons_succ, List.getElem?_mapIdx, found]
    rfl

/-- The marker for the factory: its count is the place of the mode among all of them. -/
inductive PackFactory : Option FactoryMode → List Pool → Prop where
  | off : PackFactory none []
  | on (mode : FactoryMode) (place : Nat) (listed : FactoryMode.all[place]? = some mode) :
      PackFactory (some mode) [{ count := place, content := .factoryMode }]

theorem packFactory_factoryMarkers (mode : Option FactoryMode) :
    PackFactory mode (factoryMarkers mode) := by
  cases mode with
  | none => exact .off
  | some mode => exact .on mode mode.index (by cases mode <;> rfl)

/-- The generator setting of a mission is its first bomb with markers behind the pools. -/
structure Mission.Packed (mission : Mission) (first : Bomb) (bombMarkers factoryMarkers : List Pool) :
    Prop where
  head : mission.bombs[0]? = some first
  setting : mission.generatorSetting =
    { first with pools := first.pools ++ bombMarkers ++ factoryMarkers }
  bombs : PackBombs mission.bombs bombMarkers
  factory : PackFactory mission.factoryMode factoryMarkers

section Compiled

variable {σ : Type} [RandomSource σ] {ctx : Context} {text : String} {source : σ} {mission : Mission}

theorem generatorSetting_of_compile (made : (compile ctx text source).1 = .ok mission) :
    ∃ first extra, mission.bombs = first :: extra ∧
      mission.generatorSetting = generatorSetting first extra mission.factoryMode ∧
      ∀ pool ∈ first.pools, pool.content.isMarker = false := by
  obtain ⟨clean, -, first, extra, planned, rfl⟩ := compile_eq_ok_iff.1 made
  refine ⟨first.bomb, extra.map PlannedBomb.bomb, rfl, rfl, ?_⟩
  -- no pool that is read is a marker, since those of playable bombs are well-formed
  have playable := readTokens_playable clean first
    (show first ∈ (readMissionText ctx text source).bombs by simp [planned])
  exact fun pool member => (playable.pools pool member).not_marker

/-- With several bombs exactly one pool of the generator setting counts them. -/
theorem mem_generatorSetting_extraBombs_iff (made : (compile ctx text source).1 = .ok mission)
    (several : 1 < mission.bombs.length) {pool : Pool} :
    pool ∈ mission.generatorSetting.pools ∧ pool.content = .extraBombs ↔
      pool = { count := min (mission.bombs.length - 1) maxWord, content := .extraBombs } := by
  obtain ⟨first, extra, bombs, setting, plain⟩ := generatorSetting_of_compile made
  have some : extra ≠ [] := by
    rintro rfl
    simp [bombs] at several
  have marker := @mem_extraMarkers_extraBombs_iff extra pool
  rw [setting, bombs, List.length_cons, Nat.add_sub_cancel]
  simp only [generatorSetting, List.mem_append]
  constructor
  · rintro ⟨(own | counting) | factory, counts⟩
    · have unmarked := plain pool own
      rw [counts] at unmarked
      cases unmarked
    · exact (marker.1 ⟨counting, counts⟩).2
    · have modes := (isFactory_of_mem_factoryMarkers factory).2
      rw [counts] at modes
      cases modes
  · intro same
    obtain ⟨counting, counts⟩ := marker.2 ⟨some, same⟩
    exact ⟨.inl (.inr counting), counts⟩

/-- A mission of groups has as many bombs as they ask for. -/
theorem length_bombs_of_groups {groups : List TokenGroup}
    (kinds : (scanTokens text).map Token.kind = groupKinds groups)
    (counted : ∃ group ∈ groups, 0 < group.repeats)
    (made : (compile ctx text source).1 = .ok mission) :
    mission.bombs.length = groupRepeats groups := by
  obtain ⟨-, -, bombs, -⟩ := bombs_of_compile made
  rw [bombs, List.length_map, readMissionText, kinds, length_bombs_readTokens_groups ctx counted]

end Compiled

/-- Packing loses nothing: the generator setting is the first bomb with one marker for every other
bomb and one for the factory, and equal generator settings come from equal bombs and factory modes. -/
theorem compile_packing {σ τ : Type} [RandomSource σ] [RandomSource τ] {ctx otherCtx : Context}
    {text otherText : String} {source : σ} {otherSource : τ} {mission other : Mission}
    (made : (compile ctx text source).1 = .ok mission)
    (madeOther : (compile otherCtx otherText otherSource).1 = .ok other) :
    (∃ first bombMarkers factoryMarkers, mission.Packed first bombMarkers factoryMarkers) ∧
      (mission.generatorSetting = other.generatorSetting ↔
        mission.bombs = other.bombs ∧ mission.factoryMode = other.factoryMode) := by
  obtain ⟨first, extra, bombs, setting, plain⟩ := generatorSetting_of_compile made
  obtain ⟨otherFirst, others, otherBombs, otherSetting, otherPlain⟩ :=
    generatorSetting_of_compile madeOther
  refine ⟨⟨first, extraMarkers extra, factoryMarkers mission.factoryMode, ?_⟩, ?_⟩
  · refine ⟨by rw [bombs]; rfl, setting, ?_, packFactory_factoryMarkers _⟩
    rw [bombs]
    exact packBombs_extraMarkers first extra
  -- the pools of the first bomb are no markers, so the markers behind them can be told apart
  · rw [setting, otherSetting, bombs, otherBombs]
    constructor
    · intro same
      obtain ⟨rfl, rfl, modes⟩ := generatorSetting_injective plain otherPlain same
      exact ⟨rfl, modes⟩
    · rintro ⟨sameBombs, modes⟩
      obtain ⟨rfl, rfl⟩ := List.cons.inj sameBombs
      rw [modes]

/-- A minute more on the second bomb shows in the generator setting. -/
theorem compile_packing_second : ∃ mission other,
    (compile {} "factory:finite (Wires) (Maze)" (SplitMix.ofSeed 0)).1 = .ok mission ∧
      (compile {} "factory:finite (Wires) (3:00 Maze)" (SplitMix.ofSeed 1)).1 = .ok other ∧
      mission.bombs.map Bomb.timeLimit = [120, 120] ∧ other.bombs.map Bomb.timeLimit = [120, 180] ∧
      (∃ first bombMarkers factoryMarkers, mission.Packed first bombMarkers factoryMarkers) ∧
      mission.generatorSetting ≠ other.generatorSetting := by
  have first : (compile {} "factory:finite (Wires) (Maze)" (SplitMix.ofSeed 0)).1.toOption.map
      (fun mission => mission.bombs.map Bomb.timeLimit) = some [120, 120] := by
    decide +kernel
  have second : (compile {} "factory:finite (Wires) (3:00 Maze)"
      (SplitMix.ofSeed 1)).1.toOption.map (fun mission => mission.bombs.map Bomb.timeLimit) =
        some [120, 180] := by
    decide +kernel
  obtain ⟨mission, found, times⟩ := Option.map_eq_some_iff.1 first
  obtain ⟨other, foundOther, otherTimes⟩ := Option.map_eq_some_iff.1 second
  have made := eq_ok_of_toOption found
  have madeOther := eq_ok_of_toOption foundOther
  obtain ⟨packed, recovered⟩ := compile_packing made madeOther
  refine ⟨mission, other, made, madeOther, times, otherTimes, packed, ?_⟩
  intro same
  rw [(recovered.1 same).1, otherTimes] at times
  exact absurd times (by decide)

/-- A group with as many bombs as its numeral can ask for. -/
def fullGroup : TokenGroup :=
  ⟨some 999999999, [.pool ⟨"Wires", none, false, false⟩], by decide⟩

/-- Five full groups, which are more bombs than a word can count. -/
def overfullText : String :=
  "999999999*(Wires) 999999999*(Wires) 999999999*(Wires) 999999999*(Wires) 999999999*(Wires)"

/-- No marker holds the number of the bombs when a word cannot. -/
theorem compile_packing_saturated : ∃ mission,
    (compile {} overfullText (SplitMix.ofSeed 0)).1 = .ok mission ∧
      mission.bombs.length = 4999999995 ∧
      { count := 4294967295, content := .extraBombs } ∈ mission.generatorSetting.pools ∧
      ∀ pool ∈ mission.generatorSetting.pools, pool.content = .extraBombs →
        pool.count ≠ mission.bombs.length - 1 := by
  have compiled : (compile {} overfullText (SplitMix.ofSeed 0)).1.toOption.isSome = true := by
    decide +kernel
  have kinds : (scanTokens overfullText).map Token.kind = groupKinds (List.replicate 5 fullGroup) := by
    decide +kernel
  obtain ⟨mission, found⟩ := Option.isSome_iff_exists.1 compiled
  have made := eq_ok_of_toOption found
  -- so many bombs cannot be listed, but what the groups ask for can be added up
  have asked : groupRepeats (List.replicate 5 fullGroup) = 4999999995 := by
    decide
  have all : mission.bombs.length = 4999999995 :=
    (length_bombs_of_groups kinds ⟨fullGroup, List.mem_cons_self, by decide⟩ made).trans asked
  have marker : ∀ pool, pool ∈ mission.generatorSetting.pools ∧ pool.content = .extraBombs ↔
      pool = { count := 4294967295, content := .extraBombs } := by
    intro pool
    rw [mem_generatorSetting_extraBombs_iff made (by rw [all]; decide), all]
    rfl
  refine ⟨mission, made, all, ((marker _).2 rfl).1, ?_⟩
  intro pool member counts
  rw [(marker pool).1 ⟨member, counts⟩, all]
  decide

end BombMission
