import BombMission.Files.Load
import BombMission.Files.Tree
import BombMission.Proofs.Catalog.Filling
import BombMission.Proofs.Mission.Compiled
import BombMission.Proofs.Text.Pieces

/-!
# The profiles of a directory

Every profile of a directory comes from one file of its own. What else is in the directory does not
matter, whether it is broken, cannot be read, is a directory or has a name that is not text, and
neither does the order in which the names are listed.

## Main results

* `profileName?_eq_some_iff`: the one file name of a profile.
* `ProfileRegistry.mem_rows_ofFiles`: what each file adds, by itself.
* `ProfileRegistry.get?_load_congr`: what is found under a name depends on its own file alone.
* `load_finds`: the profiles that a directory holds, and what they do not depend on.

## Proof strategy

Loading files is inserting the profiles of those that have one. A name belongs to one file only, so
no insert can replace another, and the last insert under a name is the only one.
-/

namespace BombMission

open Text

/-! ### File names -/

/-- The name of the file that a profile is loaded from. -/
def profileFile (name : String) : String :=
  name ++ "." ++ profileExtension

theorem namePieces_profileFile (name : String) :
    namePieces (profileFile name) = namePieces name ++ [profileExtension] := by
  have whole : (profileFile name).toList = name.toList ++ '.' :: profileExtension.toList := by
    simp [profileFile]
  have last : splitOn (· == '.') profileExtension.toList = [profileExtension.toList] := by
    decide
  rw [namePieces, whole, splitOn_append_mark (by decide), last, List.map_append, namePieces]
  simp

theorem intercalate_namePieces (name : String) : ".".intercalate (namePieces name) = name := by
  rw [← String.toList_inj, String.toList_intercalate, namePieces, List.map_map]
  simpa [Function.comp_def] using intercalate_splitOn '.' name.toList

theorem intercalate_concat {pieces : List String} (some : pieces ≠ []) (last : String) :
    ".".intercalate (pieces ++ [last]) = ".".intercalate pieces ++ "." ++ last := by
  rw [String.intercalate_append_of_ne_nil some (List.cons_ne_nil _ _), String.intercalate_singleton]

/-- A profile has one file name: its own name with the extension behind it. -/
theorem profileName?_eq_some_iff {fileName name : String} :
    profileName? fileName = some name ↔ name ≠ "" ∧ fileName = profileFile name := by
  simp only [profileName?, Option.ite_none_right_eq_some, Option.some.injEq]
  constructor
  · rintro ⟨⟨extension, named⟩, rfl⟩
    refine ⟨named, ?_⟩
    obtain ⟨front, pieces⟩ := List.getLast?_eq_some_iff.1 extension
    rw [pieces, List.dropLast_concat] at named ⊢
    have several : front ≠ [] := by
      rintro rfl
      exact named rfl
    rw [profileFile, ← intercalate_concat several, ← pieces, intercalate_namePieces]
  · rintro ⟨named, rfl⟩
    rw [namePieces_profileFile, List.getLast?_concat, List.dropLast_concat, intercalate_namePieces]
    exact ⟨⟨rfl, named⟩, rfl⟩

theorem fromUTF8?_eq_some_iff {bytes : ByteArray} {text : String} :
    String.fromUTF8? bytes = some text ↔ bytes = text.toUTF8 := by
  unfold String.fromUTF8?
  constructor
  · intro decoded
    split at decoded
    · cases decoded
      rfl
    · cases decoded
  · rintro rfl
    exact dif_pos text.isValidUTF8

theorem mem_profileFiles_iff {names : List ByteArray} {fileName : String} :
    fileName ∈ profileFiles names ↔
      fileName.toUTF8 ∈ names ∧ ∃ name, name ≠ "" ∧ fileName = profileFile name := by
  simp only [profileFiles, List.mem_mergeSort, List.mem_filter, List.mem_filterMap,
    fromUTF8?_eq_some_iff, Option.isSome_iff_exists, profileName?_eq_some_iff, exists_eq_right]

/-! ### Files -/

/-- Whether a text is a profile does not depend on where it stands. -/
theorem ofText_eq_ok_iff {path text : String} {profile : Profile} :
    Profile.ofText path text = .ok profile ↔
      ∃ snapshot, ProfileSnapshot.read text = .ok snapshot ∧ snapshot.profile? = some profile := by
  unfold Profile.ofText
  cases ProfileSnapshot.read text with
  | error problem => simp
  | ok snapshot => cases made : snapshot.profile? <;> simp [made]

theorem ofFile_eq_ok_iff {path : String} {content : Except ReadProblem String} {profile : Profile}
    (other : String) :
    Profile.ofFile path content = .ok profile ↔
      ∃ text, content = .ok text ∧ Profile.ofText other text = .ok profile := by
  cases content with
  | error cause => simp [Profile.ofFile]
  | ok text => simp [Profile.ofFile, ofText_eq_ok_iff]

namespace ProfileRegistry

/-- The profile of a file and its name, when the file has one. -/
def rowOf? (file : NamedFile) : Option (String × Profile) :=
  match profileName? file.1, Profile.ofFile file.1 file.2 with
  | some name, .ok found => some (name, found)
  | _, _ => none

theorem rowOf?_eq_some_iff {file : NamedFile} {name : String} {profile : Profile} :
    rowOf? file = some (name, profile) ↔
      profileName? file.1 = some name ∧ Profile.ofFile file.1 file.2 = .ok profile := by
  unfold rowOf?
  cases profileName? file.1 <;> cases Profile.ofFile file.1 file.2 <;> simp

theorem addFile_eq (registry : ProfileRegistry) (file : NamedFile) :
    registry.addFile file =
      ((rowOf? file).toList).foldl (fun registry row => registry.insert row.1 row.2) registry := by
  unfold addFile rowOf?
  cases profileName? file.1 <;> cases Profile.ofFile file.1 file.2 <;> rfl

/-- Files are loaded by inserting the profiles of those that have one. -/
theorem ofFiles_eq_ofInserts (files : List NamedFile) :
    ofFiles files = ofInserts (files.filterMap rowOf?) := by
  unfold ofFiles ofInserts
  generalize (IdMap.empty : ProfileRegistry) = registry
  induction files generalizing registry with
  | nil => rfl
  | cons file files ih =>
    rw [List.foldl_cons, ih, addFile_eq, List.filterMap_cons]
    cases rowOf? file <;> rfl

/-- A name that is inserted with one profile only has that profile in the end. -/
theorem lastInsert_eq_some_iff {inserts : List (String × Profile)} {name : String}
    (single : ∀ first second, (name, first) ∈ inserts → (name, second) ∈ inserts → first = second)
    {profile : Profile} : lastInsert inserts name = some profile ↔ (name, profile) ∈ inserts := by
  have member : ∀ {profile}, lastInsert inserts name = some profile → (name, profile) ∈ inserts := by
    intro profile found
    obtain ⟨before, behind, whole, -⟩ := List.lookup_eq_some_iff.1 found
    rw [← List.mem_reverse, whole]
    simp
  refine ⟨member, fun inserted => ?_⟩
  cases found : lastInsert inserts name with
  | none =>
    have absent := List.lookup_eq_none_iff.1 found _ (List.mem_reverse.2 inserted)
    simp at absent
  | some other => rw [single other profile (member found) inserted]

/-- What a list of files gives for a name is what the file of that name gives. -/
theorem mem_rows_ofFiles {fileNames : List String} {content : String → Except ReadProblem String}
    {name : String} {profile : Profile} :
    (name, profile) ∈ (fileNames.map fun fileName => (fileName, content fileName)).filterMap rowOf? ↔
      name ≠ "" ∧ profileFile name ∈ fileNames ∧
        Profile.ofFile (profileFile name) (content (profileFile name)) = .ok profile := by
  simp only [List.mem_filterMap, List.mem_map, exists_exists_and_eq_and, rowOf?_eq_some_iff,
    profileName?_eq_some_iff]
  constructor
  · rintro ⟨fileName, listed, ⟨named, rfl⟩, made⟩
    exact ⟨named, listed, made⟩
  · rintro ⟨named, listed, made⟩
    exact ⟨profileFile name, listed, ⟨named, rfl⟩, made⟩

theorem get?_ofFiles {fileNames : List String} {content : String → Except ReadProblem String}
    {name : String} {profile : Profile} :
    (ofFiles (fileNames.map fun fileName => (fileName, content fileName))).get? name =
        some profile ↔
      name ≠ "" ∧ profileFile name ∈ fileNames ∧
        Profile.ofFile (profileFile name) (content (profileFile name)) = .ok profile := by
  rw [ofFiles_eq_ofInserts, get?_ofInserts, ← mem_rows_ofFiles]
  apply lastInsert_eq_some_iff
  -- both profiles come from the one file of the name
  intro first second inserted again
  obtain ⟨-, -, made⟩ := mem_rows_ofFiles.1 inserted
  obtain ⟨-, -, same⟩ := mem_rows_ofFiles.1 again
  exact Except.ok.inj (made.symm.trans same)

/-! ### Directories -/

variable {host : Host Id} {path : String} {names : List ByteArray}

theorem load_eq (listed : host.listDirectory path = some names) :
    load host path = ofFiles ((profileFiles names).map fun fileName =>
      (fileName, host.readFile (pathIn path fileName))) := by
  have read : ((profileFiles names).mapM fun fileName =>
      (fileName, host.readFile (pathIn path fileName)) : Id (List NamedFile)) =
        (profileFiles names).map fun fileName =>
          (fileName, host.readFile (pathIn path fileName)) :=
    List.mapM_pure
  simp only [load, listed, bind, pure]
  exact congrArg ofFiles read

theorem loadListed_eq_ok (listable : host.listingProblem path = none) :
    loadListed host path = Except.ok (load host path) := by
  simp only [loadListed, listable, bind, pure]

theorem get?_load_iff (listed : host.listDirectory path = some names) {name : String}
    {profile : Profile} :
    (load host path).get? name = some profile ↔
      name ≠ "" ∧ (profileFile name).toUTF8 ∈ names ∧
        ∃ text, host.readFile (pathIn path (profileFile name)) = .ok text ∧
          Profile.ofText (pathIn path (profileFile name)) text = .ok profile := by
  rw [load_eq listed, get?_ofFiles, mem_profileFiles_iff,
    ofFile_eq_ok_iff (pathIn path (profileFile name))]
  constructor
  · rintro ⟨named, ⟨listed, -⟩, made⟩
    exact ⟨named, listed, made⟩
  · rintro ⟨named, listed, made⟩
    exact ⟨named, ⟨listed, name, named, rfl⟩, made⟩

/-- What is found under a name depends on its own file alone. -/
theorem get?_load_congr {other : Host Id} {otherNames : List ByteArray}
    (listed : host.listDirectory path = some names)
    (otherListed : other.listDirectory path = some otherNames) {name : String}
    (sameName : (profileFile name).toUTF8 ∈ otherNames ↔ (profileFile name).toUTF8 ∈ names)
    (sameFile : (profileFile name).toUTF8 ∈ names →
      other.readFile (pathIn path (profileFile name)) =
        host.readFile (pathIn path (profileFile name))) :
    (load other path).get? name = (load host path).get? name := by
  apply Option.ext
  intro profile
  rw [get?_load_iff otherListed, get?_load_iff listed, sameName]
  refine and_congr_right fun _ => and_congr_right fun present => ?_
  rw [sameFile present]

end ProfileRegistry

theorem FileTree.readFile_eq_ok_iff {tree : FileTree} {path text : String} :
    tree.readFile path = .ok text ↔ tree.find path = .ok (.file text.toUTF8) := by
  unfold FileTree.readFile
  cases tree.find path with
  | error cause => simp [bind, Except.bind]
  | ok node =>
    cases node with
    | directory => simp [bind, Except.bind]
    | file bytes =>
      simp only [bind, Except.bind, textOfBytes, Except.ok.injEq, FileNode.file.injEq,
        ← fromUTF8?_eq_some_iff]
      cases String.fromUTF8? bytes <;> simp

/-- In a file tree a file can be read when its bytes are text. -/
theorem ProfileRegistry.get?_load_tree_iff {tree : FileTree} {path : String} {input : ByteArray}
    {fileNames : List String} (listed : tree.listDirectory path = some fileNames) {name : String}
    {profile : Profile} :
    (load (tree.host input) path).get? name = some profile ↔
      name ≠ "" ∧ profileFile name ∈ fileNames ∧
        ∃ text, tree.find (pathIn path (profileFile name)) = .ok (.file text.toUTF8) ∧
          Profile.ofText (pathIn path (profileFile name)) text = .ok profile := by
  have bytes : (tree.host input).listDirectory path = some (fileNames.map String.toUTF8) := by
    simp [FileTree.host, listed]
  have reads : ∀ file text, (tree.host input).readFile file = .ok text ↔
      tree.find file = .ok (.file text.toUTF8) := fun _ _ => FileTree.readFile_eq_ok_iff
  have member : (profileFile name).toUTF8 ∈ fileNames.map String.toUTF8 ↔
      profileFile name ∈ fileNames := by
    simp [List.mem_map, String.toByteArray_inj]
  rw [get?_load_iff bytes, member]
  simp only [reads]

/-- A directory that can be listed loads. It gives a profile under a name exactly when it lists the file
of that name, the file can be read, and its text is that profile. So nothing else in the directory
changes what is found under the name, and the order of the listing changes nothing at all. In a file
tree, a file can be read when its bytes are text. -/
theorem load_finds (host : Host Id) (path : String) (names : List ByteArray)
    (listed : host.listDirectory path = some names) (listable : host.listingProblem path = none) :
    ∃ registry, ProfileRegistry.loadListed host path = Except.ok registry ∧
    (∀ name profile, registry.get? name = some profile ↔
      name ≠ "" ∧ (profileFile name).toUTF8 ∈ names ∧
        ∃ text, host.readFile (pathIn path (profileFile name)) = .ok text ∧
          Profile.ofText (pathIn path (profileFile name)) text = .ok profile) ∧
    (∀ (other : Host Id) (otherNames : List ByteArray),
      other.listDirectory path = some otherNames → other.listingProblem path = none →
      ∃ otherRegistry, ProfileRegistry.loadListed other path = Except.ok otherRegistry ∧
        (∀ name,
          ((profileFile name).toUTF8 ∈ otherNames ↔ (profileFile name).toUTF8 ∈ names) →
          ((profileFile name).toUTF8 ∈ names → other.readFile (pathIn path (profileFile name)) =
            host.readFile (pathIn path (profileFile name))) →
          otherRegistry.get? name = registry.get? name) ∧
        (otherNames.Perm names → (∀ file, other.readFile file = host.readFile file) →
          otherRegistry = registry)) ∧
    ∀ (tree : FileTree) (input : ByteArray) (fileNames : List String),
      tree.listDirectory path = some fileNames →
      ∃ found, ProfileRegistry.loadListed (tree.host input) path = Except.ok found ∧
        ∀ name profile, found.get? name = some profile ↔
          name ≠ "" ∧ profileFile name ∈ fileNames ∧
            ∃ text, tree.find (pathIn path (profileFile name)) = .ok (.file text.toUTF8) ∧
              Profile.ofText (pathIn path (profileFile name)) text = .ok profile := by
  refine ⟨_, ProfileRegistry.loadListed_eq_ok listable,
    fun name profile => ProfileRegistry.get?_load_iff listed, ?_, ?_⟩
  · intro other otherNames otherListed otherListable
    refine ⟨_, ProfileRegistry.loadListed_eq_ok otherListable, ?_, ?_⟩
    · exact fun name sameName sameFile =>
        ProfileRegistry.get?_load_congr listed otherListed sameName sameFile
    · intro reordered sameFiles
      apply IdMap.ext
      intro name
      exact ProfileRegistry.get?_load_congr listed otherListed reordered.mem_iff
        fun _ => sameFiles _
  · intro tree input fileNames treeListed
    -- nothing keeps a file tree from being listed
    have treeListable : (tree.host input).listingProblem path = none := rfl
    refine ⟨_, ProfileRegistry.loadListed_eq_ok treeListable, fun name profile => ?_⟩
    exact ProfileRegistry.get?_load_tree_iff treeListed

/-- A directory with one profile among a broken one, a directory with the name of one and a name
without a stem. -/
def crowdedTree : FileTree :=
  { places :=
      [(["home", "Broken.json"], .file "\x7b\"DisabledList\":7".toUTF8),
       (["home", "Sub.json", "Inner.json"], .file "".toUTF8),
       (["home", ".json"], .file "\x7b\"DisabledList\":[]\x7d".toUTF8),
       (["home", "Hard.json"], .file "\x7b\"DisabledList\":[\"Wires\"]\x7d".toUTF8)] }

/-- The same directory with one name more, which is not text. -/
def crowdedHost : Host Id :=
  { crowdedTree.host .empty with
    listDirectory := fun path =>
      (crowdedTree.listDirectory path).map fun names => ⟨#[255]⟩ :: names.map String.toUTF8 }

theorem load_finds_hard :
    crowdedHost.listDirectory "home" = some (⟨#[255]⟩ ::
      ["Broken.json", "Sub.json", ".json", "Hard.json"].map String.toUTF8) ∧
    crowdedHost.listingProblem "home" = none ∧
    ∃ registry, ProfileRegistry.loadListed crowdedHost "home" = Except.ok registry ∧
      registry.get? "Hard" = some { disabled := .ofList ["Wires"], kind := .expert } ∧
      registry.get? "Sub" = none := by
  have inTree : crowdedTree.listDirectory "home" =
      some ["Broken.json", "Sub.json", ".json", "Hard.json"] := by
    decide +kernel
  have listed : crowdedHost.listDirectory "home" = some (⟨#[255]⟩ ::
      ["Broken.json", "Sub.json", ".json", "Hard.json"].map String.toUTF8) := by
    simp only [crowdedHost, inTree, Option.map_some]
  have text : (crowdedTree.readFile (pathIn "home" (profileFile "Hard"))).toOption =
      some "\x7b\"DisabledList\":[\"Wires\"]\x7d" := by
    decide +kernel
  have directory : (crowdedTree.readFile (pathIn "home" (profileFile "Sub"))).toOption = none := by
    decide +kernel
  have snapshot : (ProfileSnapshot.read "\x7b\"DisabledList\":[\"Wires\"]\x7d").toOption =
      some ⟨some ["Wires"], .expert⟩ := by
    decide +kernel
  have member : profileFile "Hard" ∈ ["Broken.json", "Sub.json", ".json", "Hard.json"] := by
    decide +kernel
  obtain ⟨registry, loaded, profiles, -, -⟩ := load_finds crowdedHost "home" _ listed rfl
  refine ⟨listed, rfl, registry, loaded, (profiles "Hard" _).2 ⟨by decide,
    List.mem_cons_of_mem _ (List.mem_map_of_mem member), _, eq_ok_of_toOption text,
    ofText_eq_ok_iff.2 ⟨_, eq_ok_of_toOption snapshot, rfl⟩⟩, ?_⟩
  rw [Option.eq_none_iff_forall_ne_some]
  intro profile found
  obtain ⟨-, -, text, read, -⟩ := (profiles "Sub" profile).1 found
  have read : crowdedTree.readFile (pathIn "home" (profileFile "Sub")) = .ok text := read
  rw [read] at directory
  cases directory

end BombMission
