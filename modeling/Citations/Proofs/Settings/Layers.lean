import Citations.Command.Run
import Citations.Proofs.Settings.Names

/-!
# Settings in layers

What a setting takes is chosen by its own key: the value of the workspace if its file has the key,
else that of the user, else the one that holds where nothing is chosen. A value of an earlier layer
that a later one replaces does not matter, nor does what a key that names no setting stands for.
This holds for files that are flat tables: no key has steps in it, and no value is a table.

A file can be in any of the formats, and the reader of those other than TOML and JSON is given. Of
several files under one path the one that is looked for first is the file, in whatever order that is.
-/
namespace Citations.Settings

section Members

variable {name key : Text} {value : Value} {members layer below : Members}

/-! ## Members -/

/-- The value that a name was given. -/
@[simp] theorem member?_setMember_same :
    member? name (setMember name value members) = some value := by
  induction members with
  | nil => simp [setMember, member?]
  | cons member rest ih =>
    obtain ⟨other, kept⟩ := member
    by_cases same : other = name
    · simp [setMember, member?, same]
    · simpa [setMember, member?, same] using ih

/-- The value of a name is not changed by giving another one a value. -/
@[simp] theorem member?_setMember_apart (apart : key ≠ name) :
    member? name (setMember key value members) = member? name members := by
  induction members with
  | nil => simp [setMember, member?, apart]
  | cons member rest ih =>
    obtain ⟨other, kept⟩ := member
    by_cases same : other = key
    · subst same
      simp [setMember, member?, apart]
    · by_cases here : other = name
      · simp [setMember, member?, here, Ne.symm apart]
      · simpa [setMember, member?, same, here] using ih

/-- A name that is not among others has no value. -/
theorem member?_eq_none_iff : member? name members = none ↔ name ∉ members.map Prod.fst := by
  simp only [member?, Option.map_eq_none_iff, List.find?_eq_none, decide_eq_true_eq, List.mem_map,
    not_exists, not_and]

/-! ## Flat tables -/

/-- A key in small letters without steps. -/
def Plain (key : Text) : Prop := Text.lower key = key ∧ '.' ∉ key ∧ '[' ∉ key

/-- Plainness is decidable. -/
instance (key : Text) : Decidable (Plain key) :=
  inferInstanceAs (Decidable (Text.lower key = key ∧ '.' ∉ key ∧ '[' ∉ key))

/-- Whether a value is a table. -/
def Value.isTable : Value → Bool
  | table _ => true
  | _ => false

/-- A table of plain keys, none of them with a table for its value. -/
structure Flat (members : Members) : Prop where
  /-- The keys are plain. -/
  plain : ∀ member ∈ members, Plain member.1
  /-- No value is a table. -/
  single : ∀ member ∈ members, member.2.isTable = false

/-- Flatness is decidable. -/
instance (members : Members) : Decidable (Flat members) :=
  decidable_of_iff ((∀ member ∈ members, Plain member.1) ∧
    ∀ member ∈ members, member.2.isTable = false)
    ⟨fun ⟨plain, single⟩ => ⟨plain, single⟩, fun ⟨plain, single⟩ => ⟨plain, single⟩⟩

/-- A key without steps names a place without steps. -/
theorem Plain.ofKey_eq (plain : Plain key) : Place.ofKey key = ⟨key, []⟩ := by
  obtain ⟨small, undotted, unbracketed⟩ := plain
  have stop : step? (key.dropWhile isKeyChar) = none := by
    cases rest : key.dropWhile isKeyChar with
    | nil => rfl
    | cons c tail =>
      have listed : c ∈ key := (List.dropWhile_suffix isKeyChar).subset (rest ▸ List.mem_cons_self)
      have apart : c ≠ '.' ∧ c ≠ '[' :=
        ⟨fun same => undotted (same ▸ listed), fun same => unbracketed (same ▸ listed)⟩
      simp [step?, apart]
  have steps : Text.repeated step? (key.dropWhile isKeyChar) = ([], key.dropWhile isKeyChar) := by
    rw [Text.repeated, stop]
  unfold Place.ofKey keyName?
  cases front : key.takeWhile isKeyChar with
  | nil => simp [small]
  | cons c tail =>
    simp only [steps]
    split
    · next ended =>
      have whole := List.takeWhile_append_dropWhile (p := isKeyChar) (l := key)
      rw [ended, front, List.append_nil] at whole
      rw [whole, small]
    · rw [small]

/-- A value that is not a table replaces what a plain key stands for. -/
theorem put_of_plain (plain : Plain key) (single : value.isTable = false) :
    (Place.ofKey key).put value members = setMember key value members := by
  rw [plain.ofKey_eq]
  cases value with
  | table inner => contradiction
  | nothing | bool | integer | float | text | list => rfl

/-- The members of a flat table stand, one by one, over what they are laid over. -/
theorem member?_overlay (flat : Flat layer) (distinct : (layer.map Prod.fst).Nodup) :
    member? name (overlay below layer) = (member? name layer).or (member? name below) := by
  induction layer generalizing below with
  | nil => rfl
  | cons member rest ih =>
    obtain ⟨key, value⟩ := member
    obtain ⟨fresh, later⟩ := List.nodup_cons.mp distinct
    have others : Flat rest :=
      ⟨fun member listed => flat.plain member (List.mem_cons_of_mem _ listed),
        fun member listed => flat.single member (List.mem_cons_of_mem _ listed)⟩
    have laid : overlay below ((key, value) :: rest) = overlay (setMember key value below) rest :=
      congrArg (overlay · rest) (put_of_plain (flat.plain (key, value) List.mem_cons_self)
        (flat.single (key, value) List.mem_cons_self))
    rw [laid, ih others later]
    by_cases same : key = name
    · subst same
      rw [member?_eq_none_iff.mpr fresh, member?_setMember_same]
      simp [member?]
    · rw [member?_setMember_apart same]
      simp [member?, same]

end Members

/-! ## What settings take -/

/-- The settings. -/
inductive Setting where
  /-- The names of the fields that entries keep. -/
  | citationFormat
  /-- The document whose declarations hold for the whole project. -/
  | rootFile
  /-- A source used by default. -/
  | defaultBib
  /-- More sources used by default. -/
  | defaultBibs
  /-- Whether the default sources are used. -/
  | usesDefaults
  /-- Whether sources that no document uses are dropped. -/
  | forgetsUnused
  /-- How much of labelled elements is reported. -/
  | labelMode
  /-- How many characters before a label are searched. -/
  | lookback
  /-- How many rows a preview shows. -/
  | previewLines
  /-- Whether hovering over a key shows its entry. -/
  | showsHover
  deriving DecidableEq, Repr

namespace Setting

/-- The key of a setting. -/
def key : Setting → Text
  | citationFormat => "citation_format".toList
  | rootFile => "root_file".toList
  | defaultBib => "default_bib".toList
  | defaultBibs => "default_bibs".toList
  | usesDefaults => "use_default_bib".toList
  | forgetsUnused => "forget_unused_bib".toList
  | labelMode => "crossref_mode".toList
  | lookback => "lookback_chars".toList
  | previewLines => "table_preview_lines".toList
  | showsHover => "hover".toList

/-- What a setting takes. -/
def Taken : Setting → Type
  | citationFormat | defaultBibs => List Text
  | rootFile | defaultBib => Option Text
  | usesDefaults | forgetsUnused | showsHover => Bool
  | labelMode => LabelMode
  | lookback | previewLines => Nat

/-- The value chosen for a setting as what it takes. Only a text that may be left out needs no
value. -/
def read? : (setting : Setting) → Option Value → Option setting.Taken
  | citationFormat, chosen? | defaultBibs, chosen? => chosen?.bind Value.texts?
  | rootFile, chosen? | defaultBib, chosen? =>
    match chosen? with
    | none => some none
    | some value => value.optionalText?
  | usesDefaults, chosen? | forgetsUnused, chosen? | showsHover, chosen? =>
    chosen?.bind Value.bool?
  | labelMode, chosen? => chosen?.bind Value.mode?
  | lookback, chosen? | previewLines, chosen? => chosen?.bind Value.size?

end Setting

/-- What settings hold for a setting. -/
def get (settings : Settings) : (setting : Setting) → setting.Taken
  | .citationFormat => settings.citationFormat
  | .rootFile => settings.rootFile?
  | .defaultBib => settings.defaultBib?
  | .defaultBibs => settings.defaultBibs
  | .usesDefaults => settings.usesDefaults
  | .forgetsUnused => settings.forgetsUnused
  | .labelMode => settings.labelMode
  | .lookback => settings.lookback
  | .previewLines => settings.previewLines
  | .showsHover => settings.showsHover

/-- The settings that hold something for each setting. -/
def assemble (taken : (setting : Setting) → setting.Taken) : Settings where
  citationFormat := taken .citationFormat
  rootFile? := taken .rootFile
  defaultBib? := taken .defaultBib
  defaultBibs := taken .defaultBibs
  usesDefaults := taken .usesDefaults
  forgetsUnused := taken .forgetsUnused
  labelMode := taken .labelMode
  lookback := taken .lookback
  previewLines := taken .previewLines
  showsHover := taken .showsHover

/-- Settings that are assembled hold what they are assembled of. -/
theorem get_assemble (taken : (setting : Setting) → setting.Taken) (setting : Setting) :
    (assemble taken).get setting = taken setting := by
  cases setting <;> rfl

section Reading

variable {members : Members} {settings : Settings}

/-- Members give the settings that are read setting by setting. -/
theorem ofMembers?_eq (members : Members) :
    let taken := fun setting : Setting => setting.read? (member? setting.key members)
    ofMembers? members = (do
      some {
        citationFormat := ← taken .citationFormat
        rootFile? := ← taken .rootFile
        defaultBib? := ← taken .defaultBib
        defaultBibs := ← taken .defaultBibs
        usesDefaults := ← taken .usesDefaults
        forgetsUnused := ← taken .forgetsUnused
        labelMode := ← taken .labelMode
        lookback := ← taken .lookback
        previewLines := ← taken .previewLines
        showsHover := ← taken .showsHover }) := by
  intro taken
  rfl

/-- Members give settings exactly if each setting is what is read of the value of its key. -/
theorem ofMembers?_eq_some_iff :
    ofMembers? members = some settings ↔ ∀ setting : Setting,
      setting.read? (member? setting.key members) = some (settings.get setting) := by
  constructor
  · intro given setting
    simp only [ofMembers?_eq, Option.bind_eq_bind, Option.bind_eq_some_iff,
      Option.some.injEq] at given
    obtain ⟨_, format, _, root, _, source, _, sources, _, used, _, forgotten, _, mode, _, back, _,
      rows, _, hover, rfl⟩ := given
    cases setting with
    | citationFormat => exact format
    | rootFile => exact root
    | defaultBib => exact source
    | defaultBibs => exact sources
    | usesDefaults => exact used
    | forgetsUnused => exact forgotten
    | labelMode => exact mode
    | lookback => exact back
    | previewLines => exact rows
    | showsHover => exact hover
  · intro all
    simp only [ofMembers?_eq, all]
    rfl

/-- Members give settings exactly if the value of each key can be read as what its setting takes. -/
theorem ofMembers?_isSome_iff :
    (ofMembers? members).isSome ↔
      ∀ setting : Setting, (setting.read? (member? setting.key members)).isSome := by
  constructor
  · intro given setting
    obtain ⟨settings, made⟩ := Option.isSome_iff_exists.mp given
    rw [ofMembers?_eq_some_iff.mp made setting]
    rfl
  · intro readable
    have each (setting : Setting) := Option.isSome_iff_exists.mp (readable setting)
    choose taken read using each
    have made : ofMembers? members = some (assemble taken) :=
      ofMembers?_eq_some_iff.mpr fun setting => by rw [read, get_assemble]
    rw [made]
    rfl

/-- What members give is decided by the values of the keys of settings. -/
theorem ofMembers?_congr {others : Members}
    (same : ∀ setting : Setting, member? setting.key others = member? setting.key members) :
    ofMembers? others = ofMembers? members := by
  rw [ofMembers?_eq, ofMembers?_eq]
  simp only [same]

/-- What holds where nothing is chosen can be read, and the settings without a choice hold it. -/
theorem read?_baseLayer (setting : Setting) :
    setting.read? (member? setting.key baseLayer) = some (Settings.get {} setting) := by
  cases setting <;> rfl

end Reading

/-! ## Layers -/

section Layers

variable {user? own? : Option Members} {name : Text} {keep : Text → Bool}

/-- The value chosen for a name: that of the workspace, else that of the user, else the one that
holds where nothing is chosen. -/
def chosen? (user? own? : Option Members) (name : Text) : Option Value :=
  (own?.bind (member? name)).or ((user?.bind (member? name)).or (member? name baseLayer))

/-- A layer that is flat and has a name once, if it is there. -/
def Tidy (layer? : Option Members) : Prop :=
  ∀ members ∈ layer?, Flat members ∧ (members.map Prod.fst).Nodup

/-- A layer without the members whose names are not kept. -/
def retain (keep : Text → Bool) (layer? : Option Members) : Option Members :=
  layer?.map (List.filter fun member => keep member.1)

/-- Layers give each name the value that is chosen for it. -/
theorem member?_layers (userTidy : Tidy user?) (ownTidy : Tidy own?) :
    member? name ((user?.toList ++ own?.toList).foldl overlay baseLayer) =
      chosen? user? own? name := by
  have laid {layer? : Option Members} (tidy : Tidy layer?) (below : Members) :
      member? name (layer?.toList.foldl overlay below) =
        (layer?.bind (member? name)).or (member? name below) := by
    cases layer? with
    | none => rfl
    | some layer =>
      obtain ⟨flat, distinct⟩ := tidy layer rfl
      exact member?_overlay flat distinct
  rw [List.foldl_append, laid ownTidy, laid userTidy, chosen?]

/-- A tidy layer is tidy without some of its members. -/
theorem Tidy.retain {layer? : Option Members} (tidy : Tidy layer?) :
    Tidy (retain keep layer?) := by
  intro members kept
  obtain ⟨layer, given, rfl⟩ := Option.map_eq_some_iff.mp kept
  obtain ⟨⟨plain, single⟩, distinct⟩ := tidy layer given
  exact ⟨⟨fun member listed => plain member (List.mem_of_mem_filter listed),
    fun member listed => single member (List.mem_of_mem_filter listed)⟩,
    distinct.sublist (List.filter_sublist.map Prod.fst)⟩

/-- A name that is kept keeps its value. -/
theorem bind_retain {layer? : Option Members} (kept : keep name = true) :
    (retain keep layer?).bind (member? name) = layer?.bind (member? name) := by
  cases layer? with
  | none => rfl
  | some layer =>
    have same (member : Text × Value) :
        (keep member.1 = true ∧ decide (member.1 = name) = true) ↔ member.1 = name := by
      rw [decide_eq_true_eq, and_iff_right_iff_imp]
      exact fun here => here ▸ kept
    simp only [retain, Option.map_some, Option.bind_some, member?, List.find?_filter, same]

/-- Tidy layers give settings exactly if each setting is what is read of the value chosen for it. -/
theorem ofLayers?_eq_some_iff {settings : Settings} (userTidy : Tidy user?) (ownTidy : Tidy own?) :
    ofLayers? (user?.toList ++ own?.toList) = some settings ↔ ∀ setting : Setting,
      setting.read? (chosen? user? own? setting.key) = some (settings.get setting) := by
  rw [ofLayers?, ofMembers?_eq_some_iff]
  simp only [member?_layers userTidy ownTidy]

/-- Tidy layers give settings exactly if the value chosen for each one can be read. -/
theorem ofLayers?_isSome_iff (userTidy : Tidy user?) (ownTidy : Tidy own?) :
    (ofLayers? (user?.toList ++ own?.toList)).isSome ↔
      ∀ setting : Setting, (setting.read? (chosen? user? own? setting.key)).isSome := by
  rw [ofLayers?, ofMembers?_isSome_iff]
  simp only [member?_layers userTidy ownTidy]

/-- Tidy layers that choose the same values for the keys of settings give the same settings. -/
theorem ofLayers?_congr {otherUser? otherOwn? : Option Members} (userTidy : Tidy user?)
    (ownTidy : Tidy own?) (otherUserTidy : Tidy otherUser?) (otherOwnTidy : Tidy otherOwn?)
    (same : ∀ setting : Setting,
      chosen? otherUser? otherOwn? setting.key = chosen? user? own? setting.key) :
    ofLayers? (otherUser?.toList ++ otherOwn?.toList) = ofLayers? (user?.toList ++ own?.toList) := by
  refine ofMembers?_congr fun setting => ?_
  rw [member?_layers otherUserTidy otherOwnTidy, member?_layers userTidy ownTidy, same setting]

end Layers

end Citations.Settings

namespace Citations.Command

open Settings

variable {world : World} {workspace path : Path} {user? own? layer? : Option Members}

/-! ## Files -/

/-- The place of a settings file in the order in which the ones under a path are looked for. -/
def turn (world : World) (path : Path) (format : SettingsFormat) (extension : Text) : Nat :=
  (settingsFiles world path).idxOf (format, path.append ('.' :: extension))

/-- What the settings file under a path gives: nothing where there is none, in whatever format, and
else the members of the one that is looked for first. -/
inductive Gives (world : World) (path : Path) : Option Members → Prop where
  /-- No file has an extension of a format. -/
  | absent
      (missing : ∀ format : SettingsFormat, ∀ extension ∈ format.fileExtensions,
        world.host.doesExist (path.append ('.' :: extension)) = false) :
      Gives world path none
  /-- The first file with an extension of a format follows that format. -/
  | file {format : SettingsFormat} {extension content : Text} {members : Members}
      (known : extension ∈ format.fileExtensions)
      (here : world.host.doesExist (path.append ('.' :: extension)) = true)
      (first : ∀ other : SettingsFormat, ∀ name ∈ other.fileExtensions,
        world.host.doesExist (path.append ('.' :: name)) = true →
          turn world path format extension ≤ turn world path other name)
      (bare : world.host.doesExist path = false)
      (read : world.host.read (path.append ('.' :: extension)) = .ok content)
      (follows : Settings.layer? world.reader format content = some members) :
      Gives world path (some members)

/-- The settings files under a path are those of all formats, whichever is looked for first. -/
theorem mem_settingsFiles_iff {file : SettingsFormat × Path} :
    file ∈ settingsFiles world path ↔
      ∃ extension ∈ file.1.fileExtensions, path.append ('.' :: extension) = file.2 := by
  obtain ⟨format, place⟩ := file
  simp only [settingsFiles, List.mem_flatMap, List.mem_map, Prod.mk.injEq]
  constructor
  · rintro ⟨_, -, extension, listed, rfl, same⟩
    exact ⟨extension, listed, same⟩
  · rintro ⟨extension, listed, same⟩
    exact ⟨format, world.complete format, extension, listed, rfl, same⟩

/-- What is found in a list is not behind anything else that could have been. -/
theorem idxOf_le_of_find? {α : Type} [BEq α] [LawfulBEq α] {list : List α} {fits : α → Bool}
    {a b : α} (found : list.find? fits = some a) (other : fits b = true) :
    list.idxOf a ≤ list.idxOf b := by
  obtain ⟨here, before, after, rfl, unfit⟩ := List.find?_eq_some_iff_append.mp found
  have behind {c : α} (fit : fits c = true) : c ∉ before := by
    intro listed
    have never := unfit c listed
    simp [fit] at never
  rw [List.idxOf_append_of_notMem (behind here), List.idxOf_append_of_notMem (behind other),
    List.idxOf_cons_self]
  exact Nat.le_add_right ..

/-- The settings file that is read is the one that none of the others comes before. -/
theorem find?_settingsFiles {format : SettingsFormat} {extension : Text}
    (known : extension ∈ format.fileExtensions)
    (here : world.host.doesExist (path.append ('.' :: extension)) = true)
    (first : ∀ other : SettingsFormat, ∀ name ∈ other.fileExtensions,
      world.host.doesExist (path.append ('.' :: name)) = true →
        turn world path format extension ≤ turn world path other name) :
    (settingsFiles world path).find? (fun file => world.host.doesExist file.2) =
      some (format, path.append ('.' :: extension)) := by
  have listed : (format, path.append ('.' :: extension)) ∈ settingsFiles world path :=
    mem_settingsFiles_iff.mpr ⟨extension, known, rfl⟩
  cases found : (settingsFiles world path).find? fun file => world.host.doesExist file.2 with
  | none => exact absurd here (List.find?_eq_none.mp found _ listed)
  | some file =>
    obtain ⟨name, nameKnown, place⟩ := mem_settingsFiles_iff.mp (List.mem_of_find?_eq_some found)
    have there : world.host.doesExist (path.append ('.' :: name)) = true := by
      rw [place]
      simpa using List.find?_some found
    have notLater : turn world path format extension ≤ (settingsFiles world path).idxOf file := by
      have before := first file.1 name nameKnown there
      rwa [turn, turn, place] at before
    have notEarlier : (settingsFiles world path).idxOf file ≤ turn world path format extension :=
      idxOf_le_of_find? (b := (format, path.append ('.' :: extension))) found here
    have same := (List.idxOf_inj listed).mp (Nat.le_antisymm notLater notEarlier)
    rw [same]

/-- The layer under a path is what the file gives. -/
theorem settingsLayer?_of_gives (gives : Gives world path layer?) :
    settingsLayer? world path = some layer? := by
  unfold settingsLayer?
  cases gives with
  | absent missing =>
    have nowhere : (settingsFiles world path).find?
        (fun file => world.host.doesExist file.2) = none := by
      refine List.find?_eq_none.mpr fun file listed => ?_
      obtain ⟨extension, known, same⟩ := mem_settingsFiles_iff.mp listed
      simp [← same, missing file.1 extension known]
    rw [nowhere]
    exact ite_self _
  | file known here first bare read follows =>
    rw [bare, find?_settingsFiles known here first]
    simp only [Bool.false_eq_true, if_false, read, follows, Option.map_some]

/-- What a flat file gives is tidy. -/
theorem tidy_of_gives (gives : Gives world path layer?) (flat : ∀ members ∈ layer?, Flat members) :
    Tidy layer? := by
  intro members given
  refine ⟨flat members given, ?_⟩
  cases gives with
  | absent => contradiction
  | file known here first bare read follows =>
    obtain rfl := Option.some.inj given
    exact distinct_of_layer? follows

/-- The settings are those of the file of the user and, over it, the one of the workspace. -/
theorem settings?_of_gives (theirs : Gives world (userSettings world) user?)
    (ours : Gives world (ownSettings workspace) own?) :
    settings? world workspace = ofLayers? (user?.toList ++ own?.toList) := by
  unfold settings? settingsPaths
  simp only [List.mapM_cons, List.mapM_nil, settingsLayer?_of_gives theirs,
    settingsLayer?_of_gives ours, Option.bind_eq_bind, Option.bind_some, Option.pure_def]
  cases user? <;> cases own? <;> rfl

/-! ## Settings by layers -/

/-- Where the files of the user and the workspace are flat, or absent, there are settings exactly
if the value that is chosen for each one can be read, and then that is what they hold. So a setting
is decided by its own key; a value of the workspace is not mixed with others; a key that names no
setting, and a value of the user that the workspace replaces, do not matter; and without files, in
whatever format, the settings are those that hold where nothing is chosen. -/
theorem settings?_layered (theirs : Gives world (userSettings world) user?)
    (ours : Gives world (ownSettings workspace) own?)
    (userFlat : ∀ members ∈ user?, Flat members) (ownFlat : ∀ members ∈ own?, Flat members) :
    let chosen := chosen? user? own?
    ((settings? world workspace).isSome ↔
      ∀ setting : Setting, (setting.read? (chosen setting.key)).isSome) ∧
    (∀ settings, settings? world workspace = some settings ↔
      ∀ setting : Setting, setting.read? (chosen setting.key) = some (settings.get setting)) ∧
    (∀ (other : World) (elsewhere : Path) (otherUser? otherOwn? : Option Members),
      Gives other (userSettings other) otherUser? → Gives other (ownSettings elsewhere) otherOwn? →
      (∀ members ∈ otherUser?, Flat members) → (∀ members ∈ otherOwn?, Flat members) →
      (∀ (setting : Setting) (settings others : Settings),
        chosen? otherUser? otherOwn? setting.key = chosen setting.key →
        settings? world workspace = some settings → settings? other elsewhere = some others →
        others.get setting = settings.get setting) ∧
      ((∀ setting : Setting, chosen? otherUser? otherOwn? setting.key = chosen setting.key) →
        settings? other elsewhere = settings? world workspace)) ∧
    (∀ (setting : Setting) (value : Value) (settings : Settings),
      own?.bind (member? setting.key) = some value → settings? world workspace = some settings →
      setting.read? (some value) = some (settings.get setting)) ∧
    (∀ keep : Text → Bool, (∀ setting : Setting, keep setting.key = true) →
      ofLayers? ((retain keep user?).toList ++ (retain keep own?).toList) =
        settings? world workspace) ∧
    (∀ keep : Text → Bool, (∀ name, own?.bind (member? name) = none → keep name = true) →
      ofLayers? ((retain keep user?).toList ++ own?.toList) = settings? world workspace) ∧
    (user? = none → own? = none → settings? world workspace = some {}) := by
  intro chosen
  have userTidy := tidy_of_gives theirs userFlat
  have ownTidy := tidy_of_gives ours ownFlat
  have layered := settings?_of_gives theirs ours
  have read (settings : Settings) : settings? world workspace = some settings ↔
      ∀ setting : Setting, setting.read? (chosen setting.key) = some (settings.get setting) :=
    layered ▸ ofLayers?_eq_some_iff userTidy ownTidy
  refine ⟨layered ▸ ofLayers?_isSome_iff userTidy ownTidy, read, ?_, ?_, ?_, ?_, ?_⟩
  · intro other elsewhere otherUser? otherOwn? otherTheirs otherOurs otherUserFlat otherOwnFlat
    have otherUserTidy := tidy_of_gives otherTheirs otherUserFlat
    have otherOwnTidy := tidy_of_gives otherOurs otherOwnFlat
    have otherLayered := settings?_of_gives otherTheirs otherOurs
    refine ⟨fun setting settings others same made otherMade => ?_, fun same => ?_⟩
    · rw [otherLayered, ofLayers?_eq_some_iff otherUserTidy otherOwnTidy] at otherMade
      have there := otherMade setting
      rw [same] at there
      exact Option.some.inj (there.symm.trans ((read settings).mp made setting))
    · rw [otherLayered, layered]
      exact ofLayers?_congr userTidy ownTidy otherUserTidy otherOwnTidy same
  · intro setting value settings own made
    have here : chosen setting.key = some value := by
      simp only [chosen, chosen?, own, Option.some_or]
    exact here ▸ (read settings).mp made setting
  · intro keep kept
    rw [layered]
    refine ofLayers?_congr userTidy ownTidy userTidy.retain ownTidy.retain fun setting => ?_
    simp only [chosen?, bind_retain (kept setting)]
  · intro keep kept
    rw [layered]
    refine ofLayers?_congr userTidy ownTidy userTidy.retain ownTidy fun setting => ?_
    cases own : own?.bind (member? setting.key) with
    | none => simp only [chosen?, bind_retain (kept setting.key own)]
    | some value => simp only [chosen?, own, Option.some_or]
  · rintro rfl rfl
    exact (read {}).mpr read?_baseLayer

/-- The reader that knows one text. -/
def readerOf (content : Text) (members : Members) (distinct : (members.map Prod.fst).Nodup) :
    SettingsReader where
  read? _ text := if text = content then some members else none
  distinct := by
    intro _ _ found read
    obtain ⟨-, same⟩ | ⟨-, missing⟩ := ite_eq_iff.mp read
    · exact Option.some.inj same ▸ distinct
    · contradiction

/-- A user whose file gives a setting a value that cannot be read, another one a value that can, and
a key that names none a value; a workspace whose file, in YAML, replaces the first. -/
theorem settings?_layered_repaired :
    let written : Text := "hover: false\ndefault_bibs: [a.bib]\n".toList
    let own : Members :=
      [("hover".toList, .bool false), ("default_bibs".toList, .list [.text "a.bib".toList])]
    let world : World := {
      host := Memory.host ⟨[
        (⟨"/home/.config/citer/settings.toml".toList⟩,
          "hover = \"maybe\"\nlookback_chars = 100\ncolour = 1\n".toList),
        (⟨"/work/.citer.yml".toList⟩, written)], [], [], []⟩
      home? := some ⟨"/home".toList⟩
      current := ⟨"/work".toList⟩
      reader := readerOf written own (by decide) }
    let workspace : Path := ⟨"/work".toList⟩
    let settings : Settings :=
      { defaultBibs := ["a.bib".toList], lookback := 100, showsHover := false }
    ∃ user, Gives world (userSettings world) (some user) ∧
      Gives world (ownSettings workspace) (some own) ∧ Flat user ∧ Flat own ∧
      (Setting.showsHover.read? (member? Setting.showsHover.key user)).isNone ∧
      settings? world workspace = some settings ∧
      ∀ setting : Setting,
        setting.read? (chosen? (some user) (some own) setting.key) = some (settings.get setting) := by
  intro written own world workspace settings
  have read : (Settings.layer? world.reader .toml
      "hover = \"maybe\"\nlookback_chars = 100\ncolour = 1\n".toList).any (fun user =>
        decide (Flat user) &&
          (Setting.showsHover.read? (member? Setting.showsHover.key user)).isNone) = true := by
    decide +kernel
  obtain ⟨user, follows, checked⟩ := (Option.any_eq_true _ _).mp read
  obtain ⟨userFlat, unread⟩ := Bool.and_eq_true_iff.mp checked
  have userFlat := of_decide_eq_true userFlat
  have ownFlat : Flat own := by decide +kernel
  have theirs : Gives world (userSettings world) (some user) := by
    have known : "toml".toList ∈ SettingsFormat.toml.fileExtensions := by decide
    refine .file known (by decide +kernel) ?_ (by decide +kernel) rfl follows
    intro other
    cases other <;> decide +kernel
  have ours : Gives world (ownSettings workspace) (some own) := by
    have known : "yml".toList ∈ SettingsFormat.yaml.fileExtensions := by decide
    have kept : Settings.layer? world.reader .yaml written = some own := by
      change (if written = written then some own else none) = some own
      exact if_pos rfl
    refine .file known (by decide +kernel) ?_ (by decide +kernel) rfl kept
    intro other
    cases other <;> decide +kernel
  have made : settings? world workspace = some settings := by decide +kernel
  obtain ⟨-, chosen, -⟩ := settings?_layered theirs ours
    (by rintro _ ⟨⟩; exact userFlat) (by rintro _ ⟨⟩; exact ownFlat)
  exact ⟨user, theirs, ours, userFlat, ownFlat, unread, made, (chosen settings).mp made⟩

end Citations.Command
