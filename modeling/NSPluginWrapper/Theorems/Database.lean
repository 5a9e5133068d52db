import NSPluginWrapper.Lib.Passes
import NSPluginWrapper.Lib.Search
import NSPluginWrapper.Plugin.Database

/-! The plugin that the player uses for what it is asked to show: the MIME descriptions of the plugins, the order in
    which plugins are looked at, and what an instance is made with. -/

namespace NSPluginWrapper
namespace Player
open Lib Javascript

/-! ### MIME descriptions -/

/-- A type of documents with the extensions of their names, as a plugin describes it. -/
structure MimeEntry where
  mime : List UInt8
  extensions : List (List UInt8)
  description : List UInt8
  mime_plain : colon ∉ mime ∧ semicolon ∉ mime
  extensions_plain : ∀ ext ∈ extensions, comma ∉ ext ∧ colon ∉ ext ∧ semicolon ∉ ext
  extensions_any : [comma].intercalate extensions ≠ []
  description_plain : colon ∉ description ∧ semicolon ∉ description

namespace MimeEntry

def dataTypes (entry : MimeEntry) : List PluginDataType :=
  entry.extensions.map fun ext => ⟨entry.mime, ext, entry.description⟩

def fields (entry : MimeEntry) : List (List UInt8) := [entry.mime, [comma].intercalate entry.extensions, entry.description]

def text (entry : MimeEntry) : List UInt8 := [colon].intercalate entry.fields

variable {entry : MimeEntry}

theorem not_mem_extensions {b : UInt8} (hb : b ≠ comma) (h : ∀ ext ∈ entry.extensions, b ∉ ext) :
    b ∉ [comma].intercalate entry.extensions := by
  intro hmem
  rcases mem_intercalate hmem with hcomma | ⟨ext, hext, hmem⟩
  · exact hb hcomma
  · exact h ext hext hmem

theorem colon_not_mem_fields : ∀ field ∈ entry.fields, colon ∉ field := by
  intro field hfield
  rcases List.mem_cons.mp hfield with rfl | hfield
  · exact entry.mime_plain.1
  rcases List.mem_cons.mp hfield with rfl | hfield
  · exact not_mem_extensions (by decide) fun ext hext => (entry.extensions_plain ext hext).2.1
  · rw [List.mem_singleton.mp hfield]
    exact entry.description_plain.1

theorem semicolon_not_mem_text : semicolon ∉ entry.text := by
  intro hmem
  rcases mem_intercalate hmem with hcolon | ⟨field, hfield, hmem⟩
  · exact absurd hcolon (by decide)
  rcases List.mem_cons.mp hfield with rfl | hfield
  · exact entry.mime_plain.2 hmem
  rcases List.mem_cons.mp hfield with rfl | hfield
  · exact not_mem_extensions (by decide) (fun ext hext => (entry.extensions_plain ext hext).2.2) hmem
  · rw [List.mem_singleton.mp hfield] at hmem
    exact entry.description_plain.2 hmem

theorem text_ne_nil : entry.text ≠ [] := by
  rw [text, fields, List.intercalate_cons_cons]
  simp

theorem mimeDataTypes_text : mimeDataTypes entry.text = entry.dataTypes := by
  have hfields : gStrsplit entry.text colon = entry.fields := splitParts_intercalate colon_not_mem_fields text_ne_nil
  have hexts : gStrsplit ([comma].intercalate entry.extensions) comma = entry.extensions :=
    splitParts_intercalate (fun ext hext => (entry.extensions_plain ext hext).1) entry.extensions_any
  rw [mimeDataTypes, hfields, fields]
  show (gStrsplit ([comma].intercalate entry.extensions) comma).map _ = _
  rw [hexts, dataTypes]

end MimeEntry

/-- What NP_GetMIMEDescription() returns for these, with or without a semicolon after the last. -/
def mimeDescription (entries : List MimeEntry) (trailing : Bool) : List UInt8 :=
  [semicolon].intercalate (entries.map MimeEntry.text) ++ if trailing then [semicolon] else []

theorem mimeDataTypes_nil : mimeDataTypes [] = [] := rfl

theorem flatMap_mimeDataTypes (entries : List MimeEntry) :
    (entries.map MimeEntry.text).flatMap mimeDataTypes = entries.flatMap MimeEntry.dataTypes := by
  rw [List.flatMap_map]
  exact List.flatMap_congr fun entry _ => MimeEntry.mimeDataTypes_text

theorem dataTypesOf_intercalate {parts : List (List UInt8)} (h : ∀ part ∈ parts, semicolon ∉ part)
    (hne : [semicolon].intercalate parts ≠ []) :
    dataTypesOf (some ([semicolon].intercalate parts)) = parts.flatMap mimeDataTypes := by
  rw [dataTypesOf, gStrsplit, splitParts_intercalate h hne]

theorem dataTypesOf_mimeDescription (entries : List MimeEntry) (trailing : Bool) :
    dataTypesOf (some (mimeDescription entries trailing)) = entries.flatMap MimeEntry.dataTypes := by
  have hplain : ∀ part ∈ entries.map MimeEntry.text, semicolon ∉ part := by
    intro part hpart
    obtain ⟨entry, -, rfl⟩ := List.mem_map.mp hpart
    exact MimeEntry.semicolon_not_mem_text
  cases entries with
  | nil => cases trailing with
    | false => rfl
    | true => rfl
  | cons entry entries =>
    have hne : [semicolon].intercalate ((entry :: entries).map MimeEntry.text) ≠ [] := by
      cases entries with
      | nil => simpa using entry.text_ne_nil
      | cons next entries => simp [List.intercalate_cons_cons]
    cases trailing with
    | false =>
      rw [mimeDescription, if_neg Bool.false_ne_true, List.append_nil, dataTypesOf_intercalate hplain hne, flatMap_mimeDataTypes]
    | true =>
      have hplain' : ∀ part ∈ (entry :: entries).map MimeEntry.text ++ [[]], semicolon ∉ part := by
        intro part hpart
        rcases List.mem_append.mp hpart with hpart | hpart
        · exact hplain part hpart
        · rw [List.mem_singleton.mp hpart]
          exact List.not_mem_nil
      rw [mimeDescription, if_pos rfl, intercalate_append_nil (by simp), dataTypesOf_intercalate hplain', List.flatMap_append,
        flatMap_mimeDataTypes, List.flatMap_singleton, mimeDataTypes_nil, List.append_nil]
      rw [← intercalate_append_nil (by simp)]
      simp

/-- What is made of one of the parts, whatever it is. -/
theorem mimeDataTypes_entries {part : List UInt8} (hpart : semicolon ∉ part) :
    ∃ entries : List MimeEntry, mimeDataTypes part = entries.flatMap MimeEntry.dataTypes := by
  rw [mimeDataTypes]
  split
  · rename_i mime extensions description more hsplit
    have hfield : ∀ field ∈ mime :: extensions :: description :: more, colon ∉ field ∧ semicolon ∉ field := by
      intro field hfield
      obtain ⟨hcolon, hsub⟩ := of_mem_splitParts (hsplit ▸ hfield : field ∈ gStrsplit part colon)
      exact ⟨hcolon, fun hsemicolon => hpart (hsub semicolon hsemicolon)⟩
    obtain ⟨hmime, hexts, hdesc, -⟩ : _ ∧ _ ∧ _ ∧ _ := by simpa only [List.forall_mem_cons] using hfield
    by_cases hnil : extensions = []
    · subst hnil
      exact ⟨[], rfl⟩
    · have hjoin : [comma].intercalate (gStrsplit extensions comma) = extensions := by
        rw [gStrsplit, splitParts_of_ne_nil hnil, List.intercalate_splitOn]
      refine ⟨[⟨mime, gStrsplit extensions comma, description, hmime, ?_, ?_, hdesc⟩], ?_⟩
      · intro ext hext
        obtain ⟨hcomma, hsub⟩ := of_mem_splitParts hext
        exact ⟨hcomma, fun hmem => hexts.1 (hsub colon hmem), fun hmem => hexts.2 (hsub semicolon hmem)⟩
      · rwa [hjoin]
      · rw [List.flatMap_singleton, MimeEntry.dataTypes]
  · exact ⟨[], rfl⟩

theorem dataTypesOf_entries (mimeDesc : Option (List UInt8)) :
    ∃ entries : List MimeEntry, dataTypesOf mimeDesc = entries.flatMap MimeEntry.dataTypes := by
  cases mimeDesc with
  | none => exact ⟨[], rfl⟩
  | some mimeDesc =>
    have hparts : ∀ part ∈ gStrsplit mimeDesc semicolon, semicolon ∉ part := fun part hpart => (of_mem_splitParts hpart).1
    rw [dataTypesOf]
    generalize gStrsplit mimeDesc semicolon = parts at hparts
    induction parts with
    | nil => exact ⟨[], rfl⟩
    | cons part parts ih =>
      obtain ⟨hpart, hparts⟩ := List.forall_mem_cons.mp hparts
      obtain ⟨first, hfirst⟩ := mimeDataTypes_entries hpart
      obtain ⟨rest, hrest⟩ := ih hparts
      refine ⟨first ++ rest, ?_⟩
      rw [List.flatMap_cons, hfirst, hrest, List.flatMap_append]

/-- What a plugin describes is what the player has of it, whether or not a semicolon ends the description, and whatever a
    plugin returns the player has what some description would give. -/
theorem mime_descriptions_read :
    (∀ (entries : List MimeEntry) (trailing : Bool),
      dataTypesOf (some (mimeDescription entries trailing)) = entries.flatMap MimeEntry.dataTypes) ∧
    ∀ mimeDesc, ∃ entries, dataTypesOf mimeDesc = dataTypesOf (some (mimeDescription entries false)) := by
  refine ⟨dataTypesOf_mimeDescription, fun mimeDesc => ?_⟩
  obtain ⟨entries, hentries⟩ := dataTypesOf_entries mimeDesc
  exact ⟨entries, hentries.trans (dataTypesOf_mimeDescription entries false).symm⟩

/-! ### The order of the plugins -/

namespace PlayerHost

/-- Where plugins are looked for, the preferred first: the directory that has been changed to, and a path. -/
def ranked (host : PlayerHost) : List (List UInt8 × List UInt8) :=
  (host.pluginPaths.filter host.fileTestIsDir).flatMap fun dirname =>
    ((host.readDir (resolve host.currentDir dirname)).getD []).reverse.map fun name =>
      (resolve host.currentDir dirname, gBuildFilename dirname name)

/-- A library that is taken for a plugin and cannot be made one: there is no NP_GetValue in it. -/
def Broken (host : PlayerHost) (place : List UInt8 × List UInt8) : Prop :=
  host.isNpapiPlugin place.1 place.2 = true ∧ host.pluginNew place.1 place.2 = none

/-- The plugins that there are, the preferred first. -/
def usable (host : PlayerHost) : List Plugin := host.ranked.filterMap fun place => host.pluginNew place.1 place.2

def couldNotInitialize (path : List UInt8) : PlayerStop :=
  .gError (ascii "could not initialize plugin '" ++ path ++ ascii "'")

variable {host : PlayerHost} {place : List UInt8 × List UInt8}

/-- What is_npapi_plugin() asks for, plugin_new() asks for too. -/
theorem isNpapiPlugin_of_pluginNew {dir path : List UInt8} {plugin : Plugin} (h : host.pluginNew dir path = some plugin) :
    host.isNpapiPlugin dir path = true := by
  rw [pluginNew] at h
  rw [isNpapiPlugin]
  cases hopen : host.dlopen (resolve dir path) with
  | none =>
    rw [hopen] at h
    cases h
  | some library =>
    rw [hopen] at h
    obtain ⟨init, shutdown, describe, value⟩ := library
    dsimp only at h ⊢
    split at h
    · rfl
    · cases h

theorem getPluginDirs_eq : host.getPluginDirs = (host.pluginPaths.filter host.fileTestIsDir).reverse := by
  have hfold : ∀ (paths dirs : List (List UInt8)),
      paths.foldl host.gListPrependIfPathExists dirs = (paths.filter host.fileTestIsDir).reverse ++ dirs := by
    intro paths
    induction paths with
    | nil => exact fun dirs => rfl
    | cons path paths ih =>
      intro dirs
      rw [List.foldl_cons, ih, gListPrependIfPathExists, List.filter_cons]
      split
      · rw [List.reverse_cons, List.append_assoc, List.singleton_append]
      · rfl
  rw [getPluginDirs, hfold, List.append_nil]

/-- One place. -/
def loadPlace (host : PlayerHost) (plugins : List Plugin) (place : List UInt8 × List UInt8) : Except PlayerStop (List Plugin) :=
  if host.isNpapiPlugin place.1 place.2 then host.playerAppLoadPlugin place.1 place.2 plugins else .ok plugins

theorem playerAppLoadPlugins_eq (plugins : List Plugin) (dirname : List UInt8) : host.playerAppLoadPlugins plugins dirname =
    (((host.readDir (resolve host.currentDir dirname)).getD []).map fun name =>
      (resolve host.currentDir dirname, gBuildFilename dirname name)).foldlM host.loadPlace plugins := by
  rw [playerAppLoadPlugins, List.foldlM_map]
  cases host.readDir (resolve host.currentDir dirname) with
  | none => rfl
  | some names => rfl

/-- The player goes through the places from the last to the first, as each plugin is put before the others. -/
theorem appPlugins_eq : host.appPlugins = host.ranked.reverse.foldlM host.loadPlace [] := by
  rw [appPlugins, getPluginDirs_eq, ranked, List.reverse_flatMap, foldlM_flatMap]
  congr 1
  funext plugins dirname
  rw [playerAppLoadPlugins_eq, Function.comp_apply, ← List.map_reverse, List.reverse_reverse]

theorem loadPlace_ok (h : ¬host.Broken place) (plugins : List Plugin) :
    host.loadPlace plugins place = .ok ((host.pluginNew place.1 place.2).toList ++ plugins) := by
  rw [loadPlace, playerAppLoadPlugin]
  cases hnew : host.pluginNew place.1 place.2 with
  | none =>
    rw [if_neg fun hplugin => h ⟨hplugin, hnew⟩]
    rfl
  | some plugin =>
    rw [if_pos (isNpapiPlugin_of_pluginNew hnew)]
    rfl

theorem loadPlace_error (h : host.Broken place) (plugins : List Plugin) :
    host.loadPlace plugins place = .error (couldNotInitialize place.2) := by
  obtain ⟨hplugin, hnew⟩ := h
  rw [loadPlace, if_pos hplugin, playerAppLoadPlugin, hnew, couldNotInitialize]

theorem appPlugins_ok (h : ∀ place ∈ host.ranked, ¬host.Broken place) : host.appPlugins = .ok host.usable := by
  rw [appPlugins_eq, foldlM_collect fun place hplace => loadPlace_ok (h place (List.mem_reverse.mp hplace)),
    List.filterMap_reverse, List.reverse_reverse, List.append_nil, usable]

theorem appPlugins_error {before after : List (List UInt8 × List UInt8)} (hranked : host.ranked = before ++ place :: after)
    (hbroken : host.Broken place) (hafter : ∀ other ∈ after, ¬host.Broken other) :
    host.appPlugins = .error (couldNotInitialize place.2) := by
  rw [appPlugins_eq, hranked, List.reverse_append, List.reverse_cons, List.append_assoc, List.singleton_append]
  exact foldlM_collect_error (fun other hother => loadPlace_ok (hafter other (List.mem_reverse.mp hother)))
    (loadPlace_error hbroken) _ _

end PlayerHost

/-! ### The plugin that is found -/

/-- A data type that the attributes ask for: by `type`, or else by what `src` ends in. -/
def wanted (attrs : Attrs) (dataType : PluginDataType) : Bool :=
  match attrs.lookup typeName with
  | some mimeType => dataType.mime == mimeType
  | none =>
    match (attrs.lookup srcName).bind uriExtension with
    | some ext => dataType.extension == ext
    | none => false

/-- The attributes with a `type`, which is that of what was found where there was none. -/
def withType (attrs : Attrs) (dataType : PluginDataType) : Attrs :=
  if (attrs.lookup typeName).isSome then attrs else attrs.insert typeName dataType.mime

/-- A uri without an extension, and no `type`. -/
def Extensionless (attrs : Attrs) : Prop :=
  attrs.lookup typeName = none ∧ ∃ uri, attrs.lookup srcName = some uri ∧ dot ∉ uri

/-- The first of the plugins that has what is asked for, with the first of its data types that is. -/
def firstWanted (plugins : List Plugin) (attrs : Attrs) : Option (Plugin × PluginDataType) :=
  plugins.findSome? fun plugin => ((pluginGetDataTypes plugin).find? (wanted attrs)).map fun dataType => (plugin, dataType)

theorem strrchr_eq_none {str : List UInt8} {ch : UInt8} : strrchr str ch = none ↔ ch ∉ str := by
  induction str with
  | nil => exact ⟨fun _ => List.not_mem_nil, fun _ => rfl⟩
  | cons b str ih =>
    rw [strrchr, List.mem_cons, not_or]
    cases hfound : strrchr str ch with
    | some found =>
      rw [hfound] at ih
      exact ⟨fun h => absurd h (Option.some_ne_none found), fun h => absurd (ih.mpr h.2) (Option.some_ne_none found)⟩
    | none =>
      have hrest := ih.mp hfound
      dsimp only
      split
      · rename_i hb
        exact ⟨fun h => absurd h (Option.some_ne_none _), fun h => absurd hb.symm h.1⟩
      · rename_i hb
        exact ⟨fun _ => ⟨fun h => hb h.symm, hrest⟩, fun _ => rfl⟩

/-- A search for a text compares it with one value after another. -/
theorem findPluginCustom_some (plugins : List Plugin) (field : PluginDataType → List UInt8) (value : List UInt8) :
    findPluginCustom plugins field (some value) = .ok (plugins.findSome? fun plugin =>
      ((pluginGetDataTypes plugin).find? fun dataType => field dataType == value).map fun dataType => (plugin, dataType.mime)) := by
  have hcb : findPluginCustomCb field (some value) = fun dataType => pure (field dataType == value) := rfl
  rw [findPluginCustom, hcb]
  simp only [List.findM?_pure, pure_bind]
  exact List.findSomeM?_pure

/-- A search for NULL ends at the first data type that it meets. -/
theorem findPluginCustom_none (plugins : List Plugin) (field : PluginDataType → List UInt8) :
    findPluginCustom plugins field none =
      if plugins.any fun plugin => pluginGetDataTypes plugin ≠ [] then .error .nullString else .ok none := by
  rw [findPluginCustom]
  induction plugins with
  | nil => rfl
  | cons plugin plugins ih =>
    rw [List.findSomeM?_cons, List.any_cons]
    cases pluginGetDataTypes plugin with
    | nil => exact ih
    | cons dataType dataTypes => rfl

theorem findSome?_mime (plugins : List Plugin) (p : PluginDataType → Bool) :
    (plugins.findSome? fun plugin => ((pluginGetDataTypes plugin).find? p).map fun dataType => (plugin, dataType.mime)) =
      (plugins.findSome? fun plugin => ((pluginGetDataTypes plugin).find? p).map fun dataType => (plugin, dataType)).map
        fun found => (found.1, found.2.mime) := by
  rw [List.map_findSome?]
  refine findSome?_congr fun plugin _ => ?_
  rw [Function.comp_apply, Option.map_map]
  rfl

theorem firstWanted_eq_none (plugins : List Plugin) {attrs : Attrs} (h : ∀ dataType, wanted attrs dataType = false) :
    firstWanted plugins attrs = none := by
  refine List.findSome?_eq_none_iff.mpr fun plugin _ => ?_
  rw [List.find?_eq_none.mpr fun dataType _ => by rw [h dataType]; exact Bool.false_ne_true]
  rfl

/-- The lookup finds the first plugin that has what is asked for, unless it has a NULL to compare with. -/
theorem lookupPlugin_eq (plugins : List Plugin) {attrs : Attrs}
    (h : ¬(Extensionless attrs ∧ ∃ plugin ∈ plugins, pluginGetDataTypes plugin ≠ [])) :
    lookupPlugin plugins attrs = .ok ((firstWanted plugins attrs).map fun found => (found.1, withType attrs found.2)) := by
  rw [lookupPlugin]
  cases htype : attrs.lookup typeName with
  | some mimeType =>
    have hwanted : wanted attrs = fun dataType => dataType.mime == mimeType := by
      funext dataType
      rw [wanted, htype]
    rw [firstWanted, hwanted]
    dsimp only
    rw [findPluginByMime, findPluginCustom_some, findSome?_mime]
    show Except.ok _ = _
    rw [Option.map_map]
    congr 2
    funext found
    rw [Function.comp_apply, withType, htype, Option.isSome_some, if_pos rfl]
  | none =>
    cases hsrc : attrs.lookup srcName with
    | none =>
      rw [firstWanted_eq_none plugins fun dataType => by rw [wanted, htype, hsrc]; rfl]
      rfl
    | some uri =>
      dsimp only
      rw [findPluginByUri]
      cases hext : uriExtension uri with
      | some ext =>
        have hwanted : wanted attrs = fun dataType => dataType.extension == ext := by
          funext dataType
          rw [wanted, htype, hsrc]
          dsimp only
          rw [Option.bind_some, hext]
        rw [firstWanted, hwanted, findPluginCustom_some, findSome?_mime]
        show Except.ok _ = _
        rw [Option.map_map]
        congr 2
        funext found
        rw [Function.comp_apply, withType, htype, if_neg (by simp)]
      | none =>
        have hnone : firstWanted plugins attrs = none := firstWanted_eq_none plugins fun dataType => by
          rw [wanted, htype, hsrc]
          dsimp only
          rw [Option.bind_some, hext]
        have hless : Extensionless attrs := ⟨htype, uri, hsrc, strrchr_eq_none.mp (Option.map_eq_none_iff.mp hext)⟩
        have hno : ¬(plugins.any fun plugin => pluginGetDataTypes plugin ≠ []) = true := by
          intro hany
          obtain ⟨plugin, hmem, htypes⟩ := List.any_eq_true.mp hany
          exact h ⟨hless, plugin, hmem, by simpa using htypes⟩
        rw [findPluginCustom_none, if_neg hno, hnone]
        rfl

theorem lookupPlugin_error {plugins : List Plugin} {attrs : Attrs} (hless : Extensionless attrs)
    (hany : ∃ plugin ∈ plugins, pluginGetDataTypes plugin ≠ []) : lookupPlugin plugins attrs = .error .nullString := by
  obtain ⟨htype, uri, hsrc, hdot⟩ := hless
  obtain ⟨plugin, hmem, htypes⟩ := hany
  have hext : uriExtension uri = none := Option.map_eq_none_iff.mpr (strrchr_eq_none.mpr hdot)
  rw [lookupPlugin, htype, hsrc]
  dsimp only
  rw [findPluginByUri, hext, findPluginCustom_none, if_pos (List.any_eq_true.mpr ⟨plugin, hmem, by simpa using htypes⟩)]
  rfl

theorem firstWanted_eq_some_iff {plugins : List Plugin} {attrs : Attrs} {plugin : Plugin} {dataType : PluginDataType} :
    firstWanted plugins attrs = some (plugin, dataType) ↔
      ∃ before after, plugins = before ++ plugin :: after ∧ (∀ other ∈ before, ∀ t ∈ pluginGetDataTypes other, wanted attrs t = false) ∧
        (pluginGetDataTypes plugin).find? (wanted attrs) = some dataType := by
  rw [firstWanted, List.findSome?_eq_some_iff]
  have hnone : ∀ other : Plugin, ((pluginGetDataTypes other).find? (wanted attrs)).map (fun dataType => (other, dataType)) = none ↔
      ∀ t ∈ pluginGetDataTypes other, wanted attrs t = false := by
    intro other
    rw [Option.map_eq_none_iff, List.find?_eq_none]
    simp only [Bool.not_eq_true]
  constructor
  · rintro ⟨before, other, after, hplugins, hfound, hbefore⟩
    obtain ⟨t, hfind, heq⟩ := Option.map_eq_some_iff.mp hfound
    cases heq
    exact ⟨before, after, hplugins, fun p hp => (hnone p).mp (hbefore p hp), hfind⟩
  · rintro ⟨before, after, hplugins, hbefore, hfind⟩
    refine ⟨before, plugin, after, hplugins, ?_, fun p hp => (hnone p).mpr (hbefore p hp)⟩
    rw [hfind]
    rfl

theorem wanted_of_extensionless {attrs : Attrs} (h : Extensionless attrs) (dataType : PluginDataType) :
    wanted attrs dataType = false := by
  obtain ⟨htype, uri, hsrc, hdot⟩ := h
  rw [wanted, htype, hsrc]
  dsimp only
  rw [Option.bind_some, uriExtension, strrchr_eq_none.mpr hdot]
  rfl

def couldNotFind : PlayerStop := .gError (ascii "could not find any plugin to use")

theorem playerAppRun_of_lookup {host : PlayerHost} {attrs : Attrs} {found : Option (Plugin × Attrs)}
    (hsound : ∀ place ∈ host.ranked, ¬host.Broken place) (h : lookupPlugin host.usable attrs = .ok found) :
    host.playerAppRun attrs = found.elim (.error couldNotFind) .ok := by
  rw [PlayerHost.playerAppRun, PlayerHost.appPlugins_ok hsound]
  show (lookupPlugin host.usable attrs >>= _) = _
  rw [h]
  cases found with
  | none => rfl
  | some started => rfl

/-- The player uses the first plugin that has what is asked for, of the home directory, of each directory of
    MOZ_PLUGIN_PATH in their order, and of those of the system, the last of a directory before the others; and that plugin
    is given its own MIME type where none was asked for. No plugin is used where none has it, where a uri without an
    extension is compared, or where a library is taken for a plugin and is none. -/
theorem player_uses_first (host : PlayerHost) (attrs : Attrs) :
    (∀ before place after, host.ranked = before ++ place :: after → host.Broken place → (∀ other ∈ after, ¬host.Broken other) →
      host.playerAppRun attrs = .error (PlayerHost.couldNotInitialize place.2)) ∧
    ((∀ place ∈ host.ranked, ¬host.Broken place) →
      (∀ plugin attrs', host.playerAppRun attrs = .ok (plugin, attrs') ↔
        ∃ before after dataType, host.usable = before ++ plugin :: after ∧
          (∀ other ∈ before, ∀ t ∈ pluginGetDataTypes other, wanted attrs t = false) ∧
          (pluginGetDataTypes plugin).find? (wanted attrs) = some dataType ∧ attrs' = withType attrs dataType) ∧
      (host.playerAppRun attrs = .error .nullString ↔
        Extensionless attrs ∧ ∃ plugin ∈ host.usable, pluginGetDataTypes plugin ≠ []) ∧
      (host.playerAppRun attrs = .error couldNotFind ↔
        (∀ plugin ∈ host.usable, ∀ t ∈ pluginGetDataTypes plugin, wanted attrs t = false) ∧
          (Extensionless attrs → ∀ plugin ∈ host.usable, pluginGetDataTypes plugin = []))) := by
  constructor
  · intro before place after hranked hbroken hafter
    rw [PlayerHost.playerAppRun, PlayerHost.appPlugins_error hranked hbroken hafter]
    rfl
  intro hsound
  by_cases hnull : Extensionless attrs ∧ ∃ plugin ∈ host.usable, pluginGetDataTypes plugin ≠ []
  · obtain ⟨hless, plugin, hmem, htypes⟩ := hnull
    have hrun : host.playerAppRun attrs = .error .nullString := by
      rw [PlayerHost.playerAppRun, PlayerHost.appPlugins_ok hsound]
      show (lookupPlugin host.usable attrs >>= _) = _
      rw [lookupPlugin_error hless ⟨plugin, hmem, htypes⟩]
      rfl
    rw [hrun]
    refine ⟨fun other attrs' => ⟨fun h => (by cases h), ?_⟩, ⟨fun _ => ⟨hless, plugin, hmem, htypes⟩, fun _ => rfl⟩, ⟨fun h => (by cases h), ?_⟩⟩
    · rintro ⟨before, after, dataType, -, -, hfind, -⟩
      have hwanted := List.find?_some hfind
      rw [wanted_of_extensionless hless] at hwanted
      cases hwanted
    · rintro ⟨-, hall⟩
      exact absurd (hall hless plugin hmem) htypes
  · have hlookup := lookupPlugin_eq host.usable hnull
    have hrun := playerAppRun_of_lookup hsound hlookup
    cases hfirst : firstWanted host.usable attrs with
    | none =>
      rw [hfirst] at hrun
      have hunwanted : ∀ plugin ∈ host.usable, ∀ t ∈ pluginGetDataTypes plugin, wanted attrs t = false := by
        intro plugin hmem
        have hnone := List.findSome?_eq_none_iff.mp hfirst plugin hmem
        rw [Option.map_eq_none_iff, List.find?_eq_none] at hnone
        exact fun t ht => Bool.eq_false_iff.mpr (hnone t ht)
      rw [hrun]
      refine ⟨fun plugin attrs' => ⟨fun h => (by cases h), ?_⟩, ⟨fun h => (by cases h), fun h => absurd h hnull⟩,
        ⟨fun _ => ⟨hunwanted, fun hless plugin hmem => ?_⟩, fun _ => rfl⟩⟩
      · rintro ⟨before, after, dataType, husable, hbefore, hfind, -⟩
        rw [firstWanted_eq_some_iff.mpr ⟨before, after, husable, hbefore, hfind⟩] at hfirst
        cases hfirst
      · by_contra htypes
        exact hnull ⟨hless, plugin, hmem, htypes⟩
    | some found =>
      obtain ⟨plugin, dataType⟩ := found
      rw [hfirst] at hrun
      obtain ⟨before, after, husable, hbefore, hfind⟩ := firstWanted_eq_some_iff.mp hfirst
      rw [hrun]
      refine ⟨fun other attrs' => ⟨?_, ?_⟩, ⟨fun h => (by cases h), fun h => absurd h hnull⟩, ⟨fun h => (by cases h), ?_⟩⟩
      · intro h
        cases h
        exact ⟨before, after, dataType, husable, hbefore, hfind, rfl⟩
      · rintro ⟨before', after', t, husable', hbefore', hfind', rfl⟩
        have hsame := firstWanted_eq_some_iff.mpr ⟨before', after', husable', hbefore', hfind'⟩
        rw [hfirst] at hsame
        cases hsame
        rfl
      · rintro ⟨hunwanted, -⟩
        have hmem : plugin ∈ host.usable := by
          rw [husable]
          exact List.mem_append_right before List.mem_cons_self
        have hwanted := List.find?_some hfind
        rw [hunwanted plugin hmem dataType (List.mem_of_find?_eq_some hfind)] at hwanted
        cases hwanted

/-! ### What an instance is made with -/

/-- The attributes of a table. -/
def pairs (attrs : Attrs) : List (List UInt8 × List UInt8) := attrs.entries.map fun entry => (entry.1, entry.2)

theorem map_fst_pairs (attrs : Attrs) : (pairs attrs).map Prod.fst = attrs.keys := by
  rw [pairs, List.map_map]
  rfl

theorem mem_pairs {attrs : Attrs} {name value : List UInt8} (h : attrs.lookup name = some value) : (name, value) ∈ pairs attrs :=
  List.mem_map.mpr ⟨⟨name, value⟩, AList.mem_lookup_iff.mp h, rfl⟩

/-- A name in lower case that is not one of those that g_NPP_New() adds. -/
def Fit (name : List UInt8) : Prop := gAsciiStrdown name = name ∧ name ≠ ascii "width" ∧ name ≠ ascii "height"

theorem gAsciiTolower_idem (ch : UInt8) : gAsciiTolower (gAsciiTolower ch) = gAsciiTolower ch := by
  by_cases hupper : 65 ≤ ch ∧ ch ≤ 90
  · have hlower : gAsciiTolower ch = ch + 32 := if_pos hupper
    rw [hlower, gAsciiTolower, if_neg]
    rw [UInt8.le_iff_toNat_le, UInt8.le_iff_toNat_le] at hupper ⊢
    rw [UInt8.toNat_add]
    simp only [UInt8.reduceToNat] at hupper ⊢
    omega
  · have hlower : gAsciiTolower ch = ch := if_neg hupper
    rw [hlower, hlower]

def Fits (attrs : Attrs) : Prop := ∀ name ∈ attrs, Fit name

theorem fits_empty : Fits ∅ := fun name hname => absurd hname (AList.notMem_empty name)

theorem Fits.insert {attrs : Attrs} {name : List UInt8} (h : Fits attrs) (hname : Fit name) (value : List UInt8) :
    Fits (attrs.insert name value) := by
  intro other hother
  rcases (AList.mem_insert attrs).mp hother with rfl | hother
  · exact hname
  · exact h other hother

theorem fit_typeName : Fit typeName := ⟨by decide, by decide, by decide⟩

theorem gAsciiStrdown_idem (str : List UInt8) : gAsciiStrdown (gAsciiStrdown str) = gAsciiStrdown str := by
  rw [gAsciiStrdown, gAsciiStrdown, List.map_map]
  exact List.map_congr_left fun ch _ => gAsciiTolower_idem ch

theorem readAttribute_fits {host : PlayerHost} {desc desc' : PluginDescriptor} {arg : List UInt8} (hfits : Fits desc.attrs)
    (h : host.readAttribute desc arg = .ok desc') : Fits desc'.attrs := by
  rw [PlayerHost.readAttribute] at h
  split at h
  · cases h
  dsimp only at h
  split at h
  · split at h
    · cases h
      exact hfits
    split at h
    · cases h
      exact hfits
    · cases h
      exact hfits
  · split at h
    · cases h
      exact hfits
    rename_i hwidth
    split at h
    · cases h
      exact hfits
    rename_i hheight
    cases h
    refine hfits.insert ⟨gAsciiStrdown_idem _, fun heq => hwidth ?_, fun heq => hheight ?_⟩ _
    · rw [isCasecmp, heq]
      exact beq_self_eq_true _
    · rw [isCasecmp, heq]
      exact beq_self_eq_true _

/-- All the descriptors, with the one that is being read. -/
def CommandLine.Fits (c : CommandLine) : Prop := ∀ desc ∈ c.pluginDescs ++ c.pluginDesc.toList, Player.Fits desc.attrs

theorem CommandLine.Fits.addDesc {c : CommandLine} {desc : PluginDescriptor} (h : c.Fits) (hdesc : Player.Fits desc.attrs) :
    CommandLine.Fits { c.addDesc with pluginDesc := some desc } := by
  intro other hother
  rcases List.mem_append.mp hother with hother | hother
  · exact h other hother
  · rw [List.mem_singleton.mp hother]
    exact hdesc

theorem CommandLine.Fits.setDesc {c : CommandLine} {desc : PluginDescriptor} (h : c.Fits) (hdesc : Player.Fits desc.attrs) :
    CommandLine.Fits { c with pluginDesc := some desc } := by
  intro other hother
  rcases List.mem_append.mp hother with hother | hother
  · exact h other (List.mem_append_left _ hother)
  · rw [List.mem_singleton.mp hother]
    exact hdesc

theorem CommandLine.Fits.current {c : CommandLine} (h : c.Fits) : Player.Fits (c.pluginDesc.getD pluginDescriptorNew).attrs := by
  cases hdesc : c.pluginDesc with
  | none => exact fits_empty
  | some desc => exact h desc (List.mem_append_right _ (by rw [hdesc]; exact List.mem_singleton_self desc))

/-- Whatever the arguments are, the attributes that they give have names that fit. -/
theorem readArgs_fits {host : PlayerHost} {args : List (List UInt8)} {c c' : CommandLine} (hfits : c.Fits)
    (h : host.readArgs args c = .ok (.line c')) : c'.Fits := by
  fun_induction PlayerHost.readArgs host args c with
  | case1 c =>
    cases h
    exact hfits
  | case2 arg args c hopt => cases h
  | case3 arg args c hopt ih => exact ih hfits h
  | case4 arg c hopt =>
    cases h
    exact hfits
  | case5 arg c hopt title args ih => exact ih hfits h
  | case6 arg args c hopt ih => exact ih hfits h
  | case7 arg c hopt =>
    cases h
    exact hfits
  | case8 arg c hopt args ih => exact ih hfits h
  | case9 arg c hopt backend args hbackend => cases h
  | case10 arg args c hopt ih => exact ih hfits h
  | case11 arg args c hopt ih => exact ih hfits h
  | case12 arg c hopt =>
    cases h
    exact hfits
  | case13 arg c hopt xid args ih => exact ih hfits h
  | case14 arg args c hopt ih => exact ih (hfits.addDesc fits_empty) h
  | case15 arg args c hopt e he => cases h
  | case16 arg args c hopt desc hdesc ih => exact ih (hfits.setDesc (readAttribute_fits hfits.current hdesc)) h

theorem parse_fits {host : PlayerHost} {args : List (List UInt8)} {c : CommandLine} (h : host.parse args = .ok (.line c)) :
    ∀ desc ∈ c.pluginDescs, Fits desc.attrs := by
  have hstart : CommandLine.Fits commandLine := fun desc hdesc => absurd hdesc List.not_mem_nil
  rw [PlayerHost.parse] at h
  split at h
  · cases h
  · cases h
  · rename_i read hread
    dsimp only at h
    split at h
    · cases h
    · cases h
      exact readArgs_fits hstart hread

theorem withType_fits {attrs : Attrs} (h : Fits attrs) (dataType : PluginDataType) : Fits (withType attrs dataType) := by
  rw [withType]
  split
  · exact h
  · exact h.insert fit_typeName dataType.mime

/-- A plugin that is found has the type that the attributes have then. -/
theorem lookup_withType {attrs : Attrs} {dataType : PluginDataType} (h : wanted attrs dataType = true) :
    (withType attrs dataType).lookup typeName = some dataType.mime := by
  rw [wanted] at h
  rw [withType]
  cases htype : attrs.lookup typeName with
  | some mimeType =>
    rw [htype] at h
    rw [Option.isSome_some, if_pos rfl, htype, eq_of_beq h]
  | none =>
    rw [Option.isSome_none, if_neg Bool.false_ne_true]
    exact AList.lookup_insert attrs

/-- None of the attributes that there were is lost. -/
theorem lookup_withType_of_some {attrs : Attrs} {dataType : PluginDataType} {name value : List UInt8} (h : attrs.lookup name = some value) :
    (withType attrs dataType).lookup name = some value := by
  rw [withType]
  split
  · exact h
  · rename_i htype
    rw [Table.lookup_insert, if_neg]
    · exact h
    · rintro rfl
      rw [h] at htype
      exact htype rfl

theorem lookup_withType_cases {attrs : Attrs} {dataType : PluginDataType} {name value : List UInt8}
    (h : (withType attrs dataType).lookup name = some value) :
    attrs.lookup name = some value ∨ (name, value) = (typeName, dataType.mime) := by
  rw [withType] at h
  split at h
  · exact .inl h
  · rw [Table.lookup_insert] at h
    split at h
    · rename_i hname
      cases h
      exact .inr (by rw [hname])
    · exact .inl h

/-- A plugin is only ever used for one of its data types. -/
theorem wanted_of_playerAppRun {host : PlayerHost} {attrs attrs' : Attrs} {plugin : Plugin}
    (h : host.playerAppRun attrs = .ok (plugin, attrs')) :
    ∃ dataType ∈ pluginGetDataTypes plugin, wanted attrs dataType = true ∧ attrs' = withType attrs dataType := by
  rw [PlayerHost.playerAppRun] at h
  cases hplugins : host.appPlugins with
  | error e =>
    rw [hplugins] at h
    cases h
  | ok plugins =>
    by_cases hnull : Extensionless attrs ∧ ∃ plugin ∈ plugins, pluginGetDataTypes plugin ≠ []
    · simp only [hplugins, bind, Except.bind, lookupPlugin_error hnull.1 hnull.2] at h
      cases h
    · simp only [hplugins, bind, Except.bind, lookupPlugin_eq plugins hnull] at h
      cases hfirst : firstWanted plugins attrs with
      | none =>
        rw [hfirst] at h
        cases h
      | some found =>
        obtain ⟨used, dataType⟩ := found
        rw [hfirst] at h
        cases h
        obtain ⟨before, after, -, -, hfind⟩ := firstWanted_eq_some_iff.mp hfirst
        exact ⟨dataType, List.mem_of_find?_eq_some hfind, List.find?_some hfind, rfl⟩

/-- g_NPP_New() gives each name once. -/
theorem newArgs_nodup {order : Attrs → List (List UInt8 × List UInt8)} {attrs : Attrs} (horder : (order attrs).Perm (pairs attrs))
    (hfits : Fits attrs) (w h : UInt32) : ((newArgs order attrs w h).map Prod.fst).Nodup := by
  have hnames : ((order attrs).map Prod.fst).Perm attrs.keys := map_fst_pairs attrs ▸ horder.map Prod.fst
  rw [newArgs, List.map_append, List.nodup_append]
  refine ⟨hnames.nodup_iff.mpr attrs.keys_nodup, (by decide : [ascii "width", ascii "height"].Nodup), ?_⟩
  intro name hname other hother
  have hfit := hfits name (AList.mem_keys.mpr (hnames.mem_iff.mp hname))
  rcases List.mem_cons.mp hother with rfl | hother
  · exact hfit.2.1
  · rw [List.mem_singleton.mp hother]
    exact hfit.2.2

/-- A system with one plugin. -/
def oneHost : PlayerHost where
  homeDir := ascii "/root"
  mozPluginPath := none
  currentDir := ascii "/"
  fileExists _ := false
  isDir path := path == ascii "/usr/lib/mozilla/plugins"
  readDir path := if path = ascii "/usr/lib/mozilla/plugins" then some [ascii "p.so"] else none
  dlopen path := if path = ascii "/usr/lib/mozilla/plugins/p.so" then some ⟨true, true, some (some (ascii "a/b:x,y:d;")), true⟩ else none

def oneDesc : PluginDescriptor := { pluginDescriptorNew with attrs := AList.insert srcName (ascii "f.y") ∅ }

def onePlugin : Plugin := ⟨ascii "/usr/lib/mozilla/plugins/p.so", some (ascii "a/b:x,y:d;")⟩

theorem oneHost_parse : oneHost.parse [ascii "SRC=f.y"] = .ok (.line ⟨false, false, ascii "nspluginplayer", 0, [oneDesc], some oneDesc⟩) := by
  rfl

theorem oneHost_run : oneHost.runDescriptor pairs oneDesc =
    .ok (onePlugin, pluginStart pairs oneDesc (withType oneDesc.attrs ⟨ascii "a/b", ascii "y", ascii "d"⟩)) := by
  rfl

end Player
end NSPluginWrapper
