import NSPluginWrapper.Plugin.Config
import NSPluginWrapper.Theorems.Detect
import NSPluginWrapper.Theorems.Update

/-! Whatever it is told, the program does two things to files: it removes wrappers, and it writes wrappers of plugins
    that are there. -/

namespace NSPluginWrapper
open Lib

section
variable {ι : Type} [DecidableEq ι] {dirs : PluginDirs ι} {b : Build} {masters : List (List UInt8)} {s t : Updating ι}
  {o : UpdateSteps} {path : CString} {pluginPath : List UInt8} {info : NPWPluginInfo}

/-! ### What is done to files -/

/-- A wrapper that others are not made from is removed, or one is written in the system's directory or the user's, under
    the name of a plugin that is there. -/
inductive Manages (dirs : PluginDirs ι) (masters : List (List UInt8)) : Updating ι → Updating ι → Prop where
  | removes {s : Updating ι} {pluginPath : List UInt8} {info : NPWPluginInfo}
      (hwrapper : dirs.isWrapperPlugin s.files pluginPath = some info) (hmaster : pluginPath ∉ masters) :
      Manages dirs masters s (dirs.removed s pluginPath)
  | writes {s : Updating ι} {path : CString} {dir base dPluginPath : List UInt8} {file : PluginFile} {info : NPWPluginInfo}
      (hdir : dir = dirs.systemMozillaPluginDir ∨ dirs.userMozillaPluginDir = some dir)
      (hbase : strrchr path.bytes 47 = some base) (hwrapper : PluginDirs.wrapperPath dir base = some dPluginPath)
      (hplugin : dirs.access s.files path.bytes = true) (hfile : file.descriptor = some info) (hinfo : info.path = path) :
      Manages dirs masters s { s with files := Function.update s.files (dirs.resolve dPluginPath) (some file) }

/-- Any number of times. -/
abbrev Managed (dirs : PluginDirs ι) (masters : List (List UInt8)) : Updating ι → Updating ι → Prop :=
  Relation.ReflTransGen (Manages dirs masters)

namespace PluginDirs

theorem doInstallPlugin_managed {dir : List UInt8} {outcome : InstallOutcome}
    (hdir : dir = dirs.systemMozillaPluginDir ∨ dirs.userMozillaPluginDir = some dir) :
    Managed dirs masters s (dirs.doInstallPlugin b s path dir outcome).2 := by
  rw [doInstallPlugin]
  split
  · exact .refl
  rename_i base hbase
  split
  · exact .refl
  rename_i dPluginPath hwrapper
  split
  · exact .refl
  · exact .refl
  · rename_i mtime target structVersion pluginMtime hstat
    refine .single (.writes hdir hbase hwrapper ?_ rfl rfl)
    rw [stat] at hstat
    obtain ⟨file, hfile, -⟩ := Option.map_eq_some_iff.mp hstat
    rw [access, hfile]
    rfl

theorem installUser_managed : Managed dirs masters s (dirs.installUser b o s path).2 := by
  rw [installUser]
  split
  · exact .refl
  split
  · exact .refl
  rename_i userDir huser
  split
  · exact .refl
  · exact doInstallPlugin_managed (.inr huser)

theorem installPlugin_managed : Managed dirs masters s (dirs.installPlugin b o s path).2 := by
  rw [installPlugin]
  split
  · have hsystem := @doInstallPlugin_managed _ _ dirs b masters s path _ o.systemInstall (.inl rfl)
    split
    · rename_i s' hret
      rwa [hret] at hsystem
    · rename_i ret s' hret
      rw [hret] at hsystem
      exact hsystem.trans installUser_managed
  · exact installUser_managed

theorem removePlugin_managed (hw : dirs.isWrapperPlugin s.files pluginPath = some info) (hm : pluginPath ∉ masters) :
    Managed dirs masters s (dirs.removePlugin o s pluginPath).2 := by
  rw [removePlugin]
  split
  · exact .single (.removes hw hm)
  · exact .refl

theorem updatePlugin_managed (hw : dirs.isWrapperPlugin s.files pluginPath = some info) (hm : pluginPath ∉ masters) :
    Managed dirs masters s (dirs.updatePlugin b o s pluginPath).2 := by
  have hremove := removePlugin_managed (o := o) hw hm
  rw [updatePlugin, hw]
  dsimp only [Option.getD_some]
  split
  · exact hremove
  split
  · exact hremove
  split
  · split
    · rename_i s' hret
      rw [hret] at hremove
      exact hremove.trans installPlugin_managed
    · rename_i ret s' hret
      rwa [hret] at hremove
  split
  · exact installPlugin_managed
  split
  · exact installPlugin_managed
  · exact .refl

end PluginDirs
end

/-! ### A whole run -/

namespace Config

variable {ι : Type} {dirs : PluginDirs ι} {b : Build} {host : ConfigHost} {c : Config ι}
  {visit : List UInt8 → Encounter → Pass ι} {each : List UInt8 × Nat → Pass ι} {args : List (List UInt8)}

theorem isWrapperPlugin0_some {pluginPath : List UInt8} {info : NPWPluginInfo} :
    isWrapperPlugin0 dirs host c pluginPath = some info ↔
      dirs.isWrapperPlugin c.files.files pluginPath = some info ∧ pluginPath ∉ host.masterPluginPaths := by
  rw [isWrapperPlugin0]
  cases dirs.isWrapperPlugin c.files.files pluginPath with
  | none => simp
  | some found =>
    by_cases hmaster : pluginPath ∈ host.masterPluginPaths
    · simp [hmaster]
    · simp [hmaster]

theorem ignoreReturn_files (r : Nat × Updating ι) : (ignoreReturn (c.withFiles r)).2.files = r.2 := rfl

theorem stopOnReturn_files (r : Nat × Updating ι) : (stopOnReturn (c.withFiles r)).2.files = r.2 := by
  rcases r with ⟨ret, files⟩
  cases ret with
  | zero => rfl
  | succ ret => rfl

theorem finish_files (r : Option ConfigEnd × Config ι) : (finish r).2 = r.2 := by
  rcases r with ⟨e, c⟩
  cases e with
  | none => rfl
  | some e => rfl

theorem listPlugin_files (path : List UInt8) (e : Encounter) (c : Config ι) : (listPlugin dirs host path e c).2.files = c.files := by
  rw [listPlugin]
  split
  · rfl
  split
  · rfl
  · rfl

/-- The plugins in the directories, one by one. -/
def listed (dirs : PluginDirs ι) (host : ConfigHost) : List (List UInt8 × Encounter) :=
  (mozillaPluginDirs dirs host).zipIdx.flatMap fun dir =>
    (host.readdir dir.2).elim [] fun entries => entries.map fun entry => (dir.1 ++ slash ++ entry.1, entry.2)

theorem autoPass_eq : autoPass dirs host visit c = runEach (fun entry => visit entry.1 entry.2) (listed dirs host) c := by
  rw [autoPass, listed, ← runEach_flatMap]
  congr 1
  funext dir c
  rw [processPluginDir]
  cases host.readdir dir.2 with
  | none => rfl
  | some entries =>
    exact runEach_map (fun entry : List UInt8 × Encounter => visit entry.1 entry.2)
      (fun entry : List UInt8 × Encounter => (dir.1 ++ slash ++ entry.1, entry.2)) entries c

variable [DecidableEq ι]

/-- What a part of the program does. -/
def Does (dirs : PluginDirs ι) (host : ConfigHost) (c c' : Config ι) : Prop := Managed dirs host.masterPluginPaths c.files c'.files

theorem Does.refl (c : Config ι) : Does dirs host c c := Relation.ReflTransGen.refl

theorem Does.trans {c' c'' : Config ι} (h : Does dirs host c c') (h' : Does dirs host c' c'') : Does dirs host c c'' :=
  Relation.ReflTransGen.trans h h'

theorem autoPass_does (h : ∀ path e c, Does dirs host c (visit path e c).2) : Does dirs host c (autoPass dirs host visit c).2 := by
  rw [autoPass_eq]
  exact runEach_rel Does.refl Does.trans (fun entry _ c => h entry.1 entry.2 c) c

theorem processArgs_does {what : List UInt8} (hvisit : ∀ path e c, Does dirs host c (visit path e c).2)
    (heach : ∀ arg c, Does dirs host c (each arg c).2) :
    Does dirs host c (processArgs what (autoPass dirs host visit) each args c).2 := by
  rw [processArgs]
  split
  · rw [finish_files]
    exact autoPass_does hvisit
  split
  · exact .refl c
  · rw [finish_files]
    exact runEach_rel Does.refl Does.trans (fun arg _ c => heach arg c) c

theorem processUpdate_does : Does dirs host c (processUpdate dirs b host args c).2 := by
  refine processArgs_does (fun path e c => ?_) (fun arg c => ?_)
  · rw [autoUpdate]
    split
    · exact .refl c
    rename_i info hinfo
    obtain ⟨hw, hm⟩ := isWrapperPlugin0_some.mp hinfo
    rw [Does, ignoreReturn_files]
    exact PluginDirs.updatePlugin_managed hw hm
  · rw [argUpdate]
    split
    · exact .refl c
    rename_i info hinfo
    obtain ⟨hw, hm⟩ := isWrapperPlugin0_some.mp hinfo
    rw [Does, stopOnReturn_files]
    exact PluginDirs.updatePlugin_managed hw hm

theorem processRemove_does : Does dirs host c (processRemove dirs host args c).2 := by
  refine processArgs_does (fun path e c => ?_) (fun arg c => ?_)
  · rw [autoRemove]
    split
    · exact .refl c
    rename_i info hinfo
    obtain ⟨hw, hm⟩ := isWrapperPlugin0_some.mp hinfo
    rw [Does, ignoreReturn_files]
    exact PluginDirs.removePlugin_managed hw hm
  · rw [argRemove]
    split
    · exact .refl c
    rename_i info hinfo
    obtain ⟨hw, hm⟩ := isWrapperPlugin0_some.mp hinfo
    rw [Does, stopOnReturn_files]
    exact PluginDirs.removePlugin_managed hw hm

theorem processInstall_does : Does dirs host c (processInstall dirs b host args c).2 := by
  refine processArgs_does (fun path e c => ?_) (fun arg c => ?_)
  · rw [autoInstall]
    split
    · exact .refl c
    split
    · exact .refl c
    · rw [Does, ignoreReturn_files]
      exact PluginDirs.installPlugin_managed
    · exact .refl c
  · rw [argInstall]
    split
    · exact .refl c
    split
    · exact .refl c
    · rw [Does, stopOnReturn_files]
      exact PluginDirs.installPlugin_managed
    · exact .refl c
    · exact .refl c

omit [DecidableEq ι] in
theorem processList_files : (processList dirs host c).2.files = c.files := by
  rw [processList, finish_files, autoPass_eq]
  exact (runEach_rel (R := fun c c' : Config ι => c'.files = c.files) (fun _ => rfl) (fun h h' => h'.trans h)
    (fun entry _ c => listPlugin_files entry.1 entry.2 c) c)

theorem processCallback_does {callback : OptionCallback} :
    Does dirs host c (processCallback dirs b host callback args c).2 := by
  cases callback with
  | list => rw [processCallback, Does, processList_files]
  | update => exact processUpdate_does
  | install => exact processInstall_does
  | remove => exact processRemove_does
  | _ => exact Relation.ReflTransGen.refl

theorem processOptions_does : Does dirs host c (processOptions dirs b host args c).2 := by
  induction args generalizing c with
  | nil => exact .refl c
  | cons arg args ih =>
    rw [processOptions]
    split
    · exact .refl c
    rename_i opt _
    have hcallback : Does dirs host c (processCallback dirs b host opt.processCallback args c).2 := processCallback_does
    split
    · rename_i hret
      rwa [hret] at hcallback
    · rename_i hret
      rw [hret] at hcallback
      split
      · exact hcallback
      · exact hcallback.trans ih

theorem main_does {files : PluginFiles ι} :
    Managed dirs host.masterPluginPaths ⟨files, []⟩ (main dirs b host args files).2.files := by
  rw [main.eq_def]
  split
  · exact .refl
  split
  · exact .refl
  · exact processOptions_does (c := started files)

end Config

/-- No path that a wrapper may be removed under leads to it, and no wrapper is written there. -/
structure IsSpared {ι : Type} (dirs : PluginDirs ι) (masters : List (List UInt8)) (files : PluginFiles ι) (e : ι) : Prop where
  unwrapped : ∀ path, dirs.resolve path = e → path ∈ masters ∨ dirs.isWrapperPlugin files path = none
  unnamed : ∀ dir base path, dir = dirs.systemMozillaPluginDir ∨ dirs.userMozillaPluginDir = some dir →
    PluginDirs.wrapperPath dir base = some path → dirs.resolve path ≠ e

section
variable {ι : Type} [DecidableEq ι] {dirs : PluginDirs ι} {masters : List (List UInt8)} {s t : Updating ι} {files : PluginFiles ι} {e : ι}

omit [DecidableEq ι] in
theorem isWrapperPlugin_congr {path : List UInt8} {files' : PluginFiles ι} (h : files (dirs.resolve path) = files' (dirs.resolve path)) :
    dirs.isWrapperPlugin files path = dirs.isWrapperPlugin files' path := by
  rw [PluginDirs.isWrapperPlugin, PluginDirs.isWrapperPlugin, PluginDirs.file, PluginDirs.file, h]

theorem IsSpared.manages (h : IsSpared dirs masters files e) (hs : s.files e = files e) (hstep : Manages dirs masters s t) :
    t.files e = files e := by
  cases hstep with
  | @removes pluginPath info hwrapper hmaster =>
    have hne : e ≠ dirs.resolve pluginPath := by
      rintro rfl
      rcases h.unwrapped pluginPath rfl with hmem | hnone
      · exact hmaster hmem
      · rw [isWrapperPlugin_congr hs, hnone] at hwrapper
        cases hwrapper
    exact (Function.update_of_ne hne ..).trans hs
  | writes hdir hbase hwrapper hplugin hfile hinfo =>
    exact (Function.update_of_ne (h.unnamed _ _ _ hdir hwrapper).symm ..).trans hs

theorem IsSpared.managed (h : IsSpared dirs masters files e) (hs : s.files e = files e) (hrun : Managed dirs masters s t) :
    t.files e = files e := by
  induction hrun with
  | refl => exact hs
  | tail _ hstep ih => exact h.manages ih hstep

/-- What was removed was a wrapper, and there was a path to it that others are not made from. -/
def RemovedWrappers (dirs : PluginDirs ι) (masters : List (List UInt8)) (s : Updating ι) : Prop :=
  ∀ r ∈ s.removals, ∃ path, path ∉ masters ∧ dirs.resolve path = r.1 ∧ (dirs.isWrapperPlugin r.2 path).isSome

theorem RemovedWrappers.managed (hs : RemovedWrappers dirs masters s) (hrun : Managed dirs masters s t) : RemovedWrappers dirs masters t := by
  induction hrun with
  | refl => exact hs
  | tail _ hstep ih =>
    cases hstep with
    | @removes pluginPath info hwrapper hmaster =>
      intro r hr
      rcases List.mem_append.mp hr with hr | hr
      · exact ih r hr
      · rw [List.mem_singleton.mp hr]
        exact ⟨pluginPath, hmaster, rfl, by rw [hwrapper]; rfl⟩
    | writes hdir hbase hwrapper hplugin hfile hinfo => exact ih

end

def userWrapper : List UInt8 := ascii "/root/.mozilla/plugins/npwrapper.foo.so"

/-- A wrapper in the user's directory, and nothing else. -/
def userFiles : PluginFiles (List UInt8) := fun e => if e = userWrapper then some ⟨7, some (masterInfo 2)⟩ else none

/-- What the wrapper meets. -/
def wrapperEncounter : Encounter := ⟨none, oneViewer, PluginDirs.fullDisk true⟩

/-- There is no directory of the system. -/
def userHost : ConfigHost where
  masterPluginPaths := []
  access := fun _ => false
  readdir := fun _ => some [(ascii "npwrapper.foo.so", wrapperEncounter)]
  argument := fun _ => wrapperEncounter

/-- The plugin itself stays where it is, in whatever run. -/
theorem rootPlugin_spared : IsSpared PluginDirs.rootDirs [] userFiles PluginDirs.rootPlugin.bytes := by
  refine ⟨?_, ?_⟩
  · intro path hpath
    have heq : path = PluginDirs.rootPlugin.bytes := hpath
    subst heq
    exact .inr (by decide)
  · intro dir base path hdir hpath heq
    have hstart : path.take 7 = dir.take 7 ∧ dir.take 7 ≠ PluginDirs.rootPlugin.bytes.take 7 := by
      rw [PluginDirs.wrapperPath_some hpath]
      rcases hdir with rfl | hdir
      · exact ⟨rfl, by decide⟩
      · cases hdir
        exact ⟨rfl, by decide⟩
    exact hstart.2 (hstart.1.symm.trans (congrArg (List.take 7) heq))

end NSPluginWrapper
