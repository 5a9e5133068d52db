import NSPluginWrapper.Plugin.Update
import NSPluginWrapper.Theorems.Install

/-! An update may lose a wrapper only where it takes the wrapper for all users itself for a second one. -/

namespace NSPluginWrapper
open Lib

/-- A wrapper of a plugin. -/
def Wraps {ι : Type} (files : PluginFiles ι) (path : CString) (e : ι) : Prop :=
  ∃ file info, files e = some file ∧ file.descriptor = some info ∧ info.path = path

namespace PluginDirs

variable {ι : Type} [DecidableEq ι] {dirs : PluginDirs ι} {b : Build} {o : UpdateSteps} {files : PluginFiles ι} {s s' : Updating ι}
  {path : CString} {pluginPath : List UInt8} {info : NPWPluginInfo}

/-! ### What an installation leaves -/

/-- Nothing, or one more wrapper of the plugin in a plugin directory. -/
inductive Installs (dirs : PluginDirs ι) (path : CString) (s : Updating ι) : Updating ι → Prop where
  | nothing : Installs dirs path s s
  | wrapper {e : ι} {file : PluginFile} {info : NPWPluginInfo} (he : dirs.InPluginDir e)
      (hfile : file.descriptor = some info) (hinfo : info.path = path) :
      Installs dirs path s { s with files := Function.update s.files e (some file) }

theorem Installs.removals (h : Installs dirs path s s') : s'.removals = s.removals := by
  cases h with
  | nothing => rfl
  | wrapper => rfl

/-- Where a wrapper of the plugin was, there is one. -/
theorem Installs.wraps (h : Installs dirs path s s') {e : ι} (he : Wraps s.files path e) : Wraps s'.files path e := by
  cases h with
  | nothing => exact he
  | @wrapper e' file info _ hfile hinfo =>
    rcases eq_or_ne e e' with rfl | hne
    · exact ⟨file, info, Function.update_self .., hfile, hinfo⟩
    · obtain ⟨file', info', hfile', hinfo'⟩ := he
      exact ⟨file', info', (Function.update_of_ne hne ..).trans hfile', hinfo'⟩

theorem wrapperPath_some {dir base : List UInt8} (h : wrapperPath dir base = some pluginPath) :
    pluginPath = dir ++ ascii "/" ++ (ascii "npwrapper." ++ base) := by
  simp only [wrapperPath] at h
  split at h
  · cases h
  · exact (Option.some.inj h).symm

theorem doInstallPlugin_installs {dir : List UInt8} {outcome : InstallOutcome}
    (hdir : ∀ name, dirs.InPluginDir (dirs.resolve (dir ++ ascii "/" ++ name))) :
    ((dirs.doInstallPlugin b s path dir outcome).1 ≠ 0 → (dirs.doInstallPlugin b s path dir outcome).2 = s) ∧
      Installs dirs path s (dirs.doInstallPlugin b s path dir outcome).2 := by
  rw [doInstallPlugin]
  split
  · exact ⟨fun _ => rfl, .nothing⟩
  split
  · exact ⟨fun _ => rfl, .nothing⟩
  rename_i dPluginPath hpath
  split
  · exact ⟨fun _ => rfl, .nothing⟩
  · exact ⟨fun _ => rfl, .nothing⟩
  · rw [wrapperPath_some hpath]
    exact ⟨fun h => absurd rfl h, .wrapper (hdir _) rfl rfl⟩

theorem installUser_installs : Installs dirs path s (dirs.installUser b o s path).2 := by
  rw [installUser]
  split
  · exact .nothing
  split
  · exact .nothing
  rename_i userDir huser
  split
  · exact .nothing
  · exact (doInstallPlugin_installs (dirs.user_in userDir huser)).2

theorem installPlugin_installs : Installs dirs path s (dirs.installPlugin b o s path).2 := by
  obtain ⟨hfails, hsystem⟩ := @doInstallPlugin_installs _ _ dirs b s path _ o.systemInstall dirs.system_in
  rw [installPlugin]
  split
  · split
    · rename_i s' hret
      rw [hret] at hsystem
      exact hsystem
    · rename_i ret s' hret
      rw [hret] at hfails
      rw [show s' = s from hfails (Nat.succ_ne_zero ret)]
      exact installUser_installs
  · exact installUser_installs

/-! ### Which wrappers are removed -/

/-- A wrapper of another place, for all users. -/
def alreadySystemWide (dirs : PluginDirs ι) (b : Build) (files : PluginFiles ι) (pluginPath path : List UInt8) : Bool :=
  dirs.hasSystemWideWrapperPlugin b files path true && !dirs.systemMozillaPluginDir.isPrefixOf pluginPath

/-- A plugin of root that has a wrapper for all users. -/
def rootOnlySystemWide (dirs : PluginDirs ι) (b : Build) (files : PluginFiles ι) (path : List UInt8) : Bool :=
  dirs.hasSystemWideWrapperPlugin b files path false && dirs.isRootOnlyAccessiblePlugin path

def removes (dirs : PluginDirs ι) (b : Build) (files : PluginFiles ι) (pluginPath path : List UInt8) : Bool :=
  !dirs.access files path || dirs.alreadySystemWide b files pluginPath path || dirs.rootOnlySystemWide b files path

/-- After unlink(). -/
def removed (dirs : PluginDirs ι) (s : Updating ι) (pluginPath : List UInt8) : Updating ι where
  files := Function.update s.files (dirs.resolve pluginPath) none
  removals := s.removals ++ [(dirs.resolve pluginPath, s.files)]

theorem updatePlugin_removes (hw : dirs.isWrapperPlugin s.files pluginPath = some info)
    (hr : dirs.removes b s.files pluginPath info.path.bytes = true) :
    if o.unlinks then Installs dirs info.path (dirs.removed s pluginPath) (dirs.updatePlugin b o s pluginPath).2
    else (dirs.updatePlugin b o s pluginPath).2 = s := by
  have hremove : dirs.removePlugin o s pluginPath = if o.unlinks then (0, dirs.removed s pluginPath) else (1, s) := rfl
  rw [updatePlugin, hw]
  simp only [Option.getD_some, hremove]
  rw [removes, alreadySystemWide, rootOnlySystemWide] at hr
  cases o.unlinks with
  | false =>
    simp only [Bool.false_eq_true, if_false]
    split
    · rfl
    split
    · rfl
    split
    · rfl
    · rename_i h₁ h₂ h₃
      rw [Bool.eq_false_iff.mpr h₁, Bool.eq_false_iff.mpr h₂, Bool.eq_false_iff.mpr h₃] at hr
      exact absurd hr (by simp)
  | true =>
    simp only [if_true]
    split
    · exact .nothing
    split
    · exact .nothing
    split
    · exact installPlugin_installs
    · rename_i h₁ h₂ h₃
      rw [Bool.eq_false_iff.mpr h₁, Bool.eq_false_iff.mpr h₂, Bool.eq_false_iff.mpr h₃] at hr
      exact absurd hr (by simp)

theorem updatePlugin_stays (hw : dirs.isWrapperPlugin s.files pluginPath = some info)
    (hr : dirs.removes b s.files pluginPath info.path.bytes = false) :
    Installs dirs info.path s (dirs.updatePlugin b o s pluginPath).2 := by
  rw [removes, alreadySystemWide, rootOnlySystemWide, Bool.or_eq_false_iff, Bool.or_eq_false_iff] at hr
  obtain ⟨⟨h₁, h₂⟩, h₃⟩ := hr
  rw [updatePlugin, hw]
  simp only [Option.getD_some, h₁, h₂, h₃, Bool.false_eq_true, if_false]
  split
  · exact installPlugin_installs
  split
  · exact installPlugin_installs
  · exact .nothing

/-! ### When a plugin keeps a wrapper -/

/-- A wrapper of the plugin is left, and whenever a file was removed the plugin was gone or had another one. -/
structure Keeps (dirs : PluginDirs ι) (path : CString) (s : Updating ι) : Prop where
  left : ∃ e, dirs.InPluginDir e ∧ Wraps s.files path e
  removals : ∀ r ∈ s.removals, r.2 (dirs.resolve path.bytes) = none ∨ ∃ e, e ≠ r.1 ∧ dirs.InPluginDir e ∧ Wraps r.2 path e

def HasOther (dirs : PluginDirs ι) (files : PluginFiles ι) (pluginPath : List UInt8) (path : CString) : Prop :=
  ∃ e, e ≠ dirs.resolve pluginPath ∧ dirs.InPluginDir e ∧ Wraps files path e

/-- The wrapper for all users. -/
def IsSystemWide (dirs : PluginDirs ι) (pluginPath path : List UInt8) : Prop :=
  ∃ sPluginPath, dirs.systemWrapperPath path = some sPluginPath ∧ dirs.resolve sPluginPath = dirs.resolve pluginPath

/-- An update does not take the plugin for gone, nor its only wrapper for one that may go. -/
def Spares (dirs : PluginDirs ι) (b : Build) (files : PluginFiles ι) (pluginPath : List UInt8) (path : CString) : Prop :=
  dirs.reaches path.bytes = true ∧
    (dirs.alreadySystemWide b files pluginPath path.bytes = true ∨ dirs.rootOnlySystemWide b files path.bytes = true →
      ¬dirs.IsSystemWide pluginPath path.bytes)

omit [DecidableEq ι] in
/-- The wrapper for all users that is found is one, and in a plugin directory. -/
theorem hasSystemWide_wraps {checkIdent : Bool} (h : dirs.hasSystemWideWrapperPlugin b files path.bytes checkIdent = true) :
    ∃ sPluginPath, dirs.systemWrapperPath path.bytes = some sPluginPath ∧ dirs.InPluginDir (dirs.resolve sPluginPath) ∧
      Wraps files path (dirs.resolve sPluginPath) := by
  rw [hasSystemWideWrapperPlugin] at h
  split at h
  · cases h
  rename_i sPluginPath hs
  split at h
  swap
  · cases h
  rename_i mtime info _ hw
  simp only [Bool.and_eq_true, beq_iff_eq] at h
  obtain ⟨⟨hpath, -⟩, -⟩ := h
  obtain ⟨base, -, hbase⟩ := Option.bind_eq_some_iff.mp hs
  obtain ⟨file, hfile, hinfo⟩ := Option.bind_eq_some_iff.mp hw
  rw [PluginDirs.file] at hfile
  split at hfile
  · refine ⟨sPluginPath, hs, ?_, file, info, hfile, hinfo, ?_⟩
    · rw [wrapperPath_some hbase]
      exact dirs.system_in _
    · rw [← CString.ofBytes_bytes info.path, hpath, CString.ofBytes_bytes]
  · cases hfile

omit [DecidableEq ι] in
theorem not_mem_second (h : ¬dirs.IsSystemWide pluginPath path.bytes) {checkIdent : Bool}
    (hs : dirs.hasSystemWideWrapperPlugin b files path.bytes checkIdent = true) : dirs.HasOther files pluginPath path := by
  obtain ⟨sPluginPath, hpath, hin, hwraps⟩ := hasSystemWide_wraps hs
  exact ⟨_, fun heq => h ⟨sPluginPath, hpath, heq⟩, hin, hwraps⟩

omit [DecidableEq ι] in
/-- What is removed then has another wrapper beside it. -/
theorem Spares.hasOther (h : dirs.Spares b files pluginPath path) (hplugin : files (dirs.resolve path.bytes) ≠ none)
    (hr : dirs.removes b files pluginPath path.bytes = true) : dirs.HasOther files pluginPath path := by
  obtain ⟨hreach, hspare⟩ := h
  have haccess : dirs.access files path.bytes = true := by
    rw [access, PluginDirs.file, if_pos hreach]
    exact Option.isSome_iff_ne_none.mpr hplugin
  rw [removes, haccess, Bool.not_true, Bool.false_or, Bool.or_eq_true] at hr
  have hnot := hspare hr
  rcases hr with hr | hr
  · rw [alreadySystemWide, Bool.and_eq_true] at hr
    exact not_mem_second hnot hr.1
  · rw [rootOnlySystemWide, Bool.and_eq_true] at hr
    exact not_mem_second hnot hr.1

omit [DecidableEq ι] in
theorem removes_of_not_spares (h : ¬dirs.Spares b files pluginPath path) :
    dirs.removes b files pluginPath path.bytes = true := by
  rw [removes, Bool.or_assoc, Bool.or_eq_true]
  by_cases hreach : dirs.reaches path.bytes = true
  · right
    rw [Bool.or_eq_true]
    by_contra hnone
    exact h ⟨hreach, fun hr => absurd hr hnone⟩
  · left
    rw [access, PluginDirs.file, if_neg hreach]
    rfl

theorem HasOther.removed {s : Updating ι} (h : dirs.HasOther s.files pluginPath path) :
    ∃ e, dirs.InPluginDir e ∧ Wraps (dirs.removed s pluginPath).files path e := by
  obtain ⟨e, hne, hin, file, info, hfile, hinfo⟩ := h
  exact ⟨e, hin, file, info, (Function.update_of_ne hne ..).trans hfile, hinfo⟩

/-- Nothing was removed. -/
theorem Installs.keeps (h : Installs dirs path ⟨files, []⟩ s') {e : ι} (hin : dirs.InPluginDir e) (he : Wraps files path e) :
    dirs.Keeps path s' where
  left := ⟨e, hin, h.wraps he⟩
  removals r hr := by
    rw [h.removals] at hr
    cases hr

theorem updatePlugin_keeps (hw : dirs.isWrapperPlugin files pluginPath = some info)
    (hin : dirs.InPluginDir (dirs.resolve pluginPath)) (hwraps : Wraps files info.path (dirs.resolve pluginPath))
    (hspare : o.unlinks = false ∨ dirs.removes b files pluginPath info.path.bytes = false ∨
      dirs.HasOther files pluginPath info.path) :
    dirs.Keeps info.path (dirs.updatePlugin b o ⟨files, []⟩ pluginPath).2 := by
  cases hr : dirs.removes b files pluginPath info.path.bytes with
  | false => exact (updatePlugin_stays hw hr).keeps hin hwraps
  | true =>
    have hupdate := updatePlugin_removes (o := o) (s := ⟨files, []⟩) hw hr
    cases hu : o.unlinks with
    | false =>
      rw [hu, if_neg Bool.false_ne_true] at hupdate
      rw [hupdate]
      exact Installs.nothing.keeps hin hwraps
    | true =>
      rw [hu, if_pos rfl] at hupdate
      rw [hu, hr] at hspare
      have hother : dirs.HasOther files pluginPath info.path := by simpa using hspare
      obtain ⟨e, hin', he⟩ := HasOther.removed (s := ⟨files, []⟩) hother
      refine ⟨⟨e, hin', hupdate.wraps he⟩, ?_⟩
      rw [hupdate.removals]
      rintro r hr
      rw [List.mem_singleton.mp hr]
      exact .inr hother

theorem updatePlugin_loses (hw : dirs.isWrapperPlugin files pluginPath = some info)
    (hplugin : files (dirs.resolve info.path.bytes) ≠ none) (hu : o.unlinks = true)
    (hr : dirs.removes b files pluginPath info.path.bytes = true) (hnone : ¬dirs.HasOther files pluginPath info.path) :
    ¬dirs.Keeps info.path (dirs.updatePlugin b o ⟨files, []⟩ pluginPath).2 := by
  have hupdate := updatePlugin_removes (o := o) (s := ⟨files, []⟩) hw hr
  rw [hu, if_pos rfl] at hupdate
  intro hkeeps
  have hmem : (dirs.resolve pluginPath, files) ∈ (dirs.updatePlugin b o ⟨files, []⟩ pluginPath).2.removals := by
    rw [hupdate.removals]
    exact List.mem_singleton_self _
  rcases hkeeps.removals _ hmem with hgone | hother
  · exact hplugin hgone
  · exact hnone hother

def rootPlugin : CString := .ofBytes (ascii "/root/np/foo.so")

def rootWrapper : List UInt8 := ascii "/usr/lib/mozilla/plugins/npwrapper.foo.so"

def rootDirs : PluginDirs (List UInt8) where
  resolve := id
  reaches := fun _ => true
  systemMozillaPluginDir := ascii "/usr/lib/mozilla/plugins"
  userMozillaPluginDir := some (ascii "/root/.mozilla/plugins")
  rootDir := some (ascii "/root")
  InPluginDir := fun _ => True
  system_in := fun _ => trivial
  user_in := fun _ _ _ => trivial

/-- The plugin and its one wrapper, for all users. -/
def rootFiles : PluginFiles (List UInt8) := fun e =>
  if e = rootPlugin.bytes then some ⟨5, none⟩
  else if e = rootWrapper then some ⟨7, some (installed release rootPlugin 5 flashTarget 2)⟩
  else none

/-- The disk is full. -/
def fullDisk (unlinks : Bool) : UpdateSteps where
  unlinks
  systemInstall := .stops 4 (by decide)
  makesUserDir := true
  userInstall := .stops 4 (by decide)

theorem rootFiles_wrapper :
    rootDirs.isWrapperPlugin rootFiles rootWrapper = some (installed release rootPlugin 5 flashTarget 2) := by
  decide

theorem rootFiles_alone : ¬rootDirs.HasOther rootFiles rootWrapper rootPlugin := by
  rintro ⟨e, hne, -, file, info, hfile, hinfo, -⟩
  rw [rootFiles] at hfile
  split at hfile
  · cases hfile
    cases hinfo
  split at hfile
  · rename_i heq
    exact hne heq
  · cases hfile

end PluginDirs

/-! ### The installation of an update -/

namespace PluginDirs

variable {ι : Type} [DecidableEq ι] (dirs : PluginDirs ι) (s : Updating ι) {b : Build} {host : InstallHost} {handle : Handle} {pi : Nat}
  {pluginPath pluginDir : CString} {pluginInfo : Option PluginTarget} {r : Installed}

theorem wrapperPath_eq (dir base : List UInt8) :
    dir ++ ascii "/npwrapper." ++ base = dir ++ ascii "/" ++ (ascii "npwrapper." ++ base) := by
  rw [show ascii "/npwrapper." = ascii "/" ++ ascii "npwrapper." by decide]
  simp only [List.append_assoc]

/-- Success is no code. -/
def IsCode : InstallStop → Prop
  | .code ret => ret ≠ 0
  | .fault => True

/-- An installation that stops has a code for it. -/
abbrev Coded {α : Type} (x : Install α) : Prop := StopsWith IsCode x

theorem strcpyFrom_coded (mem : List UInt8) (ofs size : Nat) : Coded (strcpyFrom mem ofs size) :=
  .ite (StopsWith.ok _) (StopsWith.error trivial)

theorem memcpyTo_coded (mem : List UInt8) (ofs : Nat) (bs : List UInt8) : Coded (memcpyTo mem ofs bs) :=
  .ite (StopsWith.ok _) (StopsWith.error trivial)

theorem memberFrom_coded (version since : Int) (mem : List UInt8) (ofs size : Nat) :
    Coded (memberFrom version since mem ofs size) :=
  .ite (strcpyFrom_coded _ _ _) (StopsWith.ok _)

theorem isWrapperPluginHandle_coded (mem : List UInt8) : Coded (isWrapperPluginHandle handle mem) := by
  rw [isWrapperPluginHandle]
  refine .ite (StopsWith.ok _) ?_
  cases handle.npwPlugin with
  | none => exact StopsWith.ok _
  | some pi =>
    exact (strcpyFrom_coded _ _ _).bind fun _ => (strcpyFrom_coded _ _ _).bind fun _ => (memberFrom_coded _ _ _ _ _).bind fun _ =>
      (memberFrom_coded _ _ _ _ _).bind fun _ => (memberFrom_coded _ _ _ _ _).bind fun _ => StopsWith.ok _

theorem findDescriptor_coded : Coded (findDescriptor b host) := by
  rw [findDescriptor]
  split
  · exact StopsWith.error (by simp [IsCode])
  refine (isWrapperPluginHandle_coded _).bind fun w => ?_
  cases w with
  | none => exact StopsWith.error (by simp [IsCode])
  | some w =>
    refine .ite (StopsWith.error (by simp [IsCode])) (.ite (StopsWith.error (by simp [IsCode])) (.ite (StopsWith.error (by simp [IsCode])) (.ite (StopsWith.error (by simp [IsCode]))
      (.ite (StopsWith.error (by simp [IsCode])) ?_))))
    split
    · exact StopsWith.error (by simp [IsCode])
    · exact StopsWith.ok _

theorem viewer_coded {ret : Nat} (h : ret ≠ 0) (target : PluginTarget) : Coded
    (if target.viewerPath.bytes = [] then
      match host.isPluginViewerAvailable pluginPath target with
      | none => .error (.code ret)
      | some target => .ok target
    else .ok target) := by
  refine .ite ?_ (StopsWith.ok _)
  split
  · exact StopsWith.error h
  · exact StopsWith.ok _

theorem completeTarget_coded (target : PluginTarget) : Coded (completeTarget host pluginPath target) := by
  rw [completeTarget]
  refine .ite ?_ ((StopsWith.ok _).bind (viewer_coded (by simp)))
  split
  · exact (StopsWith.error (by simp [IsCode])).bind (viewer_coded (by simp))
  · exact (StopsWith.ok _).bind (viewer_coded (by simp))

theorem patchImage_coded (structVersion : Int8) (ofs : Nat) : Coded (patchImage host pluginPath pluginInfo structVersion ofs) := by
  refine (memcpyTo_coded _ _ _).bind fun data => ?_
  split
  · exact StopsWith.error (by simp [IsCode])
  · exact StopsWith.error (by simp [IsCode])
  · refine (completeTarget_coded _).bind fun target => StopsWith.bind ?_ fun _ => StopsWith.ok _
    exact (memcpyTo_coded _ _ _).bind fun _ => (memcpyTo_coded _ _ _).bind fun _ => (memcpyTo_coded _ _ _).bind fun _ =>
      (memcpyTo_coded _ _ _).bind fun _ => memcpyTo_coded _ _ _

/-- An installation that stops changes no file. -/
theorem doInstallPlugin_refined_code {ret : Nat}
    (hret : NSPluginWrapper.doInstallPlugin b host pluginPath (some pluginDir) pluginInfo = .error (.code ret)) :
    ∃ outcome, dirs.doInstallPlugin b s pluginPath pluginDir.bytes outcome = (ret, s) := by
  unfold NSPluginWrapper.doInstallPlugin at hret
  cases hbase : strrchr pluginPath.bytes 47 with
  | none =>
    rw [hbase] at hret
    cases hret
    exact ⟨.stops 2 (by simp), by simp [doInstallPlugin, hbase]⟩
  | some base =>
    rw [hbase] at hret
    dsimp only at hret
    by_cases hlong : pathMax ≤ (pluginDir.bytes ++ ascii "/npwrapper." ++ base).length
    · rw [if_pos hlong] at hret
      cases hret
      rw [wrapperPath_eq] at hlong
      exact ⟨.stops 3 (by simp), by simp only [doInstallPlugin, hbase, wrapperPath, if_pos hlong]⟩
    · rw [if_neg hlong] at hret
      have hcoded : ret ≠ 0 := by
        refine StopsWith.bind (p := IsCode) findDescriptor_coded (fun found => ?_) (.code ret) hret
        exact (patchImage_coded _ _).bind fun _ => .ite (StopsWith.ok _) (StopsWith.error (by simp [IsCode]))
      rw [wrapperPath_eq] at hlong
      exact ⟨.stops ret hcoded, by simp only [doInstallPlugin, hbase, wrapperPath, if_neg hlong]⟩

/-- An installation that is done writes the wrapper that an update has then. -/
theorem doInstallPlugin_refined (hstat : dirs.stat s.files pluginPath.bytes = host.stat) (hdlopen : host.dlopen = some handle)
    (hdlsym : handle.npwPlugin = some pi) (hd : IsDescriptor b host.image pi)
    (hfirst : ∀ i, identSize ≤ i → i < pi + identSize → ¬Matches b host.image b.pluginIdent.length i)
    (hpath : pluginPath.bytes.length < pathMax) (hfits : r.pluginInfo.Fits)
    (hret : NSPluginWrapper.doInstallPlugin b host pluginPath (some pluginDir) pluginInfo = .ok r) (mtime : Int64) :
    ∃ info, isWrapperPluginHandle handle r.contents = .ok (some info) ∧
      dirs.doInstallPlugin b s pluginPath pluginDir.bytes (.writes mtime r.pluginInfo 2) =
        (0, { s with files := Function.update s.files (dirs.resolve r.path) (some ⟨mtime, some info⟩) }) := by
  obtain ⟨-, pluginMtime, target, hmtime, -, -, hread⟩ := doInstallPlugin_described hdlopen hdlsym hd hfirst hpath hfits hret
  obtain ⟨⟨dir, base, hdir, hbase, hdpath, hlen⟩, -⟩ := doInstallPlugin_ok hret
  cases hdir
  refine ⟨_, hread, ?_⟩
  have hident : CString.ofBytes b.pluginIdent = b.ident := CString.ofBytes_bytes b.ident
  have hwrapper : wrapperPath pluginDir.bytes base = some r.path := by
    rw [wrapperPath, ← wrapperPath_eq, ← hdpath]
    exact if_neg (Nat.not_le.mpr hlen)
  simp only [doInstallPlugin, hbase, hwrapper, hstat, hmtime, installed, hident]

end PluginDirs

end NSPluginWrapper
